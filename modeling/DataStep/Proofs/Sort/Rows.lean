import DataStep.Summary
import DataStep.Proofs.Merge.Participants

/-!
# Sorted rows without repeated keys

A stable sort is an ascending arrangement of the rows in which the rows of one key stand as they
stood before (`Row.StablySorts`); it is the only one (`StablySorts.unique`). Of the rows that are
alike in some sense, the first ones are left if every row is like one of them, which stands in front
of all others of its kind (`Row.FirstsOf`). Main statements: `Row.sortBy` is a stable sort
(`stablySorts_sortBy`), and `Row.firstOfEachKey` leaves the first rows of every key text
(`firstsOf_firstOfEachKey`).
-/

set_option autoImplicit false

namespace DataStep.Row

variable {vars : List String} {rows sorted sorted' kept seen : List Row} {row : Row}

/-! ## Stable sorting -/

/-- The rows of a list with the key of a row. -/
def withKeyOf (vars : List String) (row : Row) (rows : List Row) : List Row :=
  rows.filter fun other => decide (compareBy vars row other = .eq)

/-- The second list is the stable ascending sort of the first one. -/
structure StablySorts (vars : List String) (rows sorted : List Row) : Prop where
  perm : sorted.Perm rows
  ascending : Ascending vars sorted
  stable : ∀ row, withKeyOf vars row sorted = withKeyOf vars row rows

/-- Rows of one key are in ascending order however they stand. -/
theorem ascending_withKeyOf (row : Row) (rows : List Row) :
    Ascending vars (withKeyOf vars row rows) := by
  apply List.pairwise_of_forall_mem_list
  intro a ha b hb
  have hrow : ∀ {other : Row}, other ∈ withKeyOf vars row rows →
      compareBy vars row other = .eq := by
    intro other hother
    simpa using (List.mem_filter.1 hother).2
  have hab : compareBy vars a b = .eq :=
    Std.TransCmp.eq_trans (Std.OrientedCmp.eq_symm (hrow ha)) (hrow hb)
  rw [hab]
  rfl

/-- **Sorting is stable.** -/
theorem stablySorts_sortBy (vars : List String) (rows : List Row) :
    StablySorts vars rows (sortBy vars rows) where
  perm := sortBy_perm vars rows
  ascending := ascending_sortBy vars rows
  stable row := by
    have hsub : (withKeyOf vars row rows).Sublist (sortBy vars rows) := by
      apply List.sublist_mergeSort
      · intro a b c
        exact compareBy_isLE_trans
      · intro a b
        cases h : compareBy vars b a <;> simp [compareBy_swap vars a b, h]
      · exact ascending_withKeyOf row rows
      · exact List.filter_sublist
    have hkeys : (withKeyOf vars row rows).Sublist (withKeyOf vars row (sortBy vars rows)) := by
      have hfilter := hsub.filter fun other => decide (compareBy vars row other = .eq)
      simpa only [withKeyOf, List.filter_filter, Bool.and_self] using hfilter
    -- both have the same rows, so the longer one is not longer
    have hlength : (withKeyOf vars row (sortBy vars rows)).length =
        (withKeyOf vars row rows).length :=
      ((sortBy_perm vars rows).filter _).length_eq
    exact (hkeys.eq_of_length hlength.symm).symm

/-- The first rows of two ascending arrangements have one key. -/
theorem compareBy_heads_eq {a b : Row} (hperm : (a :: sorted).Perm (b :: sorted'))
    (h : Ascending vars (a :: sorted)) (h' : Ascending vars (b :: sorted')) :
    compareBy vars a b = .eq := by
  have hfirst : ∀ {head other : Row} {tail : List Row}, Ascending vars (head :: tail) →
      other ∈ head :: tail → (compareBy vars head other).isLE := by
    intro head other tail hascending hmem
    rcases List.mem_cons.1 hmem with rfl | hmem
    · have hself : compareBy vars other other = .eq := Std.ReflCmp.compare_self
      rw [hself]
      rfl
    · exact (List.pairwise_cons.1 hascending).1 other hmem
  have hab := hfirst h (hperm.mem_iff.2 List.mem_cons_self)
  have hba := hfirst h' (hperm.mem_iff.1 List.mem_cons_self)
  rw [compareBy_swap] at hba
  cases hcompare : compareBy vars a b with
  | eq => rfl
  | lt => rw [hcompare] at hba; cases hba
  | gt => rw [hcompare] at hab; cases hab

/-- **A list has one stable sort.** -/
theorem StablySorts.unique (h : StablySorts vars rows sorted) (h' : StablySorts vars rows sorted') :
    sorted = sorted' := by
  have hperm := h.perm.trans h'.perm.symm
  have hstable : ∀ row, withKeyOf vars row sorted = withKeyOf vars row sorted' :=
    fun row => (h.stable row).trans (h'.stable row).symm
  have hascending := h.ascending
  have hascending' := h'.ascending
  clear h h'
  induction sorted generalizing sorted' with
  | nil => exact hperm.nil_eq
  | cons a sorted ih =>
    cases sorted' with
    | nil => exact absurd hperm.length_eq (by simp)
    | cons b sorted' =>
      -- the rows of the least key begin with both heads
      obtain rfl : a = b := by
        have hkey := compareBy_heads_eq hperm hascending hascending'
        have hself : compareBy vars a a = .eq := Std.ReflCmp.compare_self
        have hheads := hstable a
        rw [withKeyOf, withKeyOf, List.filter_cons_of_pos (by simpa using hself),
          List.filter_cons_of_pos (by simpa using hkey)] at hheads
        exact (List.cons.inj hheads).1
      have htails : ∀ row, withKeyOf vars row sorted = withKeyOf vars row sorted' := by
        intro row
        have hrow := hstable row
        rw [withKeyOf, withKeyOf, List.filter_cons, List.filter_cons] at hrow
        split at hrow
        · exact (List.cons.inj hrow).2
        · exact hrow
      rw [ih (List.Perm.cons_inv hperm) htails hascending.of_cons hascending'.of_cons]

/-! ## First rows -/

/-- Of the rows that are alike, the first ones are left. -/
structure FirstsOf (alike : Row → Row → Prop) (rows kept : List Row) : Prop where
  sublist : kept.Sublist rows
  distinct : kept.Pairwise fun a b => ¬ alike a b
  first : ∀ row ∈ rows, ∃ k ∈ kept, alike k row ∧
    ∃ before after, rows = before ++ k :: after ∧ ∀ other ∈ before, ¬ alike other k

/-- Rows that are alike in one sense exactly if they are alike in another
have the same first rows. -/
theorem FirstsOf.congr {alike alike' : Row → Row → Prop} (h : FirstsOf alike rows kept)
    (hiff : ∀ a ∈ rows, ∀ b ∈ rows, alike a b ↔ alike' a b) : FirstsOf alike' rows kept where
  sublist := h.sublist
  distinct := h.distinct.imp_of_mem fun ha hb hnot =>
    (not_congr (hiff _ (h.sublist.subset ha) _ (h.sublist.subset hb))).1 hnot
  first row hrow := by
    obtain ⟨k, hk, hlike, before, after, hrows, hbefore⟩ := h.first row hrow
    have hkrows := h.sublist.subset hk
    refine ⟨k, hk, (hiff k hkrows row hrow).1 hlike, before, after, hrows, fun other hother => ?_⟩
    have hmem : other ∈ rows := hrows ▸ List.mem_append_left _ hother
    exact (not_congr (hiff other hmem k hkrows)).1 (hbefore other hother)

/-- Two rows have one key text. -/
def SameKeyText (vars : List String) (a b : Row) : Prop := keyText vars a = keyText vars b

section FirstOfEachKey

variable {texts : List String}

theorem firstOfEachKey_cons (row : Row) (rows : List Row) :
    firstOfEachKey vars texts (row :: rows) =
      if keyText vars row ∈ texts then firstOfEachKey vars texts rows
      else row :: firstOfEachKey vars (keyText vars row :: texts) rows := by
  rw [firstOfEachKey]
  by_cases h : keyText vars row ∈ texts <;> simp [h]

theorem sublist_firstOfEachKey (vars texts : List String) (rows : List Row) :
    (firstOfEachKey vars texts rows).Sublist rows := by
  induction rows generalizing texts with
  | nil => exact .slnil
  | cons row rows ih =>
    rw [firstOfEachKey_cons]
    split
    · exact (ih texts).cons row
    · exact (ih _).cons_cons row

/-- No row is left whose key text is known. -/
theorem keyText_notMem_of_mem {k : Row} (h : k ∈ firstOfEachKey vars texts rows) :
    keyText vars k ∉ texts := by
  induction rows generalizing texts with
  | nil => cases h
  | cons row rows ih =>
    rw [firstOfEachKey_cons] at h
    split at h
    · exact ih h
    · rename_i hnew
      rcases List.mem_cons.1 h with rfl | h
      · exact hnew
      · exact fun hmem => ih h (List.mem_cons_of_mem _ hmem)

theorem pairwise_firstOfEachKey (vars texts : List String) (rows : List Row) :
    (firstOfEachKey vars texts rows).Pairwise fun a b => ¬ SameKeyText vars a b := by
  induction rows generalizing texts with
  | nil => exact List.Pairwise.nil
  | cons row rows ih =>
    rw [firstOfEachKey_cons]
    split
    · exact ih texts
    · refine List.Pairwise.cons (fun k hk hsame => ?_) (ih _)
      exact keyText_notMem_of_mem hk (hsame ▸ List.mem_cons_self)

/-- A row whose key text is new is like the first row of that text, which is left. -/
theorem exists_first_of_mem (h : row ∈ rows) (hnew : keyText vars row ∉ texts) :
    ∃ k ∈ firstOfEachKey vars texts rows, SameKeyText vars k row ∧
      ∃ before after, rows = before ++ k :: after ∧
        ∀ other ∈ before, ¬ SameKeyText vars other k := by
  induction rows generalizing texts with
  | nil => cases h
  | cons head rows ih =>
    rw [firstOfEachKey_cons]
    by_cases hhead : keyText vars head = keyText vars row
    · rw [if_neg (hhead ▸ hnew)]
      exact ⟨head, List.mem_cons_self, hhead, [], rows, rfl, fun other hother => nomatch hother⟩
    · have hmem : row ∈ rows := by
        rcases List.mem_cons.1 h with rfl | hmem
        · exact absurd rfl hhead
        · exact hmem
      -- the head is not like the first row of the text, and stands in front of it
      have hfront : ∀ {left : List Row}, (∃ k ∈ left, SameKeyText vars k row ∧ ∃ before after,
          rows = before ++ k :: after ∧ ∀ other ∈ before, ¬ SameKeyText vars other k) →
          ∃ k ∈ left, SameKeyText vars k row ∧ ∃ before after,
            head :: rows = before ++ k :: after ∧ ∀ other ∈ before, ¬ SameKeyText vars other k := by
        rintro left ⟨k, hk, hsame, before, after, rfl, hbefore⟩
        refine ⟨k, hk, hsame, head :: before, after, rfl, ?_⟩
        rw [List.forall_mem_cons]
        exact ⟨fun heq => hhead (heq.trans hsame), hbefore⟩
      split
      · exact hfront (ih hmem hnew)
      · have hnew' : keyText vars row ∉ keyText vars head :: texts := by
          rw [List.mem_cons, not_or]
          exact ⟨Ne.symm hhead, hnew⟩
        obtain ⟨k, hk, hrest⟩ := hfront (ih hmem hnew')
        exact ⟨k, List.mem_cons_of_mem _ hk, hrest⟩

/-- **The first row of every key text is left.** -/
theorem firstsOf_firstOfEachKey (vars : List String) (rows : List Row) :
    FirstsOf (SameKeyText vars) rows (firstOfEachKey vars [] rows) where
  sublist := sublist_firstOfEachKey vars [] rows
  distinct := pairwise_firstOfEachKey vars [] rows
  first _ h := exists_first_of_mem h List.not_mem_nil

/-- Rows with distinct key texts are all left. -/
theorem firstOfEachKey_of_pairwise (h : rows.Pairwise fun a b => ¬ SameKeyText vars a b)
    (hnew : ∀ row ∈ rows, keyText vars row ∉ texts) : firstOfEachKey vars texts rows = rows := by
  induction rows generalizing texts with
  | nil => rfl
  | cons row rows ih =>
    rw [List.pairwise_cons] at h
    rw [List.forall_mem_cons] at hnew
    rw [firstOfEachKey_cons, if_neg hnew.1, ih h.2]
    intro other hother
    rw [List.mem_cons, not_or]
    exact ⟨fun heq => h.1 other hother heq.symm, hnew.2 other hother⟩

end FirstOfEachKey

/-- What is left of sorted rows is sorted, and nothing of it repeats a key text. -/
theorem sortBy_firstOfEachKey (vars : List String) (rows : List Row) :
    sortBy vars (firstOfEachKey vars [] (sortBy vars rows)) =
      firstOfEachKey vars [] (sortBy vars rows) :=
  List.mergeSort_of_pairwise
    ((ascending_sortBy vars rows).sublist (sublist_firstOfEachKey vars [] _))

theorem firstOfEachKey_firstOfEachKey (vars : List String) (rows : List Row) :
    firstOfEachKey vars [] (firstOfEachKey vars [] rows) = firstOfEachKey vars [] rows :=
  firstOfEachKey_of_pairwise (pairwise_firstOfEachKey vars [] rows) fun _ _ => List.not_mem_nil

end DataStep.Row
