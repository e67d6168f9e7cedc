import DataStep.Proofs.Merge.Cells
import DataStep.Proofs.Sort.Rows

/-!
# Merging two lists is a full outer join

Two lists of rows are joined by their keys if there is one row for every key of either list, in
strictly ascending order of the keys, and it is built from exactly the rows of the lists with that
key (`Joins`). A join grows by a key below all others (`Joins.cons`); every round adds such a key,
and so does every row that is copied once a list is exhausted. Hence the rounds on two lists without
repeated keys are a join of them (`exists_joins_of_rounds`).

The keys of a join are those of the rows that are read. A combined row need not have the key that it
stands for, since a renamed cell may be stored over a BY variable. Main statement: the rows of a
merge have the keys that they stand for exactly if no two rows that meet are combined to a row with
another key (`mergeRows_joins`). They need not (`not_joins_renamed_over_key`).
-/

set_option autoImplicit false

namespace DataStep.Merge

open Row (compareBy withKeyOf)

variable {vars : List String} {left right rows out : List Row} {a b key row : Row}

/-! ## Joins -/

/-- The rows of a list ascend in their keys, and no key occurs twice. -/
structure Keyed (vars : List String) (rows : List Row) : Prop where
  ascending : Row.Ascending vars rows
  distinct : rows.Pairwise fun a b => compareBy vars a b ≠ .eq

/-- A row of a join and a row with the key that it stands for. -/
structure Joined where
  key : Row
  row : Row

/-- The rows of a list, each standing for its own key. -/
def ownKeys (out : List Row) : List Joined := out.map fun row => ⟨row, row⟩

/-- How a row is built from the rows of one key: they are combined, beginning with the first, or
there is a single one, which is copied. -/
inductive BuiltFrom (vars : List String) : List Row → Row → Prop where
  | combined (first : Row) (rest : List Row) :
      BuiltFrom vars (first :: rest) (combine vars first (first :: rest))
  | copied (row : Row) : BuiltFrom vars [row] row

/-- The full outer join of two lists: the keys ascend strictly, the key of every row of the lists is
among them, and the row that stands for a key is built from exactly the rows with that key. -/
structure Joins (vars : List String) (left right : List Row) (join : List Joined) : Prop where
  ascending : join.Pairwise fun p q => compareBy vars p.key q.key = .lt
  complete : ∀ row ∈ left ++ right, ∃ p ∈ join, compareBy vars p.key row = .eq
  built : ∀ p ∈ join, BuiltFrom vars (withKeyOf vars p.key (left ++ right)) p.row

/-- No two rows of the lists that have one key are combined to a row with another key. -/
def KeepsKeys (vars : List String) (left right : List Row) : Prop :=
  ∀ a ∈ left, ∀ b ∈ right, compareBy vars a b = .eq →
    compareBy vars (combine vars a [a, b]) a = .eq

/-! ## The rows of one key -/

theorem mem_withKeyOf : row ∈ withKeyOf vars key rows ↔
    row ∈ rows ∧ compareBy vars key row = .eq := by
  rw [withKeyOf, List.mem_filter, decide_eq_true_iff]

theorem withKeyOf_append (left right : List Row) :
    withKeyOf vars key (left ++ right) = withKeyOf vars key left ++ withKeyOf vars key right :=
  List.filter_append ..

/-- Rows with one key select the same rows. -/
theorem withKeyOf_congr (h : compareBy vars a b = .eq) (rows : List Row) :
    withKeyOf vars a rows = withKeyOf vars b rows := by
  refine List.filter_congr fun row _ => ?_
  rw [Std.TransCmp.congr_left h]

theorem withKeyOf_of_forall (h : ∀ row ∈ rows, compareBy vars key row = .eq) :
    withKeyOf vars key rows = rows :=
  List.filter_eq_self.2 fun row hrow => decide_eq_true (h row hrow)

theorem withKeyOf_eq_nil (h : ∀ row ∈ rows, compareBy vars key row ≠ .eq) :
    withKeyOf vars key rows = [] :=
  List.filter_eq_nil_iff.2 fun row hrow heq => h row hrow (of_decide_eq_true heq)

theorem BuiltFrom.ne_nil (h : BuiltFrom vars rows row) : rows ≠ [] := by
  cases h <;> exact List.cons_ne_nil _ _

namespace Keyed

theorem pairwise_lt (h : Keyed vars rows) : rows.Pairwise fun a b => compareBy vars a b = .lt :=
  (h.ascending.and h.distinct).imp fun ⟨hle, hne⟩ =>
    (Ordering.isLE_iff_eq_lt_or_eq_eq.1 hle).resolve_right hne

/-- The first row is below the others, which have distinct keys as well. -/
theorem cons_iff :
    Keyed vars (row :: rows) ↔
      (∀ other ∈ rows, compareBy vars row other = .lt) ∧ Keyed vars rows := by
  constructor
  · intro h
    exact ⟨(List.pairwise_cons.1 h.pairwise_lt).1, h.ascending.of_cons, h.distinct.of_cons⟩
  · rintro ⟨hbelow, hascending, hdistinct⟩
    refine ⟨List.Pairwise.cons (fun other hother => ?_) hascending,
      List.Pairwise.cons (fun other hother => ?_) hdistinct⟩ <;> rw [hbelow other hother]
    · rfl
    · exact Ordering.noConfusion

/-- A row is the only one with its key. -/
theorem withKeyOf_eq (h : Keyed vars rows) (hmem : row ∈ rows)
    (hkey : compareBy vars key row = .eq) :
    withKeyOf vars key rows = [row] := by
  obtain ⟨before, after, rfl⟩ := List.append_of_mem hmem
  have hdistinct := List.pairwise_append.1 h.distinct
  have hbefore : ∀ other ∈ before, compareBy vars key other ≠ .eq := fun other hother heq =>
    hdistinct.2.2 other hother row List.mem_cons_self
      (Std.TransCmp.eq_trans (Std.OrientedCmp.eq_symm heq) hkey)
  have hafter : ∀ other ∈ after, compareBy vars key other ≠ .eq := fun other hother heq =>
    (List.pairwise_cons.1 hdistinct.2.1).1 other hother
      (Std.TransCmp.eq_trans (Std.OrientedCmp.eq_symm hkey) heq)
  rw [withKeyOf_append, withKeyOf_eq_nil hbefore, withKeyOf,
    List.filter_cons_of_pos (by simpa using hkey),
    ← withKeyOf, withKeyOf_eq_nil hafter, List.nil_append]

theorem withKeyOf_cases (h : Keyed vars rows) (key : Row) :
    withKeyOf vars key rows = [] ∨
      ∃ row ∈ rows, compareBy vars key row = .eq ∧ withKeyOf vars key rows = [row] := by
  cases hrows : withKeyOf vars key rows with
  | nil => exact .inl rfl
  | cons row rest =>
    have hmem : row ∈ withKeyOf vars key rows := hrows ▸ List.mem_cons_self
    obtain ⟨hrow, hkey⟩ := mem_withKeyOf.1 hmem
    exact .inr ⟨row, hrow, hkey, hrows ▸ h.withKeyOf_eq hrow hkey⟩

end Keyed

/-! ## A key below all others -/

namespace Joins

variable {join : List Joined}

theorem nil : Joins vars [] [] [] where
  ascending := List.Pairwise.nil
  complete _ h := nomatch h
  built _ h := nomatch h

/-- Every key of a join is the key of a row. -/
theorem exists_mem (h : Joins vars left right join) {p : Joined} (hp : p ∈ join) :
    ∃ row ∈ left ++ right, compareBy vars p.key row = .eq := by
  obtain ⟨row, hrow⟩ := List.exists_mem_of_ne_nil _ (h.built p hp).ne_nil
  exact ⟨row, mem_withKeyOf.1 hrow⟩

/-- **A join grows by a key below all others.** The rows with that key stand
in front of both lists. -/
theorem cons (as bs : List Row) (h : Joins vars left right join)
    (hsame : ∀ other ∈ as ++ bs, compareBy vars key other = .eq)
    (hbelow : ∀ other ∈ left ++ right, compareBy vars key other = .lt)
    (hbuilt : BuiltFrom vars (as ++ bs) row) :
    Joins vars (as ++ left) (bs ++ right) (⟨key, row⟩ :: join) := by
  have hkeys : ∀ p ∈ join, compareBy vars key p.key = .lt := by
    intro p hp
    obtain ⟨other, hother, heq⟩ := h.exists_mem hp
    exact Std.TransCmp.lt_of_lt_of_eq (hbelow other hother) (Std.OrientedCmp.eq_symm heq)
  rw [List.forall_mem_append] at hsame hbelow
  refine ⟨List.Pairwise.cons hkeys h.ascending, ?_, List.forall_mem_cons.2 ⟨?_, fun p hp => ?_⟩⟩
  · intro other hother
    have hcases : (other ∈ as ∨ other ∈ bs) ∨ other ∈ left ++ right := by
      simp only [List.mem_append] at hother ⊢
      tauto
    rcases hcases with hnew | hold
    · exact ⟨_, List.mem_cons_self, hnew.elim (hsame.1 other) (hsame.2 other)⟩
    · obtain ⟨p, hp, heq⟩ := h.complete other hold
      exact ⟨p, List.mem_cons_of_mem _ hp, heq⟩
  · have hnone : ∀ {rows : List Row}, (∀ other ∈ rows, compareBy vars key other = .lt) →
        withKeyOf vars key rows = [] :=
      fun hlt => withKeyOf_eq_nil fun other hother heq => by rw [hlt other hother] at heq; cases heq
    rwa [withKeyOf_append, withKeyOf_append, withKeyOf_append, withKeyOf_of_forall hsame.1,
      withKeyOf_of_forall hsame.2, hnone hbelow.1, hnone hbelow.2, List.append_nil, List.append_nil]
  · have hnone : ∀ {rows : List Row}, (∀ other ∈ rows, compareBy vars key other = .eq) →
        withKeyOf vars p.key rows = [] := by
      refine fun hrows => withKeyOf_eq_nil fun other hother heq => ?_
      have hlt := Std.TransCmp.lt_of_lt_of_eq (hkeys p hp) heq
      rw [hrows other hother] at hlt
      cases hlt
    rw [withKeyOf_append, withKeyOf_append, withKeyOf_append, hnone hsame.1, hnone hsame.2,
      List.nil_append, List.nil_append, ← withKeyOf_append]
    exact h.built p hp

end Joins

/-! ## Two lists in rounds -/

theorem map_row_ownKeys (out : List Row) : (ownKeys out).map Joined.row = out := by
  rw [ownKeys, List.map_map]
  exact List.map_id out

/-- Rows that are copied stand for their own keys. -/
theorem joins_copied (h : Keyed vars (left ++ right)) :
    Joins vars left right (ownKeys (left ++ right)) where
  ascending := List.pairwise_map.2 h.pairwise_lt
  complete row hrow :=
    ⟨⟨row, row⟩, List.mem_map.2 ⟨row, hrow, rfl⟩, compareBy_self vars row⟩
  built p hp := by
    obtain ⟨row, hrow, rfl⟩ := List.mem_map.1 hp
    rw [h.withKeyOf_eq hrow (compareBy_self vars row)]
    exact .copied row

/-- The round on two lists that go on, by the order of their heads. -/
theorem exists_of_round (h : rounds vars [a :: left, b :: right] = .ok out) :
    ∃ rest, match compareBy vars a b with
      | .lt => out = combine vars a [a] :: rest ∧ rounds vars [left, b :: right] = .ok rest
      | .eq => out = combine vars a [a, b] :: rest ∧ rounds vars [left, right] = .ok rest
      | .gt => out = combine vars b [b] :: rest ∧ rounds vars [a :: left, right] = .ok rest := by
  rw [rounds] at h
  simp only [heads?, Option.map_some, List.map_cons, List.map_nil] at h
  split at h
  · cases h
  · cases hrest : rounds vars [advance vars (leastRow vars a [b]) ⟨a, left⟩,
        advance vars (leastRow vars a [b]) ⟨b, right⟩] with
    | error e =>
      rw [hrest] at h
      cases h
    | ok rest =>
      rw [hrest] at h
      cases h
      refine ⟨rest, ?_⟩
      have hself := compareBy_self vars
      have hswap := Row.compareBy_swap vars b a
      cases hcompare : compareBy vars a b <;> rw [hcompare] at hswap <;>
        simp_all [leastRow, sameKey, advance, Head.rows, Ordering.swap]

/-- **The rounds on two lists without repeated keys join them.** -/
theorem exists_joins_of_rounds (hleft : Keyed vars left) (hright : Keyed vars right)
    (h : rounds vars [left, right] = .ok out) :
    ∃ join, Joins vars left right join ∧ out = join.map Joined.row := by
  -- along both lists: a round takes the head with the lesser key, or both heads
  induction left generalizing right out with
  | nil =>
    obtain rfl : right = out := by simpa [rounds, heads?] using h
    exact ⟨ownKeys right, joins_copied hright, (map_row_ownKeys right).symm⟩
  | cons a left ihleft =>
    induction right generalizing out with
    | nil =>
      obtain rfl : a :: left = out := by simpa [rounds, heads?] using h
      refine ⟨ownKeys (a :: left), ?_, (map_row_ownKeys _).symm⟩
      have hcopied : Keyed vars (a :: left ++ []) := by rwa [List.append_nil]
      simpa only [List.append_nil] using joins_copied hcopied
    | cons b right ihright =>
      obtain ⟨hbelowLeft, hleftRest⟩ := Keyed.cons_iff.1 hleft
      obtain ⟨hbelowRight, hrightRest⟩ := Keyed.cons_iff.1 hright
      obtain ⟨rest, hround⟩ := exists_of_round h
      cases hcompare : compareBy vars a b with
      | lt =>
        rw [hcompare] at hround
        obtain ⟨rfl, hrest⟩ := hround
        obtain ⟨join, hjoins, rfl⟩ := ihleft hleftRest hright hrest
        have hbelow : ∀ other ∈ left ++ b :: right, compareBy vars a other = .lt := by
          rw [List.forall_mem_append, List.forall_mem_cons]
          exact ⟨hbelowLeft, hcompare, fun other hother =>
            Std.TransCmp.lt_trans hcompare (hbelowRight other hother)⟩
        exact ⟨⟨a, combine vars a [a]⟩ :: join,
          hjoins.cons [a] [] (by simpa using compareBy_self vars a) hbelow
            (.combined a []), rfl⟩
      | eq =>
        rw [hcompare] at hround
        obtain ⟨rfl, hrest⟩ := hround
        obtain ⟨join, hjoins, rfl⟩ := ihleft hleftRest hrightRest hrest
        have hbelow : ∀ other ∈ left ++ right, compareBy vars a other = .lt := by
          rw [List.forall_mem_append]
          exact ⟨hbelowLeft, fun other hother =>
            Std.TransCmp.lt_of_eq_of_lt hcompare (hbelowRight other hother)⟩
        have hsame : ∀ other ∈ [a] ++ [b], compareBy vars a other = .eq := by
          simpa using And.intro (compareBy_self vars a) hcompare
        exact ⟨⟨a, combine vars a [a, b]⟩ :: join,
          hjoins.cons [a] [b] hsame hbelow (.combined a [b]), rfl⟩
      | gt =>
        rw [hcompare] at hround
        obtain ⟨rfl, hrest⟩ := hround
        obtain ⟨join, hjoins, rfl⟩ := ihright hrightRest hrest
        have hlt : compareBy vars b a = .lt := Std.OrientedCmp.lt_of_gt hcompare
        have hbelow : ∀ other ∈ a :: left ++ right, compareBy vars b other = .lt := by
          rw [List.forall_mem_append, List.forall_mem_cons]
          exact ⟨⟨hlt, fun other hother => Std.TransCmp.lt_trans hlt (hbelowLeft other hother)⟩,
            hbelowRight⟩
        exact ⟨⟨b, combine vars b [b]⟩ :: join,
          hjoins.cons [] [b] (by simpa using compareBy_self vars b) hbelow
            (.combined b []), rfl⟩

/-! ## The keys of combined rows -/

/-- Cells with distinct names that are free are stored under their own names. -/
theorem places_eq_names {taken : List String} {cs : List Cell} (hnodup : (cs.map Cell.name).Nodup)
    (hfree : ∀ c ∈ cs, c.name ∉ taken) : places taken cs = cs.map Cell.name := by
  induction cs generalizing taken with
  | nil => rfl
  | cons c cs ih =>
    rw [List.map_cons, List.nodup_cons] at hnodup
    rw [List.forall_mem_cons] at hfree
    have hplace : c.place taken = c.name := if_neg hfree.1
    rw [places, hplace, List.map_cons, ih hnodup.2]
    intro other hother
    rw [List.mem_cons, not_or]
    refine ⟨fun heq => hnodup.1 ?_, hfree.2 other hother⟩
    exact List.mem_map.2 ⟨other, hother, heq⟩

/-- A row that is combined alone keeps its key. -/
theorem compareBy_combine_singleton (vars : List String) (row : Row) :
    compareBy vars (combine vars row [row]) row = .eq := by
  have hcells : roundCells vars [row] = rowCells vars row := by
    rw [roundCells, List.flatMap_cons, List.flatMap_nil, List.append_nil]
  have hnames : (rowCells vars row).map Cell.name =
      row.keys.filter fun name => !vars.contains name := by
    rw [rowCells, List.map_map, OrderedMap.keys, ← Entries.keys_filter_key]
    rfl
  have hplaces : places vars (rowCells vars row) = (rowCells vars row).map Cell.name := by
    refine places_eq_names ?_ fun c hc => not_mem_vars_of_mem_roundCells (hcells ▸ hc)
    rw [hnames]
    exact row.distinct.filter _
  rw [Row.compareBy_eq_iff]
  intro v hv
  have hfree : v ∉ places vars (rowCells vars row) := by
    rw [hplaces, hnames, List.mem_filter]
    simp [hv]
  rw [Row.value, combine_eq, hcells,
    get?_foldl_store_of_not_mem (fun name => (mem_keys_byRow name).symm) _ hfree,
      get?_byRow, if_pos hv]
  rfl

namespace BuiltFrom

/-- A row that is built from a single row has its key. -/
theorem compareBy_of_single (h : BuiltFrom vars [a] row) : compareBy vars a row = .eq := by
  cases h with
  | combined => exact Std.OrientedCmp.eq_symm (compareBy_combine_singleton vars a)
  | copied => exact compareBy_self vars a

theorem eq_combine_of_two (h : BuiltFrom vars [a, b] row) : row = combine vars a [a, b] := by
  cases h
  rfl

end BuiltFrom

namespace Joins

variable {join : List Joined}

/-- Where every row of a join has the key that it stands for, the rows are themselves the keys. -/
theorem of_keys_eq (h : Joins vars left right join)
    (hkeys : ∀ p ∈ join, compareBy vars p.key p.row = .eq) :
    Joins vars left right (ownKeys (join.map Joined.row)) := by
  have hmem : ∀ {q : Joined}, q ∈ ownKeys (join.map Joined.row) ↔
      ∃ p ∈ join, ⟨p.row, p.row⟩ = q := by
    intro q
    rw [ownKeys, List.map_map, List.mem_map]
    rfl
  refine ⟨?_, fun row hrow => ?_, fun q hq => ?_⟩
  · rw [ownKeys, List.map_map, List.pairwise_map]
    refine h.ascending.imp_of_mem fun {p q} hp hq hlt => ?_
    exact Std.TransCmp.lt_of_eq_of_lt (Std.OrientedCmp.eq_symm (hkeys p hp))
      (Std.TransCmp.lt_of_lt_of_eq hlt (hkeys q hq))
  · obtain ⟨p, hp, heq⟩ := h.complete row hrow
    exact ⟨_, hmem.2 ⟨p, hp, rfl⟩,
      Std.TransCmp.eq_trans (Std.OrientedCmp.eq_symm (hkeys p hp)) heq⟩
  · obtain ⟨p, hp, rfl⟩ := hmem.1 hq
    rw [← withKeyOf_congr (hkeys p hp)]
    exact h.built p hp

section Keyed

variable (h : Joins vars left right join) (hleft : Keyed vars left) (hright : Keyed vars right)

include h hleft hright

/-- A row of a join has the key that it stands for if the rows that meet keep their key. -/
theorem keys_eq (hkeeps : KeepsKeys vars left right) :
    ∀ p ∈ join, compareBy vars p.key p.row = .eq := by
  intro p hp
  have hbuilt := h.built p hp
  rw [withKeyOf_append] at hbuilt
  rcases hleft.withKeyOf_cases p.key with hnil | ⟨a, ha, hkey, hsingle⟩ <;>
    rcases hright.withKeyOf_cases p.key with hnil' | ⟨b, hb, hkey', hsingle'⟩
  · rw [hnil, hnil'] at hbuilt
    exact absurd rfl hbuilt.ne_nil
  · rw [hnil, hsingle'] at hbuilt
    exact Std.TransCmp.eq_trans hkey' hbuilt.compareBy_of_single
  · rw [hsingle, hnil'] at hbuilt
    exact Std.TransCmp.eq_trans hkey hbuilt.compareBy_of_single
  · rw [hsingle, hsingle'] at hbuilt
    have heq : compareBy vars a b = .eq :=
      Std.TransCmp.eq_trans (Std.OrientedCmp.eq_symm hkey) hkey'
    rw [hbuilt.eq_combine_of_two]
    exact Std.TransCmp.eq_trans hkey (Std.OrientedCmp.eq_symm (hkeeps a ha b hb heq))

/-- Two rows with one key meet in the row that stands for the key. -/
theorem exists_combined (ha : a ∈ left) (hb : b ∈ right) (heq : compareBy vars a b = .eq) :
    ∃ p ∈ join, compareBy vars p.key a = .eq ∧ p.row = combine vars a [a, b] := by
  obtain ⟨p, hp, hkey⟩ := h.complete a (List.mem_append_left _ ha)
  have hbuilt := h.built p hp
  rw [withKeyOf_append, hleft.withKeyOf_eq ha hkey,
    hright.withKeyOf_eq hb (Std.TransCmp.eq_trans hkey heq)] at hbuilt
  exact ⟨p, hp, hkey, hbuilt.eq_combine_of_two⟩

end Keyed

end Joins

/-- Rows that are a join by their own keys keep the keys of the rows that meet. -/
theorem keepsKeys_of_joins (hleft : Keyed vars left) (hright : Keyed vars right)
    (h : Joins vars left right (ownKeys out)) : KeepsKeys vars left right := by
  intro a ha b hb heq
  obtain ⟨p, hp, hkey, hrow⟩ := h.exists_combined hleft hright ha hb heq
  obtain ⟨row, -, rfl⟩ := List.mem_map.1 hp
  rwa [← hrow]

/-- **A merge of two lists is their full outer join.** There is one row for every key of the two
lists, in strictly ascending order, built from both rows with that key or from the single one. These
rows have the keys that they stand for exactly if the rows that meet keep their key. -/
theorem mergeRows_joins (hleft : Keyed vars left) (hright : Keyed vars right)
    (h : mergeRows vars [left, right] = .ok out) :
    (∃ join, Joins vars left right join ∧ out = join.map Joined.row) ∧
      (Joins vars left right (ownKeys out) ↔ KeepsKeys vars left right) := by
  obtain ⟨join, hjoins, rfl⟩ := exists_joins_of_rounds hleft hright (rounds_of_mergeRows h)
  refine ⟨⟨join, hjoins, rfl⟩, keepsKeys_of_joins hleft hright, fun hkeeps => ?_⟩
  exact hjoins.of_keys_eq (hjoins.keys_eq hleft hright hkeeps)

/-- Control: keys on both sides and on one, beyond the end of the shorter list as well. -/
theorem mergeRows_joins_interleaved :
    let row (id : String) (column : String) : Row := .ofList [("id", .text id), (column, .text "v")]
    let both : Row := .ofList [("id", .text "2"), ("x", .text "v"), ("y", .text "v")]
    let left := [row "1" "x", row "2" "x", row "5" "x", row "6" "x"]
    let right := [row "2" "y", row "4" "y"]
    let out := [row "1" "x", both, row "4" "y", row "5" "x", row "6" "x"]
    Keyed ["id"] left ∧ Keyed ["id"] right ∧ mergeRows ["id"] [left, right] = .ok out ∧
      (∃ join, Joins ["id"] left right join ∧ out = join.map Joined.row) ∧
      (Joins ["id"] left right (ownKeys out) ↔ KeepsKeys ["id"] left right) := by
  intro row both left right out
  have hleft : Keyed ["id"] left := ⟨by decide, by decide⟩
  have hright : Keyed ["id"] right := ⟨by decide, by decide⟩
  have hmerge : mergeRows ["id"] [left, right] = .ok out := by decide +kernel
  exact ⟨hleft, hright, hmerge, mergeRows_joins hleft hright hmerge⟩

/-- Control: a renamed cell is stored over the BY variable. The rows with the key 1 meet in a row
with the key 5, which then stands in front of the row with the key 2. -/
theorem not_joins_renamed_over_key :
    let left : List Row :=
      [.ofList [("k_x", .text "1"), ("x", .text "3")],
        .ofList [("k_x", .text "2"), ("x", .text "4")]]
    let right : List Row := [.ofList [("k", .text "9"), ("k_x", .text "1"), ("x", .text "5")]]
    let out : List Row :=
      [.ofList [("k_x", .text "5"), ("x", .text "3"), ("k", .text "9")],
        .ofList [("k_x", .text "2"), ("x", .text "4")]]
    Keyed ["k_x"] left ∧ Keyed ["k_x"] right ∧ mergeRows ["k_x"] [left, right] = .ok out ∧
      ¬ Joins ["k_x"] left right (ownKeys out) := by
  intro left right out
  have hleft : Keyed ["k_x"] left := ⟨by decide, by decide⟩
  have hright : Keyed ["k_x"] right := ⟨by decide, by decide⟩
  refine ⟨hleft, hright, by decide +kernel, fun hjoins => ?_⟩
  -- the keys of the rows do not even ascend
  exact absurd hjoins.ascending (by decide)

end DataStep.Merge
