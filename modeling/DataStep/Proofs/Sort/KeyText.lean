import DataStep.Proofs.Number.Digits
import DataStep.Proofs.Sort.Rows

/-!
# Key texts

The text of a key runs the texts of its cells together, each with an underscore behind it, and an
absent column has the text `NA`. So two keys may have one text although they differ: cells of
different kinds may look alike (`LookAlike`), and an underscore in a text may stand where another
cell ends. Main statements: rows with equal keys have one key text exactly if they have the same
columns of the key (`sameKeyText_iff_of_compareBy_eq`), and rows without an underscore in front of
their last cell have one key text exactly if their cells look alike (`sameKeyText_iff_lookAlike`).
-/

set_option autoImplicit false

namespace DataStep

/-! ## The texts of numbers -/

namespace Number

variable {x : Number} {c : Char} {cs : List Char} {places n : Nat}

/-- The characters in the texts of numbers other than digits. -/
def textSigns : List Char := ['-', '.', 'N', 'a', 'i', 'n', 'f']

/-- The characters in the texts of numbers. -/
def IsTextChar (c : Char) : Prop := c.isDigit = true ∨ c ∈ textSigns

theorem isTextChar_of_mem_pointDigits (h : c ∈ pointDigits places n) : IsTextChar c := by
  unfold pointDigits at h
  split at h
  · exact .inl (isDigit_of_mem_digitsOf h)
  · dsimp only at h
    rw [List.mem_append, List.mem_cons, padLeft, List.mem_append, List.mem_replicate] at h
    rcases h with h | rfl | ⟨-, rfl⟩ | h
    · exact .inl (isDigit_of_mem_digitsOf h)
    · exact .inr (by decide)
    · exact .inl (by decide)
    · exact .inl (isDigit_of_mem_digitsOf h)

theorem isTextChar_of_mem_fixed (h : c ∈ x.fixed places) : IsTextChar c := by
  unfold fixed signChars at h
  split at h
  · exact .inr ((by simp [textSigns] : ['N', 'a', 'N'] ⊆ textSigns) h)
  · rw [List.mem_append] at h
    rcases h with h | h
    · split at h
      · exact .inr ((by simp [textSigns] : ['-'] ⊆ textSigns) h)
      · cases h
    · split at h
      · exact .inr ((by simp [textSigns] : ['i', 'n', 'f'] ⊆ textSigns) h)
      · exact isTextChar_of_mem_pointDigits h

theorem mem_of_mem_dropTrailingZeros (h : c ∈ dropTrailingZeros cs) : c ∈ cs := by
  unfold dropTrailingZeros at h
  split at h
  · rw [dropTrailing_eq_rdropWhile, dropTrailing_eq_rdropWhile] at h
    have hzeros := List.rdropWhile_prefix (· == '0') cs
    have hpoints := List.rdropWhile_prefix (· == '.') (cs.rdropWhile (· == '0'))
    exact hzeros.subset (hpoints.subset h)
  · exact h

/-- A text that does not begin with a point is not only a point and zeros. -/
theorem dropTrailingZeros_ne_nil (h : cs.head? ≠ some '.') (hcs : cs ≠ []) :
    dropTrailingZeros cs ≠ [] := by
  unfold dropTrailingZeros
  split
  · rename_i hpoint
    rw [dropTrailing_eq_rdropWhile, dropTrailing_eq_rdropWhile, ne_eq, List.rdropWhile_eq_nil_iff]
    intro hpoints
    obtain ⟨zeros, hzeros⟩ := List.rdropWhile_prefix (· == '0') cs
    cases hrest : cs.rdropWhile (· == '0') with
    | nil =>
      -- without the zeros there would be no point in the text
      have hall := List.rdropWhile_eq_nil_iff.1 hrest '.' (List.contains_iff_mem.1 hpoint)
      exact absurd hall (by decide)
    | cons c rest =>
      have hc := hpoints c (hrest ▸ List.mem_cons_self)
      rw [hrest] at hzeros
      rw [← hzeros, List.cons_append, List.head?_cons, beq_iff_eq.1 hc] at h
      exact h rfl
  · exact hcs

theorem head?_pointDigits (places n : Nat) :
    ∃ c, (pointDigits places n).head? = some c ∧ c.isDigit = true := by
  have hdigits : ∀ m rest, ∃ c, (digitsOf m ++ rest).head? = some c ∧ c.isDigit = true := by
    intro m rest
    cases hm : digitsOf m with
    | nil => exact absurd hm (digitsOf_ne_nil m)
    | cons c cs => exact ⟨c, rfl, isDigit_of_mem_digitsOf (hm ▸ List.mem_cons_self)⟩
  unfold pointDigits
  split
  · obtain ⟨c, hc⟩ := hdigits n []
    rw [List.append_nil] at hc
    exact ⟨c, hc⟩
  · exact hdigits _ _

theorem head?_fixed (x : Number) (places : Nat) :
    ∃ c, (x.fixed places).head? = some c ∧ c ≠ '.' := by
  unfold fixed signChars
  split
  · exact ⟨'N', rfl, by decide⟩
  · split
    · exact ⟨'-', rfl, by decide⟩
    · rw [List.nil_append]
      split
      · exact ⟨'i', rfl, by decide⟩
      · obtain ⟨c, hc, hdigit⟩ := head?_pointDigits places (x.fixedUnits places)
        refine ⟨c, hc, ?_⟩
        rintro rfl
        cases hdigit

theorem textChars_ne_nil (x : Number) : x.textChars ≠ [] := by
  unfold textChars wholeText roundedText
  split
  · exact List.append_ne_nil_of_right_ne_nil _ (digitsOf_ne_nil _)
  · dsimp only
    split
    · exact List.cons_ne_nil _ _
    · obtain ⟨c, hc, hpoint⟩ := head?_fixed x 6
      apply dropTrailingZeros_ne_nil
      · rw [hc]
        exact fun h => hpoint (Option.some.inj h)
      · intro hnil
        rw [hnil] at hc
        cases hc

theorem isTextChar_of_mem_textChars (h : c ∈ x.textChars) : IsTextChar c := by
  unfold textChars wholeText roundedText at h
  split at h
  · rw [List.mem_append] at h
    rcases h with h | h
    · split at h
      · exact .inr ((by simp [textSigns] : ['-'] ⊆ textSigns) h)
      · cases h
    · exact .inl (isDigit_of_mem_digitsOf h)
  · dsimp only at h
    split at h
    · rw [List.mem_singleton] at h
      exact .inl (h ▸ by decide)
    · exact isTextChar_of_mem_fixed (mem_of_mem_dropTrailingZeros h)

theorem underscore_notMem_text (x : Number) : '_' ∉ x.text.toList := by
  intro h
  rw [text, String.toList_ofList] at h
  rcases isTextChar_of_mem_textChars h with h | h
  · cases h
  · exact absurd h (by decide)

theorem text_ne_empty (x : Number) : x.text ≠ "" := by
  intro h
  rw [text, ← String.toList_inj, String.toList_ofList] at h
  exact textChars_ne_nil x h

theorem text_ne_absent (x : Number) : x.text ≠ "NA" := by
  intro h
  rw [text, ← String.toList_inj, String.toList_ofList] at h
  have hmem : 'A' ∈ x.textChars := h ▸ by decide
  rcases isTextChar_of_mem_textChars hmem with h | h
  · cases h
  · exact absurd h (by decide)

end Number

namespace Row

variable {vars : List String} {a b : Row} {v : String}

/-! ## The texts of cells -/

/-- The text of a cell that may be absent. -/
def cellText : Option Value → String
  | some value => value.toText
  | none => "NA"

/-- Two cells have one text: they are the same, they are numbers that are shown alike, one is a text
that spells the other, or one is a text that stands for a missing value or an absent column. -/
inductive LookAlike : Option Value → Option Value → Prop where
  | same (x : Option Value) : LookAlike x x
  | shown {m n : Number} (h : m.text = n.text) : LookAlike (some (.number m)) (some (.number n))
  | spelled (n : Number) : LookAlike (some (.number n)) (some (.text n.text))
  | missing : LookAlike (some .missing) (some (.text ""))
  | absent : LookAlike none (some (.text "NA"))
  | symm {x y : Option Value} (h : LookAlike x y) : LookAlike y x

theorem cellText_eq_iff {x y : Option Value} : cellText x = cellText y ↔ LookAlike x y := by
  constructor
  · intro h
    rcases x with _ | (m | s | _) <;> rcases y with _ | (n | s' | _) <;>
      simp only [cellText, Value.toText] at h
    case none.none => exact .same none
    case none.some.number => exact absurd h.symm n.text_ne_absent
    case none.some.text => exact h ▸ .absent
    case none.some.missing => exact absurd h (by decide)
    case some.number.none => exact absurd h m.text_ne_absent
    case some.number.some.number => exact .shown h
    case some.number.some.text => exact h ▸ .spelled m
    case some.number.some.missing => exact absurd h m.text_ne_empty
    case some.text.none => exact h ▸ .symm .absent
    case some.text.some.number => exact h ▸ .symm (.spelled n)
    case some.text.some.text => exact h ▸ .same _
    case some.text.some.missing => exact h ▸ .symm .missing
    case some.missing.none => exact absurd h (by decide)
    case some.missing.some.number => exact absurd h.symm n.text_ne_empty
    case some.missing.some.text => exact h ▸ .missing
    case some.missing.some.missing => exact .same _
  · intro h
    induction h with
    | same x => rfl
    | shown h => exact h
    | spelled n => rfl
    | missing => rfl
    | absent => rfl
    | symm h ih => exact ih.symm

/-! ## The texts of keys -/

theorem toList_keyText_cons (v : String) (vars : List String) (row : Row) :
    (keyText (v :: vars) row).toList =
      (cellText (row.get? v)).toList ++ '_' :: (keyText vars row).toList := by
  rw [keyText, List.map_cons, String.join_cons, String.toList_append, String.toList_append,
    List.append_assoc]
  rfl

theorem sameKeyText_cons_iff : SameKeyText (v :: vars) a b ↔
    (cellText (a.get? v)).toList ++ '_' :: (keyText vars a).toList =
      (cellText (b.get? v)).toList ++ '_' :: (keyText vars b).toList := by
  rw [SameKeyText, ← String.toList_inj, toList_keyText_cons, toList_keyText_cons]

/-- Texts without underscores are found again in front of the first underscore. -/
theorem append_underscore_inj {xs ys rest rest' : List Char} (hxs : '_' ∉ xs) (hys : '_' ∉ ys)
    (h : xs ++ '_' :: rest = ys ++ '_' :: rest') : xs = ys ∧ rest = rest' := by
  induction xs generalizing ys with
  | nil =>
    cases ys with
    | nil => exact ⟨rfl, (List.cons.inj h).2⟩
    | cons y ys => exact absurd ((List.cons.inj h).1 ▸ List.mem_cons_self) hys
  | cons x xs ih =>
    rw [List.mem_cons, not_or] at hxs
    cases ys with
    | nil => exact absurd (List.cons.inj h).1.symm hxs.1
    | cons y ys =>
      rw [List.mem_cons, not_or] at hys
      obtain ⟨hhead, htail⟩ := List.cons.inj h
      obtain ⟨hrest, hend⟩ := ih hxs.2 hys.2 htail
      exact ⟨by rw [hhead, hrest], hend⟩

/-- No text of a row holds an underscore, but for that of the last variable. -/
def Undivided (vars : List String) (row : Row) : Prop :=
  ∀ v ∈ vars.dropLast, ∀ s, row.get? v = some (.text s) → '_' ∉ s.toList

theorem underscore_notMem_cellText {row : Row}
    (h : ∀ s, row.get? v = some (.text s) → '_' ∉ s.toList) :
    '_' ∉ (cellText (row.get? v)).toList := by
  cases hcell : row.get? v with
  | none => decide
  | some value =>
    cases value with
    | number n => exact n.underscore_notMem_text
    | text s => exact h s hcell
    | missing => decide

/-- **Rows without underscores in front of their last cell have one key text exactly if
their cells look alike.** -/
theorem sameKeyText_iff_lookAlike (ha : Undivided vars a) (hb : Undivided vars b) :
    SameKeyText vars a b ↔ ∀ v ∈ vars, LookAlike (a.get? v) (b.get? v) := by
  induction vars with
  | nil => simp [SameKeyText, keyText]
  | cons v vars ih =>
    rw [sameKeyText_cons_iff, List.forall_mem_cons, ← cellText_eq_iff]
    cases vars with
    | nil =>
      simp [keyText, String.toList_inj]
    | cons w vars =>
      rw [Undivided, List.dropLast_cons_cons, List.forall_mem_cons] at ha hb
      rw [← ih ha.2 hb.2]
      constructor
      · intro h
        obtain ⟨hcell, hrest⟩ := append_underscore_inj (underscore_notMem_cellText ha.1)
          (underscore_notMem_cellText hb.1) h
        exact ⟨String.toList_inj.1 hcell, String.toList_inj.1 hrest⟩
      · rintro ⟨hcell, hrest⟩
        rw [hcell, hrest]

/-- A missing value and an absent column begin differently. -/
theorem not_sameKeyText_of_absent (ha : a.get? v = none) (hb : b.get? v = some .missing) :
    ¬ SameKeyText (v :: vars) a b := by
  rw [sameKeyText_cons_iff, ha, hb]
  intro h
  exact absurd (List.cons.inj h).1 (by decide)

/-- **Rows with equal keys have one key text exactly if they have the same columns of the key.** -/
theorem sameKeyText_iff_of_compareBy_eq (h : compareBy vars a b = .eq) :
    SameKeyText vars a b ↔ ∀ v ∈ vars, a.contains v = b.contains v := by
  induction vars with
  | nil => simp [SameKeyText, keyText]
  | cons v vars ih =>
    rw [compareBy_eq_iff, List.forall_mem_cons, value, value] at h
    have ih := ih (compareBy_eq_iff.2 h.2)
    rw [List.forall_mem_cons, OrderedMap.contains, OrderedMap.contains]
    cases ha : a.get? v with
    | none =>
      cases hb : b.get? v with
      | none =>
        rw [sameKeyText_cons_iff, ha, hb, List.append_cancel_left_eq, List.cons.injEq,
          String.toList_inj]
        simpa [SameKeyText] using ih
      | some y =>
        have hy : y = .missing := by simpa [ha, hb] using h.1.symm
        subst hy
        simp [not_sameKeyText_of_absent ha hb]
    | some x =>
      cases hb : b.get? v with
      | none =>
        have hx : x = .missing := by simpa [ha, hb] using h.1
        subst hx
        have hnot : ¬ SameKeyText (v :: vars) a b := fun hsame =>
          not_sameKeyText_of_absent hb ha hsame.symm
        simp [hnot]
      | some y =>
        have hxy : x = y := by simpa [ha, hb] using h.1
        rw [sameKeyText_cons_iff, ha, hb, hxy, List.append_cancel_left_eq, List.cons.injEq,
          String.toList_inj]
        simpa [SameKeyText] using ih

end Row

end DataStep
