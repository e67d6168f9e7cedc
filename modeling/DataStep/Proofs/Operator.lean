import DataStep.Operator
import DataStep.Proofs.SortOrder

/-!
# The comparison operators

A comparison operator answers one or zero, by the order of its operands
(`Operator.apply_of_isComparison`). A missing operand is below every number, and two numbers are in
the order of their places. What is not a number has no place; it is equal to every number
(`Operator.compareOperands_eq_iff`).

All six operators come from this one order (`Operator.comparisons_preorder_iff`). It is total, but
it is not a preorder on all values: through a value that is not a number two numbers are joined
that are not in order themselves (`Operator.not_transitive_text_nan`). This is the only way in
which transitivity fails.
-/

set_option autoImplicit false

namespace DataStep

/-- The places of an earlier kind are earlier, whatever the values are. -/
theorem Number.numericKey_lt_of_rank_lt {x y : Number} (h : x.rank < y.rank) :
    x.numericKey < y.numericKey := by
  have hinfinity : 0 < infinityMagnitude := by decide
  simp only [rank, isNaN, isInfinite, decide_eq_true_eq, beq_iff_eq] at h
  simp only [numericKey, isZero, beq_iff_eq, orderKey]
  split_ifs at h ⊢ <;> omega

namespace Operator

section Operands

variable {a b c : Option Number} {x y : Number}

/-! ## The order of operands -/

/-- Numbers are ordered by their places; what is not a number is equal to every number. -/
theorem compareOperands_some (x y : Number) : compareOperands (some x) (some y) =
    if x.isNaN = true ∨ y.isNaN = true then .eq else Ord.compare x.numericKey y.numericKey := by
  rw [compareOperands]
  split
  · rename_i hnan
    rw [Number.partialCompare_of_isNaN hnan]
    rfl
  · rename_i hnumbers
    rw [not_or, Bool.not_eq_true, Bool.not_eq_true] at hnumbers
    rw [Number.partialCompare_eq hnumbers.1 hnumbers.2]
    rfl

/-- Turning the operands round turns the order round. -/
theorem compareOperands_swap (a b : Option Number) :
    compareOperands b a = (compareOperands a b).swap := by
  cases a with
  | none => cases b <;> rfl
  | some x =>
    cases b with
    | none => rfl
    | some y =>
      rw [compareOperands_some, compareOperands_some]
      by_cases hnan : x.isNaN = true ∨ y.isNaN = true
      · rw [if_pos hnan, if_pos hnan.symm]
        rfl
      · rw [if_neg hnan, if_neg fun h => hnan h.symm]
        exact Std.OrientedOrd.eq_swap

theorem compareOperands_self (a : Option Number) : compareOperands a a = .eq := by
  have hswap := compareOperands_swap a a
  cases hself : compareOperands a a <;> simp [hself] at hswap ⊢

theorem compareOperands_eq_iff : compareOperands (some x) (some y) = .eq ↔
    (x.isNaN = true ∨ y.isNaN = true) ∨ x.numericKey = y.numericKey := by
  rw [compareOperands_some]
  split
  · rename_i hnan
    exact iff_of_true rfl (.inl hnan)
  · rename_i hnumbers
    rw [compare_eq_iff_eq, or_iff_right hnumbers]

theorem isLE_compareOperands_iff : (compareOperands (some x) (some y)).isLE = true ↔
    (x.isNaN = true ∨ y.isNaN = true) ∨ x.numericKey ≤ y.numericKey := by
  rw [compareOperands_some]
  split
  · rename_i hnan
    exact iff_of_true rfl (.inl hnan)
  · rename_i hnumbers
    rw [Std.isLE_compare, or_iff_right hnumbers]

/-- Equal operands are those each of which is at most the other. -/
theorem compareOperands_eq_iff_isLE : compareOperands a b = .eq ↔
    (compareOperands a b).isLE = true ∧ (compareOperands b a).isLE = true := by
  rw [compareOperands_swap a b]
  cases compareOperands a b <;> decide

/-! ## Transitivity -/

/-- Two numbers and between them what is not a number. -/
def NaNBetween (a b c : Option Number) : Prop :=
  a.isSome = true ∧ (∃ y, b = some y ∧ y.isNaN = true) ∧ c.isSome = true

theorem NaNBetween.symm (h : NaNBetween a b c) : NaNBetween c b a := ⟨h.2.2, h.2.1, h.1⟩

/-- What is not a number is equal to the numbers on both sides. -/
theorem NaNBetween.compareOperands_eq (h : NaNBetween a b c) :
    compareOperands a b = .eq ∧ compareOperands b c = .eq := by
  obtain ⟨ha, ⟨y, rfl, hy⟩, hc⟩ := h
  obtain ⟨x, rfl⟩ := Option.isSome_iff_exists.1 ha
  obtain ⟨z, rfl⟩ := Option.isSome_iff_exists.1 hc
  exact ⟨compareOperands_eq_iff.2 (.inl (.inr hy)), compareOperands_eq_iff.2 (.inl (.inl hy))⟩

/-- **Only what is not a number joins two operands that are not in order.** -/
theorem nanBetween_of_isGT (hab : (compareOperands a b).isLE = true)
    (hbc : (compareOperands b c).isLE = true)
    (hac : ¬ (compareOperands a c).isLE = true) : NaNBetween a b c := by
  cases a with
  | none => cases c <;> exact absurd rfl hac
  | some x =>
    cases b with
    | none => cases hab
    | some y =>
      cases c with
      | none => cases hbc
      | some z =>
        rw [isLE_compareOperands_iff] at hab hbc hac
        refine ⟨rfl, ⟨y, rfl, ?_⟩, rfl⟩
        by_contra hy
        -- all three are numbers then, and the order of places is transitive
        have hxy : x.numericKey ≤ y.numericKey := hab.resolve_left fun h =>
          h.elim (fun hx => hac (.inl (.inl hx))) hy
        have hyz : y.numericKey ≤ z.numericKey := hbc.resolve_left fun h =>
          h.elim hy fun hz => hac (.inl (.inr hz))
        exact hac (.inr (hxy.trans hyz))

/-- The order is transitive on three operands unless what is not a number joins two
that are not in order. -/
theorem isLE_compareOperands_trans_iff (a b c : Option Number) :
    ((compareOperands a b).isLE = true → (compareOperands b c).isLE = true →
      (compareOperands a c).isLE = true) ↔
      ¬ (NaNBetween a b c ∧ ¬ (compareOperands a c).isLE = true) := by
  constructor
  · rintro htrans ⟨hnan, hac⟩
    obtain ⟨hab, hbc⟩ := hnan.compareOperands_eq
    exact hac (htrans (by rw [hab]; rfl) (by rw [hbc]; rfl))
  · intro hnone hab hbc
    by_contra hac
    exact hnone ⟨nanBetween_of_isGT hab hbc hac, hac⟩

/-- Equality is transitive on three operands unless what is not a number joins
two that are not equal. -/
theorem compareOperands_eq_trans_iff (a b c : Option Number) :
    (compareOperands a b = .eq → compareOperands b c = .eq → compareOperands a c = .eq) ↔
      ¬ (NaNBetween a b c ∧ compareOperands a c ≠ .eq) := by
  constructor
  · rintro htrans ⟨hnan, hac⟩
    exact hac (htrans hnan.compareOperands_eq.1 hnan.compareOperands_eq.2)
  · intro hnone hab hbc
    by_contra hac
    refine hnone ⟨?_, hac⟩
    obtain ⟨hab, hba⟩ := compareOperands_eq_iff_isLE.1 hab
    obtain ⟨hbc, hcb⟩ := compareOperands_eq_iff_isLE.1 hbc
    -- operands that are not equal are out of order one way or the other
    rcases not_and_or.1 (mt compareOperands_eq_iff_isLE.2 hac) with hac | hca
    · exact nanBetween_of_isGT hab hbc hac
    · exact (nanBetween_of_isGT hcb hba hca).symm

end Operands

/-! ## Answers -/

/-- Whether the operator compares its operands. -/
def isComparison : Operator → Bool
  | gt | lt | ge | le | eq | ne => true
  | _ => false

/-- Whether a comparison answers one for operands in an order. -/
def accepts : Operator → Ordering → Bool
  | gt => Ordering.isGT
  | lt => Ordering.isLT
  | ge => Ordering.isGE
  | le => Ordering.isLE
  | eq => Ordering.isEq
  | ne => Ordering.isNe
  | _ => fun _ => false

/-- The operator that asks for an order. -/
def ofOrdering : Ordering → Operator
  | .lt => lt
  | .eq => eq
  | .gt => gt

/-- An operator answers one on two values. -/
def Yields (op : Operator) (a b : Value) : Prop := op.apply a b = .number (.ofNat 1)

variable {op : Operator} {a b c : Value} {x y : Number}

/-- **A comparison answers one or zero, by the order of its operands.** -/
theorem apply_of_isComparison (h : op.isComparison = true) (a b : Value) :
    op.apply a b = truth (op.accepts (compareOperands a.toNumber? b.toNumber?)) := by
  cases op <;> first | rfl | cases h

theorem truth_eq_one_iff (t : Bool) : truth t = .number (.ofNat 1) ↔ t = true := by
  cases t <;> decide +kernel

theorem yields_iff (h : op.isComparison = true) :
    op.Yields a b ↔ op.accepts (compareOperands a.toNumber? b.toNumber?) = true := by
  rw [Yields, apply_of_isComparison h, truth_eq_one_iff]

theorem yields_le_iff : le.Yields a b ↔
    (compareOperands a.toNumber? b.toNumber?).isLE = true := yields_iff rfl

theorem yields_eq_iff : eq.Yields a b ↔ compareOperands a.toNumber? b.toNumber? = .eq := by
  rw [yields_iff rfl, accepts, Ordering.isEq_iff_eq_eq]

/-- Of the three operators that ask for an order, the one for the order of the
operands answers one. -/
theorem yields_iff_eq_ofOrdering (hop : op ∈ [lt, eq, gt]) :
    op.Yields a b ↔ op = ofOrdering (compareOperands a.toNumber? b.toNumber?) := by
  have hcomparison : op.isComparison = true := by
    revert op
    decide
  rw [yields_iff hcomparison]
  cases compareOperands a.toNumber? b.toNumber? <;> revert op <;> decide

theorem existsUnique_yields (a b : Value) : ∃! op, op ∈ [lt, eq, gt] ∧ op.Yields a b := by
  have hmem : ofOrdering (compareOperands a.toNumber? b.toNumber?) ∈ [lt, eq, gt] := by
    cases compareOperands a.toNumber? b.toNumber? <;> decide
  exact ⟨_, ⟨hmem, (yields_iff_eq_ofOrdering hmem).2 rfl⟩,
    fun op h => (yields_iff_eq_ofOrdering h.1).1 h.2⟩

/-- The other operators in terms of these three, and the strict order turned round. -/
theorem yields_derived (a b : Value) :
    (le.Yields a b ↔ lt.Yields a b ∨ eq.Yields a b) ∧
    (ge.Yields a b ↔ gt.Yields a b ∨ eq.Yields a b) ∧
      (ne.Yields a b ↔ ¬ eq.Yields a b) ∧ (lt.Yields a b ↔ gt.Yields b a) := by
  simp (disch := decide) only [yields_iff, compareOperands_swap a.toNumber? b.toNumber?]
  cases compareOperands a.toNumber? b.toNumber? <;> decide

theorem yields_eq_self (a : Value) : eq.Yields a a := yields_eq_iff.2 (compareOperands_self _)

theorem yields_eq_comm (a b : Value) : eq.Yields a b ↔ eq.Yields b a := by
  rw [yields_eq_iff, yields_eq_iff, compareOperands_eq_iff_isLE,
    compareOperands_eq_iff_isLE, and_comm]

/-- A missing operand is below every number, and two missing operands are equal. -/
theorem yields_of_missing (h : a.toNumber? = none) :
    (if b.toNumber?.isSome then lt else eq).Yields a b := by
  cases hb : b.toNumber? with
  | none => exact yields_eq_iff.2 (by rw [h, hb]; rfl)
  | some y => exact (yields_iff rfl).2 (by rw [h, hb]; rfl)

/-- What is not a number is equal to every number. -/
theorem yields_eq_of_isNaN (ha : a.toNumber? = some x) (hb : b.toNumber? = some y)
    (h : x.isNaN = true ∨ y.isNaN = true) : eq.Yields a b := by
  rw [yields_eq_iff, ha, hb, compareOperands_eq_iff]
  exact .inl h

/-- The infinities are the outermost of the numbers. -/
theorem yields_lt_of_rank_lt (ha : a.toNumber? = some x)
    (hb : b.toNumber? = some y) (hx : x.isNaN = false)
    (hy : y.isNaN = false) (h : x.rank < y.rank) : lt.Yields a b := by
  rw [yields_iff rfl, ha, hb, compareOperands_some, if_neg (by rw [hx, hy]; decide), accepts,
    Ordering.isLT_iff_eq_lt, compare_lt_iff_lt]
  exact Number.numericKey_lt_of_rank_lt h

/-- **Finite numbers are compared by their values.** -/
theorem yields_le_iff_toRat (ha : a.toNumber? = some x)
    (hb : b.toNumber? = some y) (hx : x.isFinite = true)
    (hy : y.isFinite = true) : le.Yields a b ↔ x.toRat ≤ y.toRat := by
  rw [yields_le_iff, ha, hb, isLE_compareOperands_iff, Number.isNaN_of_isFinite hx,
    Number.isNaN_of_isFinite hy, or_iff_right (by decide), Number.numericKey_le_iff hx hy]

/-- **The comparison operators come from one order.** Exactly one of `a < b`, `a == b` and `a > b`
answers one, and the other three operators are what they make of it. Equality is reflexive and
symmetric. A missing operand is below every number; infinities are the outermost of the numbers, and
finite ones are compared by their values; what is not a number is equal to every number. Equality
and `<=` are transitive on three values unless the middle one is not a number and stands between two
numbers that are not in order. -/
theorem comparisons_preorder_iff (a b c : Value) :
    (∃! op, op ∈ [lt, eq, gt] ∧ op.Yields a b) ∧
    ((le.Yields a b ↔ lt.Yields a b ∨ eq.Yields a b) ∧
      (ge.Yields a b ↔ gt.Yields a b ∨ eq.Yields a b) ∧
      (ne.Yields a b ↔ ¬ eq.Yields a b) ∧ (lt.Yields a b ↔ gt.Yields b a)) ∧
    eq.Yields a a ∧ (eq.Yields a b ↔ eq.Yields b a) ∧
    (a.toNumber? = none → (if b.toNumber?.isSome then lt else eq).Yields a b) ∧
    (∀ x y, a.toNumber? = some x → b.toNumber? = some y →
      (x.isNaN = true ∨ y.isNaN = true → eq.Yields a b) ∧
      (x.isNaN = false → y.isNaN = false → x.rank < y.rank → lt.Yields a b) ∧
      (x.isFinite = true → y.isFinite = true → (le.Yields a b ↔ x.toRat ≤ y.toRat))) ∧
    ((eq.Yields a b → eq.Yields b c → eq.Yields a c) ↔
      ¬ (NaNBetween a.toNumber? b.toNumber? c.toNumber? ∧ ¬ eq.Yields a c)) ∧
    ((le.Yields a b → le.Yields b c → le.Yields a c) ↔
      ¬ (NaNBetween a.toNumber? b.toNumber? c.toNumber? ∧ ¬ le.Yields a c)) := by
  refine ⟨existsUnique_yields a b, yields_derived a b, yields_eq_self a,
    yields_eq_comm a b, yields_of_missing,
    fun x y hx hy => ⟨yields_eq_of_isNaN hx hy, yields_lt_of_rank_lt hx hy,
      yields_le_iff_toRat hx hy⟩, ?_, ?_⟩
  · simp only [yields_eq_iff]
    exact compareOperands_eq_trans_iff _ _ _
  · simp only [yields_le_iff]
    exact isLE_compareOperands_trans_iff _ _ _

/-- What the text "nan" counts as is equal to two and to one, which are not equal
and not in this order. -/
theorem not_transitive_text_nan :
    (eq.Yields (.number (.ofNat 2)) (.text "nan") ∧ eq.Yields (.text "nan") (.number (.ofNat 1)) ∧
      ¬ eq.Yields (.number (.ofNat 2)) (.number (.ofNat 1))) ∧
    (le.Yields (.number (.ofNat 2)) (.text "nan") ∧ le.Yields (.text "nan") (.number (.ofNat 1)) ∧
      ¬ le.Yields (.number (.ofNat 2)) (.number (.ofNat 1))) := by
  unfold Yields
  decide +kernel

end Operator

end DataStep
