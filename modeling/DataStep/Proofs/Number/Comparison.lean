import DataStep.Proofs.Number.Order

/-!
# Comparing numbers

Two data are compared by one integer each, unless one of them is not a number (`partialCompare_eq`):
by the place in the total order, where the two zeros share one place (`numericKey`). Among finite
numbers the order of these places is the order of the values (`numericKey_le_iff`), so that finite
numbers are compared by their values (`atMost_iff`).
-/

set_option autoImplicit false

namespace DataStep.Number

variable {x y : Number}

/-! ## Places -/

/-- The place of a number in the order of numbers; the two zeros are on one place. -/
def numericKey (x : Number) : Int := if x.isZero then 0 else x.orderKey

/-- Only the zeros are on the place zero. -/
theorem numericKey_eq_zero_iff : x.numericKey = 0 ↔ x.isZero = true := by
  simp only [numericKey, isZero, beq_iff_eq, orderKey]
  split_ifs <;> omega

/-- Only the negative zero is moved, from the place before zero, and nothing is left there. -/
theorem orderKey_cases (x : Number) :
    x.orderKey = x.numericKey ∧ x.numericKey ≠ -1 ∨ x.orderKey = -1 ∧ x.numericKey = 0 := by
  simp only [numericKey, isZero, beq_iff_eq, orderKey]
  split_ifs <;> omega

theorem orderKey_lt_of_numericKey_lt (h : x.numericKey < y.numericKey) :
    x.orderKey < y.orderKey := by
  have hx := orderKey_cases x
  have hy := orderKey_cases y
  omega

theorem compare_congr {a b c d : Int} (hlt : a < b ↔ c < d) (hgt : b < a ↔ d < c) :
    Ord.compare a b = Ord.compare c d := by
  rcases lt_trichotomy a b with h | rfl | h
  · rw [compare_lt_iff_lt.2 h, compare_lt_iff_lt.2 (hlt.1 h)]
  · have hcd : c = d := by omega
    rw [compare_eq_iff_eq.2 rfl, compare_eq_iff_eq.2 hcd]
  · rw [compare_gt_iff_gt.2 h, compare_gt_iff_gt.2 (hgt.1 h)]

/-- **Numbers are compared by their places.** -/
theorem partialCompare_eq (hx : x.isNaN = false) (hy : y.isNaN = false) :
    x.partialCompare y = some (Ord.compare x.numericKey y.numericKey) := by
  simp only [partialCompare, hx, hy, Bool.or_false, if_neg Bool.false_ne_true, Bool.and_eq_true,
    ← numericKey_eq_zero_iff]
  split
  · rename_i hzeros
    rw [hzeros.1, hzeros.2]
    rfl
  · -- not both are zeros, so it makes no difference where the negative zero is
    rename_i hzeros
    have hxcases := orderKey_cases x
    have hycases := orderKey_cases y
    exact congrArg some (compare_congr (by omega) (by omega))

/-- What is not a number has no order to anything. -/
theorem partialCompare_of_isNaN (h : x.isNaN = true ∨ y.isNaN = true) :
    x.partialCompare y = none := by
  rw [partialCompare, if_pos (by simpa using h)]

/-! ## Values -/

theorem numericKey_eq_zero_iff_toRat (hx : x.isFinite = true) : x.numericKey = 0 ↔ x.toRat = 0 := by
  rw [numericKey_eq_zero_iff, toRat_eq_zero_iff hx, isZero, beq_iff_eq]

/-- A smaller value is on an earlier place. -/
theorem numericKey_lt_of_toRat_lt (hx : x.isFinite = true) (hy : y.isFinite = true)
    (h : x.toRat < y.toRat) :
    x.numericKey < y.numericKey := by
  have hxcases := orderKey_cases x
  have hycases := orderKey_cases y
  have hxzero := numericKey_eq_zero_iff_toRat hx
  have hyzero := numericKey_eq_zero_iff_toRat hy
  rcases eq_or_ne x.toRat 0 with hx0 | hx0
  · -- the second number is positive
    have hpos : 0 < y.toRat := hx0 ▸ h
    have hne : y.numericKey ≠ 0 := fun h0 => hpos.ne' (hyzero.1 h0)
    have hplace := orderKey_nonneg_of_toRat_pos hpos
    rw [hxzero.2 hx0]
    omega
  · have hne : x.numericKey ≠ 0 := fun h0 => hx0 (hxzero.1 h0)
    rcases eq_or_ne y.toRat 0 with hy0 | hy0
    · have hplace := orderKey_neg_of_toRat_neg (hy0 ▸ h : x.toRat < 0)
      rw [hyzero.2 hy0]
      omega
    · -- both are the numbers nearest to their values, and rounding keeps the order
      have hle : x.orderKey ≤ y.orderKey := by
        rw [← ofRat_toRat hx hx0, ← ofRat_toRat hy hy0]
        exact orderKey_ofRat_le h.le
      have hother : x.orderKey ≠ y.orderKey := fun heq => h.ne (congrArg toRat (orderKey_inj heq))
      have hne' : y.numericKey ≠ 0 := fun h0 => hy0 (hyzero.1 h0)
      omega

/-- One value is on one place. -/
theorem numericKey_eq_of_toRat_eq (hx : x.isFinite = true) (hy : y.isFinite = true)
    (h : x.toRat = y.toRat) :
    x.numericKey = y.numericKey := by
  rcases eq_or_ne x.toRat 0 with hx0 | hx0
  · rw [(numericKey_eq_zero_iff_toRat hx).2 hx0, (numericKey_eq_zero_iff_toRat hy).2 (h ▸ hx0)]
  · have hsame : x = y := by
      rw [← ofRat_toRat hx hx0, h]
      exact ofRat_toRat hy (h ▸ hx0)
    rw [hsame]

/-- **The order of places is the order of values.** -/
theorem numericKey_le_iff (hx : x.isFinite = true) (hy : y.isFinite = true) :
    x.numericKey ≤ y.numericKey ↔ x.toRat ≤ y.toRat := by
  constructor
  · intro h
    by_contra hgreater
    exact absurd (numericKey_lt_of_toRat_lt hy hx (not_le.1 hgreater)) (not_lt.2 h)
  · intro h
    rcases h.lt_or_eq with hlt | heq
    · exact (numericKey_lt_of_toRat_lt hx hy hlt).le
    · exact (numericKey_eq_of_toRat_eq hx hy heq).le

/-- **Finite numbers are compared by their values.** -/
theorem atMost_iff (hx : x.isFinite = true) (hy : y.isFinite = true) :
    x.atMost y = true ↔ x.toRat ≤ y.toRat := by
  rw [← numericKey_le_iff hx hy, atMost, below, equals,
    partialCompare_eq (isNaN_of_isFinite hx) (isNaN_of_isFinite hy),
    Bool.or_eq_true, beq_iff_eq, beq_iff_eq, Option.some.injEq,
    Option.some.injEq, compare_lt_iff_lt, compare_eq_iff_eq, le_iff_lt_or_eq]

end DataStep.Number
