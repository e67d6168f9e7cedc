import DataStep.Proofs.Number.Comparison

/-!
# Integers among the numbers

A finite number whose value is an integer (`Number.IsInt`). All integers up to `2 ^ 53` are values
of numbers (`isInt_ofInt`), and a sum of integers that is one of them is exact (`IsInt.add`).
-/

set_option autoImplicit false

namespace DataStep.Number

variable {x y : Number} {i j : Int}

/-- The value of a finite number is an integer. A zero of either sign has the value zero. -/
def IsInt (x : Number) (i : Int) : Prop := x.isFinite = true ∧ x.toRat = i

instance (x : Number) (i : Int) : Decidable (x.IsInt i) := inferInstanceAs (Decidable (_ ∧ _))

/-- The least whole number of 54 bits is exact, too. -/
theorem absValue_whole_two_pow (negative : Bool) :
    (whole negative (2 ^ 53)).absValue = (2 ^ 53 : Nat) := by
  cases negative <;> decide +kernel

/-- **The number of an integer up to `2 ^ 53` has the integer for its value.** -/
theorem isInt_ofInt (hi : i.natAbs ≤ 2 ^ 53) : (ofInt i).IsInt i := by
  have hfinite : (ofInt i).isFinite = true :=
    isFinite_whole (by norm_num : 54 ≤ 1023) (hi.trans_lt (by norm_num))
  have hvalue : (ofInt i).absValue = i.natAbs := by
    rcases hi.lt_or_eq with hlt | heq
    · exact absValue_whole hlt
    · change (whole (decide (i < 0)) i.natAbs).absValue = _
      rw [heq]
      exact absValue_whole_two_pow _
  refine ⟨hfinite, ?_⟩
  rw [toRat_of_absValue hvalue, Int.cast_inj]
  change (if decide (i < 0) = true then -(i.natAbs : Int) else i.natAbs) = i
  simp only [decide_eq_true_eq]
  split <;> omega

/-- The number nearest to an integer. -/
theorem ofRat_intCast (i : Int) : ofRat (i : ℚ) = ofInt i := by
  rw [ofRat, ofInt, Rat.num_intCast, Rat.den_intCast]
  congr 1
  exact decide_eq_decide.2 Int.cast_lt_zero

/-- **A sum of integers is exact up to `2 ^ 53`.** -/
theorem IsInt.add (hx : x.IsInt i) (hy : y.IsInt j) (hij : (i + j).natAbs ≤ 2 ^ 53) :
    (x.add y).IsInt (i + j) := by
  have hsum : x.toRat + y.toRat = ((i + j : Int) : ℚ) := by
    rw [hx.2, hy.2, Int.cast_add]
  rcases eq_or_ne (i + j) 0 with hzero | hne
  · rw [hzero, Int.cast_zero] at hsum
    rw [add_eq_zero hx.1 hy.1 hsum, hzero]
    -- a zero of either sign
    cases x.negative && y.negative <;> decide +kernel
  · have hnonzero : x.toRat + y.toRat ≠ 0 := by
      rw [hsum]
      exact_mod_cast hne
    rw [add_eq_ofRat hx.1 hy.1 hnonzero, hsum, ofRat_intCast]
    exact isInt_ofInt hij

/-- Integers are compared as such. -/
theorem IsInt.atMost_iff (hx : x.IsInt i) (hy : y.IsInt j) : x.atMost y = true ↔ i ≤ j := by
  rw [Number.atMost_iff hx.1 hy.1, hx.2, hy.2, Int.cast_le]

theorem IsInt.below_zero_iff (hx : x.IsInt i) : below (zero false) x = true ↔ 0 < i := by
  rw [Number.below_zero_iff hx.1, hx.2, Int.cast_pos]

theorem IsInt.isZero_iff (hx : x.IsInt i) : x.isZero = true ↔ i = 0 := by
  rw [← numericKey_eq_zero_iff, numericKey_eq_zero_iff_toRat hx.1, hx.2, Int.cast_eq_zero]

/-- An integer is its own whole part. -/
theorem IsInt.wholePart_eq (h : x.IsInt i) : x.wholePart = i := by
  rw [wholePart, h.2]
  simp

end DataStep.Number
