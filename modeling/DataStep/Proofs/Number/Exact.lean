import DataStep.Proofs.Number.Rounding
import Mathlib.Tactic.IntervalCases

/-!
# Arithmetic on the values of numbers

The product and the quotient of two finite numbers are what the product and the quotient of their
values round to (`mul_eq_ofRatio`, `div_eq_ofRatio`). Whole numbers up to `2 ^ 53` are exact
(`absValue_whole`), and what lies below `2 ^ 1023` rounds to a finite number (`isFinite_ofRatio`).
-/

set_option autoImplicit false

namespace DataStep.Number

open Rational

variable {n d : Nat} {negative : Bool} {x y : Number}

/-! ## Range -/

theorem isFinite_iff : x.isFinite = true ↔ x.magnitude < infinityMagnitude := decide_eq_true_iff

theorem isNaN_of_isFinite (h : x.isFinite = true) : x.isNaN = false :=
  decide_eq_false (Nat.lt_asymm (isFinite_iff.1 h))

theorem isInfinite_of_isFinite (h : x.isFinite = true) : x.isInfinite = false :=
  beq_eq_false_iff_ne.2 (isFinite_iff.1 h).ne

/-- A fraction below `2 ^ 1023` rounds to a finite number. -/
theorem isFinite_ofRatio {k : Nat} (hk : k ≤ 1023) (hd : 0 < d) (h : n < 2 ^ k * d) :
    (ofRatio negative n d).isFinite = true := by
  rw [isFinite_iff]
  change roundedMagnitude n d < infinityMagnitude
  rcases Nat.eq_zero_or_pos n with rfl | hn
  · rw [roundedMagnitude, if_pos rfl]
    norm_num
  · have hdq : (0 : ℚ) < d := by exact_mod_cast hd
    have hq : (0 : ℚ) < n / d := div_pos (by exact_mod_cast hn) hdq
    have hexponent : binaryExponent n d < k := by
      rw [binaryExponent_eq_log hn hd, ← Int.lt_zpow_iff_log_lt (by norm_num) hq, div_lt_iff₀ hdq]
      exact_mod_cast h
    generalize hscale : max (binaryExponent n d - 52) (-1074) = scale
    -- the significand has no more than 53 bits before it is rounded
    have hbound : n <<< (-scale).toNat < 2 ^ 53 * (d <<< scale.toNat) := by
      have hlog : (n : ℚ) / d < 2 ^ (53 + scale) := by
        refine (Int.lt_zpow_iff_log_lt (by norm_num) hq).2 ?_
        rw [← binaryExponent_eq_log hn hd]
        omega
      rw [zpow_add₀ two_ne_zero, zpow_eq_div 2 two_ne_zero scale, ← mul_div_assoc,
        div_lt_div_iff₀ hdq (by positivity)] at hlog
      rw [Nat.shiftLeft_eq, Nat.shiftLeft_eq, ← Nat.mul_assoc, Nat.mul_right_comm]
      exact_mod_cast hlog
    have hquotient : n <<< (-scale).toNat / (d <<< scale.toNat) < 2 ^ 53 :=
      Nat.div_lt_of_lt_mul (by rwa [Nat.mul_comm])
    have hround := roundDiv_eq_or (n <<< (-scale).toNat) (d <<< scale.toNat)
    have hsteps : (scale + 1074).toNat ≤ 2044 := by omega
    unfold roundedMagnitude
    rw [if_neg hn.ne', hscale]
    refine Nat.lt_of_le_of_lt (Nat.min_le_right _ _) ?_
    calc (scale + 1074).toNat * fractions + roundDiv (n <<< (-scale).toNat) (d <<< scale.toNat)
        ≤ 2044 * fractions + 2 ^ 53 := by
          have : roundDiv (n <<< (-scale).toNat) (d <<< scale.toNat) ≤ 2 ^ 53 := by omega
          gcongr
      _ < infinityMagnitude := by norm_num

/-! ## Products and quotients -/

theorem absValue_of_magnitude (h : x.magnitude = 0) : x.absValue = 0 := by
  have hsignificand : x.significand = 0 := by
    rw [significand, exponentBits, h]
    rfl
  rw [absValue_eq, hsignificand, Nat.cast_zero, zero_mul]

/-- **A product of finite numbers is what the product of their values rounds to.** -/
theorem mul_eq_ofRatio (hx : x.isFinite = true) (hy : y.isFinite = true) (hd : 0 < d)
    (h : (n : ℚ) / d = x.absValue * y.absValue) :
    x.mul y = ofRatio (x.negative != y.negative) n d := by
  unfold mul
  dsimp only
  rw [isNaN_of_isFinite hx, isNaN_of_isFinite hy, isInfinite_of_isFinite hx,
    isInfinite_of_isFinite hy, Bool.or_false,
    if_neg Bool.false_ne_true, if_neg Bool.false_ne_true, if_neg Bool.false_ne_true, ofDyadic]
  refine ofRatio_congr (by rw [Nat.shiftLeft_eq]; positivity) hd ?_
  rw [h, absValue_eq, absValue_eq]
  push_cast [Nat.shiftLeft_eq]
  rw [one_mul, mul_div_assoc, ← zpow_eq_div 2 two_ne_zero, zpow_add₀ two_ne_zero]
  ring

/-- **A quotient of finite numbers is what the quotient of their values rounds to.** -/
theorem div_eq_ofRatio (hx : x.isFinite = true) (hy : y.isFinite = true)
    (hpos : 0 < y.absValue) (hd : 0 < d) (h : (n : ℚ) / d = x.absValue / y.absValue) :
    x.div y = ofRatio (x.negative != y.negative) n d := by
  have hnum : 0 < y.ratio.1 := by
    rcases Nat.eq_zero_or_pos y.ratio.1 with hzero | hnum
    · rw [absValue, hzero, Nat.cast_zero, zero_div] at hpos
      exact absurd hpos (lt_irrefl _)
    · exact hnum
  have hzero : y.isZero = false := by
    rw [isZero, beq_eq_false_iff_ne]
    intro hmagnitude
    rw [absValue_of_magnitude hmagnitude] at hpos
    exact lt_irrefl _ hpos
  unfold div
  dsimp only
  rw [isNaN_of_isFinite hx, isNaN_of_isFinite hy, isInfinite_of_isFinite hx,
    isInfinite_of_isFinite hy, hzero,
    Bool.or_false, if_neg Bool.false_ne_true, if_neg Bool.false_ne_true, if_neg Bool.false_ne_true,
    if_neg Bool.false_ne_true]
  refine ofRatio_congr (Nat.mul_pos x.ratio_snd_pos hnum) hd ?_
  rw [h, absValue, absValue, div_div_div_eq]
  push_cast
  rfl

/-! ## Exact numbers -/

/-- A number by one is the number. -/
theorem mul_one_eq (hx : x.isFinite = true) (hy : y.isFinite = true)
    (hpositive : y.negative = false) (hone : y.absValue = 1) : x.mul y = x := by
  have h : (x.ratio.1 : ℚ) / x.ratio.2 = x.absValue * y.absValue := by rw [hone, mul_one, absValue]
  rw [mul_eq_ofRatio hx hy x.ratio_snd_pos h, hpositive, Bool.bne_false]
  exact ofRatio_of_absValue hx x.ratio_snd_pos rfl

/-- A whole number of up to 53 bits as a number: its leading bit stands for the exponent. -/
theorem exists_absValue (negative : Bool) (hpos : 0 < n) (hn : n < 2 ^ 53) :
    ∃ x : Number, x.negative = negative ∧ x.isFinite = true ∧ x.absValue = n := by
  have hlog : n.log2 < 53 := (Nat.log2_lt hpos.ne').2 hn
  obtain ⟨k, hk⟩ : ∃ k, n.log2 + k = 52 := ⟨52 - n.log2, by omega⟩
  -- the significand of 53 bits and the fraction behind its leading bit
  obtain ⟨f, hf⟩ : ∃ f, n * 2 ^ k = 2 ^ 52 + f := by
    refine Nat.exists_eq_add_of_le ?_
    rw [← hk, Nat.pow_add]
    exact Nat.mul_le_mul_right _ (Nat.log2_self_le hpos.ne')
  have hlt : f < fractions := by
    have : n * 2 ^ k < 2 ^ 53 := by
      calc n * 2 ^ k < 2 ^ (n.log2 + 1) * 2 ^ k := by
            have : n < 2 ^ (n.log2 + 1) := Nat.lt_log2_self
            gcongr
        _ = 2 ^ 53 := by rw [← Nat.pow_add]; congr 1; omega
    change f < 2 ^ 52
    omega
  have hmagnitude : (n.log2 + 1023) * fractions + f < infinityMagnitude := by
    have : n.log2 + 1023 ≤ 1075 := by omega
    calc (n.log2 + 1023) * fractions + f ≤ 1075 * fractions + fractions := by gcongr
      _ < infinityMagnitude := by norm_num
  let x : Number := ⟨negative, (n.log2 + 1023) * fractions + f, hmagnitude.trans (by norm_num)⟩
  have hbits : x.exponentBits = n.log2 + 1023 := by
    change ((n.log2 + 1023) * fractions + f) / fractions = _
    rw [Nat.mul_comm, Nat.mul_add_div (by norm_num), Nat.div_eq_of_lt hlt, Nat.add_zero]
  have hsignificand : x.significand = n * 2 ^ k := by
    rw [significand, hbits, if_neg (by omega), hf]
    change fractions + ((n.log2 + 1023) * fractions + f) % fractions = _
    rw [Nat.mul_comm, Nat.mul_add_mod, Nat.mod_eq_of_lt hlt]
    norm_num
  have hscale : x.scale = -(k : Int) := by
    rw [scale, hbits]
    omega
  refine ⟨x, rfl, isFinite_iff.2 hmagnitude, ?_⟩
  rw [absValue_eq, hsignificand, hscale, zpow_neg, zpow_natCast]
  push_cast
  field_simp

/-- **Whole numbers of up to 53 bits are exact.** -/
theorem absValue_whole (hn : n < 2 ^ 53) : (whole negative n).absValue = n := by
  rcases Nat.eq_zero_or_pos n with rfl | hpos
  · rw [Nat.cast_zero]
    refine absValue_of_magnitude ?_
    change roundedMagnitude 0 1 = 0
    rw [roundedMagnitude, if_pos rfl]
  · obtain ⟨x, rfl, hfinite, hvalue⟩ := exists_absValue negative hpos hn
    rw [whole, ofRatio_of_absValue hfinite Nat.one_pos (by rw [hvalue, Nat.cast_one, div_one]),
      hvalue]

theorem isFinite_whole {k : Nat} (hk : k ≤ 1023) (hn : n < 2 ^ k) :
    (whole negative n).isFinite = true :=
  isFinite_ofRatio hk Nat.one_pos (by rwa [Nat.mul_one])

end DataStep.Number
