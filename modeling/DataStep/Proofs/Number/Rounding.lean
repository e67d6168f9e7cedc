import DataStep.Number.Writing
import Mathlib.Algebra.Order.Field.Power
import Mathlib.Data.Int.Log
import Mathlib.Data.Rat.Floor
import Mathlib.Tactic.FieldSimp
import Mathlib.Tactic.Linarith
import Mathlib.Tactic.NormNum
import Mathlib.Tactic.Positivity
import Mathlib.Tactic.Ring

/-!
# Rounding and the digits of numbers

Rounding a fraction depends on its value alone (`ofRatio_congr`), and the value of a finite number
rounds to the number (`ofRatio_of_absValue`). So the shortcuts by which a decimal of an extreme
exponent is read do not change what it denotes (`ofDecimal_eq_ofRatio`). Main statement: the
shortest digits of a finite number denote the number (`ofDecimal_shortest`).
-/

set_option autoImplicit false

namespace DataStep

/-! ## Fractions -/

namespace Rational

variable {n d k : Nat}

theorem roundDiv_mul (hk : 0 < k) : roundDiv (n * k) (d * k) = roundDiv n d := by
  have hlt : ∀ a b : Nat, a * k < b * k ↔ a < b := fun a b => Nat.mul_lt_mul_right hk
  unfold roundDiv
  simp only [Nat.mul_div_mul_right _ _ hk, Nat.mul_mod_mul_right, ← Nat.mul_assoc, hlt]

/-- A rounded quotient is one of the two whole numbers around the quotient. -/
theorem roundDiv_eq_or (n d : Nat) : roundDiv n d = n / d ∨ roundDiv n d = n / d + 1 := by
  have hpar : n / d % 2 = 0 ∨ n / d % 2 = 1 := by omega
  unfold roundDiv
  split
  · exact .inl rfl
  · split
    · exact .inr rfl
    · omega

/-- A power of two of either sign, as a fraction of natural powers. -/
theorem zpow_eq_div (b : ℚ) (hb : b ≠ 0) (e : Int) : b ^ e = b ^ e.toNat / b ^ (-e).toNat := by
  rw [eq_div_iff (pow_ne_zero _ hb), ← zpow_natCast, ← zpow_natCast, ← zpow_add₀ hb]
  congr 1
  omega

theorem shiftLeft_le_iff (hd : 0 < d) (e : Int) :
    d <<< e.toNat ≤ n <<< (-e).toNat ↔ (2 : ℚ) ^ e ≤ n / d := by
  have hdq : (0 : ℚ) < d := by exact_mod_cast hd
  rw [zpow_eq_div 2 two_ne_zero, div_le_div_iff₀ (by positivity) hdq,
    Nat.shiftLeft_eq, Nat.shiftLeft_eq, mul_comm d]
  exact_mod_cast Iff.rfl

/-- An exponent whose power of two is the greatest below a fraction. -/
theorem eq_log_of_le_of_lt {q : ℚ} {e : Int} (hq : 0 < q) (hle : (2 : ℚ) ^ e ≤ q)
    (hlt : q < 2 ^ (e + 1)) :
    e = Int.log 2 q := by
  have hle' : e ≤ Int.log 2 q := (Int.zpow_le_iff_le_log (by norm_num) hq).1 (by exact_mod_cast hle)
  have hlt' : Int.log 2 q < e + 1 :=
    (Int.lt_zpow_iff_log_lt (by norm_num) hq).1 (by exact_mod_cast hlt)
  omega

theorem natCast_lt_zpow_log2 (n : Nat) : (n : ℚ) < 2 ^ ((n.log2 : Int) + 1) := by
  have h : n < 2 ^ (n.log2 + 1) := Nat.lt_log2_self
  exact_mod_cast h

theorem zpow_log2_le_natCast (hn : 0 < n) : (2 : ℚ) ^ (n.log2 : Int) ≤ n := by
  have h : 2 ^ n.log2 ≤ n := Nat.log2_self_le (by omega)
  exact_mod_cast h

/-- **The binary exponent of a fraction depends on its value alone.** -/
theorem binaryExponent_eq_log (hn : 0 < n) (hd : 0 < d) :
    binaryExponent n d = Int.log 2 ((n : ℚ) / d) := by
  have hnq : (0 : ℚ) < n := by exact_mod_cast hn
  have hdq : (0 : ℚ) < d := by exact_mod_cast hd
  unfold binaryExponent
  generalize he : (n.log2 : Int) - d.log2 = e
  -- the quotient lies between half of `2 ^ e` and twice of it
  have hupper : (n : ℚ) / d < 2 ^ (e + 1) := by
    rw [div_lt_iff₀ hdq]
    calc (n : ℚ) < 2 ^ ((n.log2 : Int) + 1) := natCast_lt_zpow_log2 n
      _ = 2 ^ (e + 1) * 2 ^ (d.log2 : Int) := by
        rw [← zpow_add₀ two_ne_zero]
        congr 1
        omega
      _ ≤ 2 ^ (e + 1) * d := by
        have := zpow_log2_le_natCast hd
        gcongr
  have hlower : (2 : ℚ) ^ (e - 1) ≤ n / d := by
    rw [le_div_iff₀ hdq]
    calc (2 : ℚ) ^ (e - 1) * d ≤ 2 ^ (e - 1) * 2 ^ ((d.log2 : Int) + 1) := by
          have := (natCast_lt_zpow_log2 d).le
          gcongr
      _ = 2 ^ (n.log2 : Int) := by
        rw [← zpow_add₀ two_ne_zero]
        congr 1
        omega
      _ ≤ n := zpow_log2_le_natCast hn
  have hq : (0 : ℚ) < n / d := div_pos hnq hdq
  dsimp only
  split
  · rename_i hreached
    exact eq_log_of_le_of_lt hq ((shiftLeft_le_iff hd e).1 hreached) hupper
  · rename_i hmissed
    refine eq_log_of_le_of_lt hq hlower ?_
    rw [Int.sub_add_cancel]
    exact not_le.1 fun hle => hmissed ((shiftLeft_le_iff hd e).2 hle)

end Rational

namespace Number

open Rational

variable {n d n' d' k : Nat} {negative : Bool} {x : Number}

/-! ## Rounding -/

theorem roundedMagnitude_mul (hd : 0 < d) (hk : 0 < k) :
    roundedMagnitude (n * k) (d * k) = roundedMagnitude n d := by
  have hshift : ∀ a b : Nat, (a * k) <<< b = (a <<< b) * k := fun a b => by
    rw [Nat.shiftLeft_eq, Nat.shiftLeft_eq, Nat.mul_right_comm]
  rcases Nat.eq_zero_or_pos n with rfl | hn
  · rw [Nat.zero_mul, roundedMagnitude, roundedMagnitude, if_pos rfl, if_pos rfl]
  · have hvalue : ((n * k : Nat) : ℚ) / ((d * k : Nat) : ℚ) = n / d := by
      have hkq : (k : ℚ) ≠ 0 := by exact_mod_cast hk.ne'
      rw [Nat.cast_mul, Nat.cast_mul, mul_div_mul_right _ _ hkq]
    have hexponent : binaryExponent (n * k) (d * k) = binaryExponent n d := by
      rw [binaryExponent_eq_log (Nat.mul_pos hn hk) (Nat.mul_pos hd hk),
        binaryExponent_eq_log hn hd, hvalue]
    unfold roundedMagnitude
    rw [if_neg (Nat.mul_pos hn hk).ne', if_neg hn.ne', hexponent]
    dsimp only
    rw [hshift, hshift, roundDiv_mul hk]

/-- **Rounding a fraction depends on its value alone.** -/
theorem ofRatio_congr (hd : 0 < d) (hd' : 0 < d') (h : (n : ℚ) / d = n' / d') :
    ofRatio negative n d = ofRatio negative n' d' := by
  have hdq : (d : ℚ) ≠ 0 := by exact_mod_cast hd.ne'
  have hdq' : (d' : ℚ) ≠ 0 := by exact_mod_cast hd'.ne'
  rw [div_eq_div_iff hdq hdq'] at h
  have hcross : n * d' = n' * d := by exact_mod_cast h
  rw [ext_iff]
  refine ⟨rfl, ?_⟩
  change roundedMagnitude n d = roundedMagnitude n' d'
  rw [← roundedMagnitude_mul hd hd', hcross, Nat.mul_comm d d', roundedMagnitude_mul hd' hd]

/-- A fraction beyond the greatest number rounds to infinity. -/
theorem roundedMagnitude_of_large (hd : 0 < d) (h : 2 ^ 1024 * d ≤ n) :
    roundedMagnitude n d = infinityMagnitude := by
  have hn : 0 < n := Nat.lt_of_lt_of_le (Nat.mul_pos (by positivity) hd) h
  have hdq : (0 : ℚ) < d := by exact_mod_cast hd
  have hq : (0 : ℚ) < n / d := div_pos (by exact_mod_cast hn) hdq
  have hexponent : 1024 ≤ binaryExponent n d := by
    rw [binaryExponent_eq_log hn hd, ← Int.zpow_le_iff_le_log (by norm_num) hq, le_div_iff₀ hdq]
    exact_mod_cast h
  obtain ⟨k, hk⟩ : ∃ k : Nat, binaryExponent n d - 52 = (k : Int) :=
    ⟨(binaryExponent n d - 52).toNat, by omega⟩
  have hscale : max (binaryExponent n d - 52) (-1074) = (k : Int) := by omega
  -- the significand has 53 bits
  have hleading : 2 ^ 52 ≤ roundDiv n (d <<< k) := by
    have hle : (2 : ℚ) ^ (binaryExponent n d) ≤ n / d := by
      rw [binaryExponent_eq_log hn hd]
      exact_mod_cast Int.zpow_log_le_self (by norm_num) hq
    have hbits : binaryExponent n d = ((52 + k : Nat) : Int) := by omega
    rw [hbits, zpow_natCast, le_div_iff₀ hdq] at hle
    have hfloor : 2 ^ (52 + k) * d ≤ n := by exact_mod_cast hle
    have hquotient : 2 ^ 52 ≤ n / (d <<< k) := by
      rw [Nat.le_div_iff_mul_le (by rw [Nat.shiftLeft_eq]; positivity), Nat.shiftLeft_eq]
      calc 2 ^ 52 * (d * 2 ^ k) = 2 ^ (52 + k) * d := by ring
        _ ≤ n := hfloor
    rcases roundDiv_eq_or n (d <<< k) with h | h <;> omega
  unfold roundedMagnitude
  rw [if_neg hn.ne', hscale]
  have hup : (-(k : Int)).toNat = 0 := by omega
  have hdown : ((k : Int)).toNat = k := Int.toNat_natCast k
  have hbits : ((k : Int) + 1074).toNat = k + 1074 := by omega
  dsimp only
  rw [hup, hdown, hbits, Nat.shiftLeft_zero]
  apply Nat.min_eq_left
  calc infinityMagnitude = 2046 * fractions + 2 ^ 52 := by norm_num
    _ ≤ (k + 1074) * fractions + roundDiv n (d <<< k) := by
      have : 2046 ≤ k + 1074 := by omega
      gcongr

/-- A fraction below half of the least number rounds to zero. -/
theorem roundedMagnitude_of_small (h : n * 2 ^ (1074 + 1) < d) : roundedMagnitude n d = 0 := by
  rcases Nat.eq_zero_or_pos n with rfl | hn
  · rw [roundedMagnitude, if_pos rfl]
  · generalize hk : (1074 : Nat) = k at h
    have hd : 0 < d := by omega
    have hdq : (0 : ℚ) < d := by exact_mod_cast hd
    have hq : (0 : ℚ) < n / d := div_pos (by exact_mod_cast hn) hdq
    have hexponent : binaryExponent n d < -((k + 1 : Nat) : Int) := by
      rw [binaryExponent_eq_log hn hd, ← Int.lt_zpow_iff_log_lt (by norm_num) hq,
        div_lt_iff₀ hdq, zpow_neg, inv_mul_eq_div, lt_div_iff₀ (by positivity), zpow_natCast]
      exact_mod_cast h
    have hscale : max (binaryExponent n d - 52) (-1074) = -(k : Int) := by omega
    have hround : roundDiv (n <<< k) d = 0 := by
      have hhalf : 2 * (n <<< k) < d := by
        rw [Nat.shiftLeft_eq]
        calc 2 * (n * 2 ^ k) = n * 2 ^ (k + 1) := by ring
          _ < d := h
      have hlt : n <<< k < d := by omega
      rw [roundDiv, Nat.mod_eq_of_lt hlt, if_pos hhalf, Nat.div_eq_of_lt hlt]
    have hup : (-(-(k : Int))).toNat = k := by omega
    have hdown : (-(k : Int)).toNat = 0 := by omega
    have hbits : (-(k : Int) + 1074).toNat = 0 := by omega
    unfold roundedMagnitude
    rw [if_neg hn.ne', hscale]
    dsimp only
    rw [hup, hdown, hbits, Nat.shiftLeft_zero, hround]
    rfl

/-! ## Finite numbers -/

/-- The absolute value of a finite number. -/
def absValue (x : Number) : ℚ := (x.ratio.1 : ℚ) / x.ratio.2

theorem ratio_snd_pos (x : Number) : 0 < x.ratio.2 := by
  change 0 < 1 <<< (-x.scale).toNat
  rw [Nat.shiftLeft_eq]
  positivity

/-- The exponent bits and the fraction make up the magnitude. -/
theorem magnitude_eq (x : Number) :
    x.magnitude = x.exponentBits * fractions + x.magnitude % fractions := by
  rw [exponentBits, Nat.mul_comm]
  exact (Nat.div_add_mod x.magnitude fractions).symm

/-- A significand with its scale stands for the magnitude. -/
theorem magnitude_of_significand (x : Number) :
    (x.scale + 1074).toNat * fractions + x.significand = x.magnitude := by
  have hmagnitude := x.magnitude_eq
  unfold scale significand
  split
  · rename_i hbits
    rw [hbits, Nat.zero_mul, Nat.zero_add] at hmagnitude
    rw [hbits, ← hmagnitude]
    exact Nat.zero_add _
  · rename_i hbits
    obtain ⟨k, hk⟩ : ∃ k, x.exponentBits = k + 1 := ⟨x.exponentBits - 1, by omega⟩
    have hscale : (((max x.exponentBits 1 : Nat) : Int) - 1075 + 1074).toNat = k := by omega
    rw [hscale, ← Nat.add_assoc, ← Nat.succ_mul]
    rw [hk] at hmagnitude
    exact hmagnitude.symm

/-- A full significand has 53 bits, and a shorter one stands at the least scale. -/
theorem scale_eq_max (hpos : 0 < x.significand) :
    max ((x.significand.log2 : Int) + x.scale - 52) (-1074) = x.scale := by
  have hmod : x.magnitude % 2 ^ 52 < 2 ^ 52 := Nat.mod_lt _ (by norm_num)
  unfold scale significand at *
  split
  · rename_i hbits
    rw [if_pos hbits] at hpos
    have hshort : (x.magnitude % 2 ^ 52).log2 < 52 := (Nat.log2_lt hpos.ne').2 hmod
    change max (((x.magnitude % 2 ^ 52).log2 : Int) + _ - 52) (-1074) = _
    rw [hbits]
    omega
  · rename_i hbits
    have hfull : (2 ^ 52 + x.magnitude % 2 ^ 52).log2 = 52 := by
      rw [Nat.log2_eq_iff (by omega)]
      omega
    change max (((2 ^ 52 + x.magnitude % 2 ^ 52).log2 : Int) + _ - 52) (-1074) = _
    rw [hfull]
    omega

theorem absValue_eq (x : Number) : x.absValue = x.significand * 2 ^ x.scale := by
  rw [absValue, ratio, zpow_eq_div 2 two_ne_zero]
  push_cast [Nat.shiftLeft_eq]
  ring

/-- **A finite number is what its own value rounds to.** -/
theorem roundedMagnitude_ratio (hfinite : x.isFinite = true) :
    roundedMagnitude x.ratio.1 x.ratio.2 = x.magnitude := by
  have hlt : x.magnitude < infinityMagnitude := of_decide_eq_true hfinite
  have hn : x.ratio.1 = x.significand * 2 ^ x.scale.toNat := Nat.shiftLeft_eq _ _
  have hd : x.ratio.2 = 2 ^ (-x.scale).toNat := (Nat.shiftLeft_eq _ _).trans (Nat.one_mul _)
  have htotal := x.magnitude_of_significand
  rcases Nat.eq_zero_or_pos x.significand with hzero | hpos
  · -- without a significand the scale is the least one
    have hscale : x.scale = -1074 := by
      unfold significand at hzero
      split at hzero
      · rename_i hbits
        rw [scale, hbits]
        rfl
      · exact absurd hzero (by positivity)
    rw [hscale, hzero] at htotal
    rw [roundedMagnitude, hn, hzero, Nat.zero_mul, if_pos rfl, ← htotal]
    rfl
  · have hexponent : binaryExponent x.ratio.1 x.ratio.2 = x.significand.log2 + x.scale := by
      have hvalue : (0 : ℚ) < x.significand * 2 ^ x.scale := by
        have : (0 : ℚ) < x.significand := by exact_mod_cast hpos
        positivity
      rw [binaryExponent_eq_log (hn ▸ by positivity) x.ratio_snd_pos]
      change Int.log 2 x.absValue = _
      rw [absValue_eq]
      refine (eq_log_of_le_of_lt hvalue ?_ ?_).symm
      · rw [zpow_add₀ two_ne_zero]
        have := zpow_log2_le_natCast hpos
        gcongr
      · rw [add_right_comm, zpow_add₀ two_ne_zero]
        have := natCast_lt_zpow_log2 x.significand
        gcongr
    have hround : roundDiv (x.ratio.1 <<< (-x.scale).toNat) (x.ratio.2 <<< x.scale.toNat) =
        x.significand := by
      rw [hn, hd, Nat.shiftLeft_eq, Nat.shiftLeft_eq,
        Nat.mul_assoc, ← Nat.one_mul (2 ^ (-x.scale).toNat * _),
        Nat.mul_comm (2 ^ (-x.scale).toNat), roundDiv_mul (by positivity), roundDiv_one]
    unfold roundedMagnitude
    rw [if_neg (hn ▸ by positivity), hexponent]
    dsimp only
    rw [scale_eq_max hpos, hround, htotal, Nat.min_eq_right hlt.le]

/-- What has the value of a finite number rounds to the number. -/
theorem ofRatio_of_absValue (hfinite : x.isFinite = true) (hd : 0 < d)
    (h : (n : ℚ) / d = x.absValue) :
    ofRatio x.negative n d = x := by
  rw [ofRatio_congr hd x.ratio_snd_pos h, ext_iff]
  exact ⟨rfl, roundedMagnitude_ratio hfinite⟩

/-! ## Decimals -/

/-- The value of a decimal. -/
def Decimal.value (c : Decimal) : ℚ := c.digits * 10 ^ c.exponent

theorem two_pow_le_ten_pow {k : Nat} (hk : 310 < k) : 2 ^ 1024 ≤ 10 ^ k := by
  have hstep : ∀ m : Nat, 2 ^ (93 * m + 1) ≤ 10 ^ (28 * m + 1) := by
    intro m
    rw [Nat.pow_succ, Nat.pow_succ, Nat.pow_mul, Nat.pow_mul]
    exact Nat.mul_le_mul (Nat.pow_le_pow_left (by norm_num) m) (by norm_num)
  obtain ⟨m, hm⟩ : ∃ m, 1024 = 93 * m + 1 := ⟨11, rfl⟩
  rw [hm]
  exact (hstep m).trans (Nat.pow_le_pow_right (by norm_num) (by omega))

/-- **A decimal denotes the number nearest to it**, whether it is read by a shortcut or not. -/
theorem ofDecimal_eq_ofRatio (negative : Bool) (digits : Nat) (exponent : Int) :
    ofDecimal negative digits exponent =
      ofRatio negative (digits * 10 ^ exponent.toNat) (10 ^ (-exponent).toNat) := by
  unfold ofDecimal
  split
  · rename_i hzero
    rw [hzero, Nat.zero_mul, ofRatio]
    congr 1
  · rename_i hdigits
    split
    · rename_i hlarge
      have hvalue : 2 ^ 1024 * 10 ^ (-exponent).toNat ≤ digits * 10 ^ exponent.toNat := by
        have hneg : (-exponent).toNat = 0 := by omega
        rw [hneg, Nat.pow_zero, Nat.mul_one]
        calc 2 ^ 1024 ≤ 10 ^ exponent.toNat := two_pow_le_ten_pow (by omega)
          _ ≤ digits * 10 ^ exponent.toNat := Nat.le_mul_of_pos_left _ (by omega)
      rw [ext_iff]
      exact ⟨rfl, (roundedMagnitude_of_large (by positivity) hvalue).symm⟩
    · split
      · rename_i hsmall
        have hvalue : digits * 10 ^ exponent.toNat * 2 ^ (1074 + 1) < 10 ^ (-exponent).toNat := by
          have hpos : exponent.toNat = 0 := by omega
          have hdigits : digits < 2 ^ (digits.log2 + 1) := Nat.lt_log2_self
          generalize hk : (1074 : Nat) = k
          rw [hpos, Nat.pow_zero, Nat.mul_one]
          calc digits * 2 ^ (k + 1) < 2 ^ (digits.log2 + 1) * 2 ^ (k + 1) := by gcongr
            _ = 2 ^ (digits.log2 + 1 + (k + 1)) := (Nat.pow_add _ _ _).symm
            _ ≤ 2 ^ (3 * (-exponent).toNat) := Nat.pow_le_pow_right (by norm_num) (by omega)
            _ = 8 ^ (-exponent).toNat := by rw [Nat.pow_mul]
            _ ≤ 10 ^ (-exponent).toNat := Nat.pow_le_pow_left (by norm_num) _
        rw [ext_iff]
        exact ⟨rfl, (roundedMagnitude_of_small hvalue).symm⟩
      · rfl

theorem Decimal.value_eq_div (digits : Nat) (exponent : Int) :
    (⟨digits, exponent⟩ : Decimal).value =
      ((digits * 10 ^ exponent.toNat : Nat) : ℚ) / ((10 ^ (-exponent).toNat : Nat) : ℚ) := by
  rw [Decimal.value, zpow_eq_div 10 (by norm_num)]
  push_cast
  ring

theorem ofDecimal_congr {digits digits' : Nat} {exponent exponent' : Int}
    (h : (⟨digits, exponent⟩ : Decimal).value = (⟨digits', exponent'⟩ : Decimal).value) :
    ofDecimal negative digits exponent = ofDecimal negative digits' exponent' := by
  rw [Decimal.value_eq_div, Decimal.value_eq_div] at h
  rw [ofDecimal_eq_ofRatio, ofDecimal_eq_ofRatio]
  exact ofRatio_congr (by positivity) (by positivity) h

/-! ## Shortest digits -/

/-- Zeros at the end of the digits do not count. -/
theorem Decimal.value_normalize (c : Decimal) : c.normalize.value = c.value := by
  induction c using Decimal.normalize.induct with
  | case1 c hzero =>
    rw [normalize, if_pos hzero, value, value, hzero]
    simp
  | case2 c hdigits htens ih =>
    rw [normalize, if_neg hdigits, if_pos htens, ih, value, value]
    have hten : c.digits = c.digits / 10 * 10 := by omega
    have hcast : (c.digits : ℚ) = ((c.digits / 10 : Nat) : ℚ) * 10 := by exact_mod_cast hten
    rw [hcast, zpow_add₀ (by norm_num)]
    ring
  | case3 c hdigits hunits => rw [normalize, if_neg hdigits, if_neg hunits]

/-- A zero without zeros at its end has no exponent. -/
theorem Decimal.exponent_of_digits_normalize {c : Decimal} (h : c.normalize.digits = 0) :
    c.normalize.exponent = 0 := by
  induction c using Decimal.normalize.induct with
  | case1 c hzero => rw [normalize, if_pos hzero]
  | case2 c hdigits htens ih =>
    rw [normalize, if_neg hdigits, if_pos htens] at h ⊢
    exact ih h
  | case3 c hdigits hunits =>
    rw [normalize, if_neg hdigits, if_neg hunits] at h
    exact absurd h hdigits

theorem exponent_of_digits_shortest (h : x.shortest.digits = 0) : x.shortest.exponent = 0 := by
  unfold shortest at h ⊢
  split
  · rfl
  · rename_i hzero
    rw [if_neg hzero] at h
    exact Decimal.exponent_of_digits_normalize h

/-- Every digit of a finite number is its value. -/
theorem value_exactDecimal (x : Number) : x.exactDecimal.value = x.absValue := by
  rw [absValue_eq, exactDecimal]
  split
  · rename_i hscale
    obtain ⟨k, hk⟩ : ∃ k : Nat, x.scale = -(k : Int) := ⟨(-x.scale).toNat, by omega⟩
    have htoNat : (-x.scale).toNat = k := by omega
    rw [Decimal.value, htoNat, hk, zpow_neg, zpow_neg, zpow_natCast, zpow_natCast]
    have hten : (10 : ℚ) ^ k = 2 ^ k * 5 ^ k := by
      rw [← mul_pow]
      norm_num
    push_cast [Nat.pow_eq]
    rw [hten]
    field_simp
  · rename_i hscale
    obtain ⟨k, hk⟩ : ∃ k : Nat, x.scale = (k : Int) := ⟨x.scale.toNat, by omega⟩
    rw [Decimal.value, hk, Int.toNat_natCast, zpow_natCast, zpow_zero, mul_one, Nat.shiftLeft_eq]
    push_cast
    rfl

theorem readsBack_of_nearestDecimal {exponent : Int} {c : Decimal}
    (h : x.nearestDecimal exponent = some c) :
    x.readsBack c.digits c.exponent = true := by
  unfold nearestDecimal at h
  dsimp only at h
  split at h
  · cases h
  · rename_i hlower hupper
    cases h
    exact hlower
  · rename_i hlower hupper
    cases h
    exact hupper
  · rename_i hlower hupper
    cases h
    -- the nearer one is one of the two
    dsimp only
    rcases roundDiv_eq_or (x.ratio.1 * Nat.pow 10 (-exponent).toNat)
      (x.ratio.2 * Nat.pow 10 exponent.toNat)
      with hround | hround
    · rw [hround]
      exact hlower
    · rw [hround]
      exact hupper

/-- **The shortest digits of a finite number denote the number.** -/
theorem ofDecimal_shortest (hfinite : x.isFinite = true) :
    ofDecimal x.negative x.shortest.digits x.shortest.exponent = x := by
  unfold shortest
  split
  · rename_i hzero
    have hmagnitude : x.magnitude = 0 := by simpa [isZero] using hzero
    rw [ofDecimal, if_pos rfl, ext_iff]
    exact ⟨rfl, hmagnitude.symm⟩
  · dsimp only
    generalize hfound : (List.range 17).findSome? _ = found
    have hreads : ofDecimal x.negative (found.getD x.exactDecimal).digits
        (found.getD x.exactDecimal).exponent = x := by
      cases found with
      | none =>
        rw [Option.getD_none, ofDecimal_eq_ofRatio]
        refine ofRatio_of_absValue hfinite (by positivity) ?_
        rw [← Decimal.value_eq_div]
        exact x.value_exactDecimal
      | some c =>
        obtain ⟨i, -, hi⟩ := List.exists_of_findSome?_eq_some hfound
        have hback := readsBack_of_nearestDecimal hi
        rw [readsBack, beq_iff_eq] at hback
        exact hback
    rw [← ofDecimal_congr (Decimal.value_normalize (found.getD x.exactDecimal)).symm]
    exact hreads

end Number

end DataStep
