import DataStep.Proofs.Number.SignedValue

/-!
# Sums and the order of numbers

Rounding keeps the order of values (`roundedMagnitude_le_of_le`, `orderKey_ofRat_le`), and a sum of
finite numbers is what the sum of their values rounds to (`add_eq_ofRat`). So adding a positive
number never goes down and adding a negative one never goes up (`orderKey_le_add`,
`orderKey_add_le`), whatever is lost in rounding.
-/

set_option autoImplicit false

namespace DataStep

/-! ## Rounding keeps the order -/

namespace Rational

variable {n d n' d' : Nat}

/-- A greater quotient is not rounded to a smaller whole number. -/
theorem roundDiv_le_of_le (hd : 0 < d) (hd' : 0 < d') (h : n * d' ≤ n' * d) :
    roundDiv n d ≤ roundDiv n' d' := by
  rcases h.eq_or_lt with heq | hlt
  · rw [← roundDiv_mul hd', heq, Nat.mul_comm d d', roundDiv_mul hd]
  · by_contra hgreater
    obtain ⟨hbelow, -⟩ := roundDiv_near n d hd
    obtain ⟨-, habove⟩ := roundDiv_near n' d' hd'
    generalize roundDiv n d = r at *
    generalize roundDiv n' d' = r' at *
    -- the middle between the two whole numbers separates the quotients the other way round
    have hmiddle : (2 * r' + 1) * d ≤ 2 * n := by
      have : (r' + 1) * d ≤ r * d := Nat.mul_le_mul_right d (by omega)
      linarith
    have hmiddle' : 2 * n' ≤ (2 * r' + 1) * d' := by linarith
    have hcross : (2 * r' + 1) * d * d' < (2 * r' + 1) * d' * d := by
      calc (2 * r' + 1) * d * d' ≤ 2 * n * d' := Nat.mul_le_mul_right d' hmiddle
        _ < 2 * n' * d := by linarith
        _ ≤ (2 * r' + 1) * d' * d := Nat.mul_le_mul_right d hmiddle'
    exact absurd hcross (by rw [Nat.mul_right_comm]; exact Nat.lt_irrefl _)

/-- A fraction divided by a power of two. -/
theorem shift_div_shift (n d : Nat) (s : Int) :
    ((n <<< (-s).toNat : Nat) : ℚ) / ((d <<< s.toNat : Nat) : ℚ) = n / d / 2 ^ s := by
  rw [zpow_eq_div 2 two_ne_zero]
  push_cast [Nat.shiftLeft_eq]
  field_simp

end Rational

namespace Number

open Rational

variable {n d n' d' : Nat} {x y : Number} {p q : ℚ}

/-- The power of two by which a fraction is divided when it is rounded. -/
def roundingScale (n d : Nat) : Int := max (binaryExponent n d - 52) (-1074)

/-- The significand to which a fraction is rounded. -/
def roundedSignificand (n d : Nat) : Nat :=
  roundDiv (n <<< (-roundingScale n d).toNat) (d <<< (roundingScale n d).toNat)

theorem roundedMagnitude_eq (hn : 0 < n) :
    roundedMagnitude n d =
      min infinityMagnitude
        ((roundingScale n d + 1074).toNat * fractions + roundedSignificand n d) := by
  rw [roundedMagnitude, if_neg hn.ne']
  rfl

theorem shiftLeft_pos (hd : 0 < d) (k : Nat) : 0 < d <<< k := by
  rw [Nat.shiftLeft_eq]
  positivity

/-- The rounded significand has no more than 53 bits, but for the one that is carried. -/
theorem roundedSignificand_le (hn : 0 < n) (hd : 0 < d) : roundedSignificand n d ≤ 2 ^ 53 := by
  have hdq : (0 : ℚ) < d := by exact_mod_cast hd
  have hq : (0 : ℚ) < n / d := div_pos (by exact_mod_cast hn) hdq
  have hlog : (n : ℚ) / d < 2 ^ (53 + roundingScale n d) := by
    refine (Int.lt_zpow_iff_log_lt (by norm_num) hq).2 ?_
    rw [← binaryExponent_eq_log hn hd, roundingScale]
    omega
  have hbound : (n <<< (-roundingScale n d).toNat : Nat) ≤
      2 ^ 53 * (d <<< (roundingScale n d).toNat) := by
    have hshifted : ((n <<< (-roundingScale n d).toNat : Nat) : ℚ) /
        ((d <<< (roundingScale n d).toNat : Nat) : ℚ) ≤ 2 ^ 53 := by
      rw [shift_div_shift, div_le_iff₀ (by positivity)]
      refine hlog.le.trans_eq ?_
      rw [zpow_add₀ two_ne_zero]
      norm_num
    rw [div_le_iff₀ (by exact_mod_cast shiftLeft_pos hd _)] at hshifted
    exact_mod_cast hshifted
  calc roundedSignificand n d ≤ roundDiv (2 ^ 53) 1 :=
        roundDiv_le_of_le (shiftLeft_pos hd _) Nat.one_pos (by rwa [Nat.mul_one])
    _ = 2 ^ 53 := roundDiv_one _

/-- Above the least scale the rounded significand has all of its 53 bits. -/
theorem le_roundedSignificand (hn : 0 < n) (hd : 0 < d) (hscale : -1074 < roundingScale n d) :
    2 ^ 52 ≤ roundedSignificand n d := by
  have hdq : (0 : ℚ) < d := by exact_mod_cast hd
  have hq : (0 : ℚ) < n / d := div_pos (by exact_mod_cast hn) hdq
  have hexponent : roundingScale n d + 52 = binaryExponent n d := by
    rw [roundingScale] at hscale ⊢
    omega
  have hlog : (2 : ℚ) ^ (roundingScale n d + 52) ≤ n / d := by
    rw [hexponent, binaryExponent_eq_log hn hd]
    exact_mod_cast Int.zpow_log_le_self (by norm_num) hq
  have hbound : 2 ^ 52 * (d <<< (roundingScale n d).toNat) ≤
      (n <<< (-roundingScale n d).toNat : Nat) := by
    have hshifted : (2 : ℚ) ^ 52 ≤
        ((n <<< (-roundingScale n d).toNat : Nat) : ℚ) /
          ((d <<< (roundingScale n d).toNat : Nat) : ℚ) := by
      rw [shift_div_shift, le_div_iff₀ (by positivity)]
      refine Eq.trans_le ?_ hlog
      rw [zpow_add₀ two_ne_zero, mul_comm]
      norm_num
    rw [le_div_iff₀ (by exact_mod_cast shiftLeft_pos hd _)] at hshifted
    exact_mod_cast hshifted
  calc 2 ^ 52 = roundDiv (2 ^ 52) 1 := (roundDiv_one _).symm
    _ ≤ roundedSignificand n d :=
        roundDiv_le_of_le Nat.one_pos (shiftLeft_pos hd _) (by rwa [Nat.mul_one])

/-- **Rounding keeps the order of fractions.** -/
theorem roundedMagnitude_le_of_le (hd : 0 < d) (hd' : 0 < d') (h : (n : ℚ) / d ≤ n' / d') :
    roundedMagnitude n d ≤ roundedMagnitude n' d' := by
  rcases Nat.eq_zero_or_pos n with rfl | hn
  · rw [roundedMagnitude, if_pos rfl]
    exact Nat.zero_le _
  · have hdq : (0 : ℚ) < d := by exact_mod_cast hd
    have hdq' : (0 : ℚ) < d' := by exact_mod_cast hd'
    have hq : (0 : ℚ) < n / d := div_pos (by exact_mod_cast hn) hdq
    have hn' : 0 < n' := by
      rcases Nat.eq_zero_or_pos n' with rfl | hn'
      · rw [Nat.cast_zero, zero_div] at h
        exact absurd hq (not_lt.2 h)
      · exact hn'
    -- the scales come in the order of the fractions, since the logarithm does
    have hexponents : binaryExponent n d ≤ binaryExponent n' d' := by
      rw [binaryExponent_eq_log hn hd, binaryExponent_eq_log hn' hd']
      exact Int.log_mono_right hq h
    have hscales : roundingScale n d ≤ roundingScale n' d' := by
      rw [roundingScale, roundingScale]
      omega
    rw [roundedMagnitude_eq hn, roundedMagnitude_eq hn']
    refine min_le_min_left _ ?_
    rcases hscales.eq_or_lt with hsame | hless
    · -- on one scale the order is that of the significands
      have hsignificands : roundedSignificand n d ≤ roundedSignificand n' d' := by
        rw [roundedSignificand, roundedSignificand, ← hsame]
        refine roundDiv_le_of_le (shiftLeft_pos hd _) (shiftLeft_pos hd' _) ?_
        have hpos : ∀ {k : Nat}, 0 < k → (0 : ℚ) < ((k <<< (roundingScale n d).toNat : Nat) : ℚ) :=
          fun hk => by exact_mod_cast shiftLeft_pos hk _
        have hshifted :=
          div_le_div_of_nonneg_right h (by positivity : (0 : ℚ) ≤ 2 ^ roundingScale n d)
        rw [← shift_div_shift, ← shift_div_shift, div_le_div_iff₀ (hpos hd) (hpos hd')] at hshifted
        exact_mod_cast hshifted
      rw [hsame]
      omega
    · -- a greater scale makes up for a carried significand
      have hupper := roundedSignificand_le hn hd
      have hleast : -1074 ≤ roundingScale n d := le_max_right _ _
      have hlower := le_roundedSignificand hn' hd' (hleast.trans_lt hless)
      have hsteps : (roundingScale n d + 1074).toNat + 1 ≤ (roundingScale n' d' + 1074).toNat := by
        omega
      calc (roundingScale n d + 1074).toNat * fractions + roundedSignificand n d
          ≤ ((roundingScale n d + 1074).toNat + 1) * fractions + 2 ^ 52 := by
            rw [Nat.add_mul]
            change _ ≤ _ + 1 * 2 ^ 52 + 2 ^ 52
            omega
        _ ≤ (roundingScale n' d' + 1074).toNat * fractions + roundedSignificand n' d' := by gcongr

/-! ## Values -/

theorem absValue_nonneg (x : Number) : 0 ≤ x.absValue := by
  rw [absValue]
  positivity

/-- Only a zero has the value zero. -/
theorem absValue_eq_zero_iff (hfinite : x.isFinite = true) : x.absValue = 0 ↔ x.magnitude = 0 := by
  refine ⟨fun h => ?_, absValue_of_magnitude⟩
  have hnum : x.ratio.1 = 0 := by
    rw [← Nat.cast_zero] at h
    rw [ratio_of_absValue h, Nat.zero_mul]
  rw [← roundedMagnitude_ratio hfinite, hnum, roundedMagnitude, if_pos rfl]

theorem abs_toRat (x : Number) : |x.toRat| = x.absValue := by
  rw [toRat]
  split
  · rw [abs_neg, abs_of_nonneg x.absValue_nonneg]
  · rw [abs_of_nonneg x.absValue_nonneg]

theorem toRat_eq_zero_iff (hfinite : x.isFinite = true) : x.toRat = 0 ↔ x.magnitude = 0 := by
  rw [← absValue_eq_zero_iff hfinite, ← abs_toRat, abs_eq_zero]

/-- A number has the sign of its value, unless it is a zero. -/
theorem negative_eq (hne : x.toRat ≠ 0) : x.negative = decide (x.toRat < 0) := by
  have hnonneg := x.absValue_nonneg
  cases hnegative : x.negative with
  | true =>
    have hvalue : x.toRat = -x.absValue := by rw [toRat, if_pos hnegative]
    rw [eq_comm, decide_eq_true_eq, hvalue]
    rw [hvalue] at hne
    exact lt_of_le_of_ne (neg_nonpos.2 hnonneg) hne
  | false =>
    have hvalue : x.toRat = x.absValue := by rw [toRat, if_neg (by simp [hnegative])]
    rw [eq_comm, decide_eq_false_iff_not, hvalue, not_lt]
    exact hnonneg

theorem negative_of_toRat_neg (h : x.toRat < 0) : x.negative = true := by
  rw [negative_eq h.ne]
  exact decide_eq_true h

theorem negative_of_toRat_pos (h : 0 < x.toRat) : x.negative = false := by
  rw [negative_eq h.ne']
  exact decide_eq_false h.not_gt

/-- The number nearest to a value. Below zero it is negative even if it is a zero. -/
def ofRat (q : ℚ) : Number := ofRatio (decide (q < 0)) q.num.natAbs q.den

theorem natAbs_num_div_den (q : ℚ) : ((q.num.natAbs : Nat) : ℚ) / q.den = |q| := by
  conv_rhs => rw [← Rat.num_div_den q, abs_div, Nat.abs_cast]
  rw [Nat.cast_natAbs, Int.cast_abs]

theorem ofRatio_eq_ofRat (hd : 0 < d) (h : (n : ℚ) / d = |q|) :
    ofRatio (decide (q < 0)) n d = ofRat q :=
  ofRatio_congr hd q.den_pos (h.trans (natAbs_num_div_den q).symm)

/-- **A finite number other than zero is the nearest one to its value.** -/
theorem ofRat_toRat (hfinite : x.isFinite = true) (hne : x.toRat ≠ 0) : ofRat x.toRat = x := by
  rw [← ofRatio_eq_ofRat x.ratio_snd_pos x.abs_toRat.symm, ← negative_eq hne]
  exact ofRatio_of_absValue hfinite x.ratio_snd_pos rfl

theorem orderKey_ofRat_nonneg (hq : 0 ≤ q) : 0 ≤ (ofRat q).orderKey := by
  have hnegative : (ofRat q).negative = false := decide_eq_false (not_lt.2 hq)
  rw [orderKey, hnegative, if_neg Bool.false_ne_true]
  exact Int.natCast_nonneg _

theorem orderKey_ofRat_neg (hq : q < 0) : (ofRat q).orderKey < 0 := by
  have hnegative : (ofRat q).negative = true := decide_eq_true hq
  rw [orderKey, hnegative, if_pos rfl]
  omega

/-- **The order of values is the order of the numbers nearest to them.** -/
theorem orderKey_ofRat_le (h : p ≤ q) : (ofRat p).orderKey ≤ (ofRat q).orderKey := by
  have hmagnitude : ∀ {p q : ℚ}, |p| ≤ |q| → (ofRat p).magnitude ≤ (ofRat q).magnitude := by
    intro p q h
    refine roundedMagnitude_le_of_le p.den_pos q.den_pos ?_
    rwa [natAbs_num_div_den, natAbs_num_div_den]
  rcases lt_or_ge q 0 with hq | hq
  · -- both are below zero, where a greater magnitude is a smaller number
    have hp : p < 0 := h.trans_lt hq
    have hle := hmagnitude (abs_le_abs_of_nonpos hq.le h)
    have hp' : (ofRat p).negative = true := decide_eq_true hp
    have hq' : (ofRat q).negative = true := decide_eq_true hq
    rw [orderKey, orderKey, hp', hq', if_pos rfl, if_pos rfl]
    omega
  · rcases lt_or_ge p 0 with hp | hp
    · exact (orderKey_ofRat_neg hp).le.trans (orderKey_ofRat_nonneg hq)
    · have hle := hmagnitude (abs_le_abs_of_nonneg hp h)
      have hp' : (ofRat p).negative = false := decide_eq_false (not_lt.2 hp)
      have hq' : (ofRat q).negative = false := decide_eq_false (not_lt.2 hq)
      rw [orderKey, orderKey, hp', hq', if_neg Bool.false_ne_true, if_neg Bool.false_ne_true]
      omega

/-! ## Sums -/

/-- The signed multiple of a power of two has the value of the number. -/
theorem units_mul_zpow {s : Int} (h : s ≤ x.scale) : (x.units s : ℚ) * 2 ^ s = x.toRat := by
  have hvalue : ((x.significand <<< (x.scale - s).toNat : Nat) : ℚ) * 2 ^ s = x.absValue := by
    obtain ⟨k, hk⟩ := Int.le.dest h
    have hshift : (x.scale - s).toNat = k := by omega
    rw [absValue_eq, hshift, ← hk, zpow_add₀ two_ne_zero, zpow_natCast]
    push_cast [Nat.shiftLeft_eq]
    ring
  rw [units, toRat, ← hvalue]
  generalize x.significand <<< (x.scale - s).toNat = n
  split
  · push_cast
    ring
  · rfl

/-- The sum of finite numbers, by the sum of their multiples of one power of two. -/
theorem add_eq (hx : x.isFinite = true) (hy : y.isFinite = true) : ∃ (total s : Int),
    (total : ℚ) * 2 ^ s = x.toRat + y.toRat ∧
      x.add y = if total = 0 then zero (x.negative && y.negative)
        else ofDyadic (decide (total < 0)) total.natAbs s := by
  refine ⟨x.units (min x.scale y.scale) + y.units (min x.scale y.scale),
    min x.scale y.scale, ?_, ?_⟩
  · rw [Int.cast_add, add_mul, units_mul_zpow (min_le_left _ _), units_mul_zpow (min_le_right _ _)]
  · rw [add, isNaN_of_isFinite hx, isNaN_of_isFinite hy, isInfinite_of_isFinite hx,
      isInfinite_of_isFinite hy,
      Bool.or_false, if_neg Bool.false_ne_true, if_neg Bool.false_ne_true,
      if_neg Bool.false_ne_true]

/-- **A sum of finite numbers is the number nearest to the sum of their
values**, unless that is zero. -/
theorem add_eq_ofRat (hx : x.isFinite = true) (hy : y.isFinite = true)
    (hne : x.toRat + y.toRat ≠ 0) :
    x.add y = ofRat (x.toRat + y.toRat) := by
  obtain ⟨total, s, htotal, hadd⟩ := add_eq hx hy
  have hpower : (0 : ℚ) < 2 ^ s := by positivity
  rw [← htotal] at hne ⊢
  have hzero : total ≠ 0 := by
    rintro rfl
    exact hne (by rw [Int.cast_zero, zero_mul])
  have hsign : decide (total < 0) = decide ((total : ℚ) * 2 ^ s < 0) := by
    rw [decide_eq_decide, ← Int.cast_lt_zero (R := ℚ)]
    exact ⟨fun h => mul_neg_of_neg_of_pos h hpower, fun h => neg_of_mul_neg_left h hpower.le⟩
  rw [hadd, if_neg hzero, ofDyadic, hsign]
  refine ofRatio_eq_ofRat (shiftLeft_pos Nat.one_pos _) ?_
  rw [abs_mul, abs_of_pos hpower, zpow_eq_div 2 two_ne_zero s]
  push_cast [Nat.shiftLeft_eq]
  rw [one_mul, mul_div_assoc, Nat.cast_natAbs, Int.cast_abs]

theorem add_eq_zero (hx : x.isFinite = true) (hy : y.isFinite = true)
    (hzero : x.toRat + y.toRat = 0) :
    x.add y = zero (x.negative && y.negative) := by
  obtain ⟨total, s, htotal, hadd⟩ := add_eq hx hy
  rw [hzero, mul_eq_zero, Int.cast_eq_zero] at htotal
  rw [hadd, if_pos (htotal.resolve_right (by positivity))]

/-- The places of the finite numbers in the order lie between those of the infinities. -/
theorem isFinite_iff_orderKey :
    x.isFinite = true ↔ -((infinityMagnitude : Int) + 1) < x.orderKey ∧
      x.orderKey < infinityMagnitude := by
  rw [isFinite_iff, orderKey]
  split <;> omega

/-- A number below zero in value stands below zero. -/
theorem orderKey_neg_of_toRat_neg (h : x.toRat < 0) : x.orderKey < 0 := by
  rw [orderKey, if_pos (negative_of_toRat_neg h)]
  omega

theorem orderKey_nonneg_of_toRat_pos (h : 0 < x.toRat) : 0 ≤ x.orderKey := by
  rw [orderKey, if_neg (by simp [negative_of_toRat_pos h])]
  exact Int.natCast_nonneg _

/-- The two zeros stand next to each other. -/
theorem orderKey_of_toRat_zero (hfinite : x.isFinite = true) (h : x.toRat = 0) :
    -1 ≤ x.orderKey ∧ x.orderKey ≤ 0 := by
  rw [orderKey, (toRat_eq_zero_iff hfinite).1 h]
  split <;> omega

/-- **Adding a positive number does not go down.** -/
theorem orderKey_le_add (hx : x.isFinite = true) (hy : y.isFinite = true) (hpos : 0 < y.toRat) :
    x.orderKey ≤ (x.add y).orderKey := by
  rcases eq_or_ne (x.toRat + y.toRat) 0 with hsum | hsum
  · -- the terms are opposite numbers and the sum is the positive zero
    have hxneg : x.toRat < 0 := by linarith
    rw [add_eq_zero hx hy hsum, negative_of_toRat_pos hpos, Bool.and_false]
    exact (orderKey_neg_of_toRat_neg hxneg).le
  · rw [add_eq_ofRat hx hy hsum]
    rcases eq_or_ne x.toRat 0 with hzero | hne
    · rw [hzero, zero_add]
      exact (orderKey_of_toRat_zero hx hzero).2.trans (orderKey_ofRat_nonneg hpos.le)
    · calc x.orderKey = (ofRat x.toRat).orderKey := by rw [ofRat_toRat hx hne]
        _ ≤ (ofRat (x.toRat + y.toRat)).orderKey := orderKey_ofRat_le (by linarith)

/-- **Adding a negative number does not go up.** -/
theorem orderKey_add_le (hx : x.isFinite = true) (hy : y.isFinite = true) (hneg : y.toRat < 0) :
    (x.add y).orderKey ≤ x.orderKey := by
  rcases eq_or_ne (x.toRat + y.toRat) 0 with hsum | hsum
  · have hxpos : 0 < x.toRat := by linarith
    rw [add_eq_zero hx hy hsum, negative_of_toRat_pos hxpos, Bool.false_and]
    exact orderKey_nonneg_of_toRat_pos hxpos
  · rw [add_eq_ofRat hx hy hsum]
    rcases eq_or_ne x.toRat 0 with hzero | hne
    · rw [hzero, zero_add]
      have hbelow := orderKey_ofRat_neg hneg
      have hnear := orderKey_of_toRat_zero hx hzero
      omega
    · calc (ofRat (x.toRat + y.toRat)).orderKey ≤ (ofRat x.toRat).orderKey :=
        orderKey_ofRat_le (by linarith)
        _ = x.orderKey := by rw [ofRat_toRat hx hne]

/-! ## Comparisons -/

/-- A number is compared with zero by its value. -/
theorem below_zero_iff (hx : x.isFinite = true) : below (zero false) x = true ↔ 0 < x.toRat := by
  have hnan : (zero false).isNaN = false := isNaN_of_isFinite (by decide)
  rw [below, partialCompare, hnan, isNaN_of_isFinite hx, Bool.or_false, if_neg Bool.false_ne_true]
  cases hzero : x.isZero with
  | true =>
    have hvalue : x.toRat = 0 := (toRat_eq_zero_iff hx).2 (beq_iff_eq.1 hzero)
    rw [hvalue]
    exact iff_of_false Bool.false_ne_true (lt_irrefl _)
  | false =>
    have hne : x.toRat ≠ 0 := fun h => beq_eq_false_iff_ne.1 hzero ((toRat_eq_zero_iff hx).1 h)
    rw [Bool.and_false, if_neg Bool.false_ne_true, beq_iff_eq, Option.some.injEq,
      compare, compare_lt_iff_lt]
    change 0 < x.orderKey ↔ _
    have hmagnitude : x.magnitude ≠ 0 := beq_eq_false_iff_ne.1 hzero
    -- a number other than zero has the sign of its value
    rcases hne.lt_or_gt with hneg | hpos
    · exact iff_of_false (orderKey_neg_of_toRat_neg hneg).not_gt hneg.not_gt
    · rw [orderKey, if_neg (by simp [negative_of_toRat_pos hpos])]
      exact iff_of_true (by omega) hpos

/-- A number that is at most another one stands before it or on its place, but for the two zeros. -/
theorem orderKey_le_of_atMost (h : x.atMost y = true) :
    x.orderKey ≤ y.orderKey ∨ x.isZero = true ∧ y.isZero = true := by
  have hcases : x.partialCompare y = some .lt ∨ x.partialCompare y = some .eq := by
    rw [atMost, below, equals, Bool.or_eq_true, beq_iff_eq, beq_iff_eq] at h
    exact h
  rw [partialCompare] at hcases
  split at hcases
  · rcases hcases with hcase | hcase <;> cases hcase
  · split at hcases
    · rename_i hzeros
      exact .inr ((Bool.and_eq_true _ _).mp hzeros)
    · rw [Option.some.injEq, Option.some.injEq, compare, compare_lt_iff_lt,
        compare_eq_iff_eq] at hcases
      rcases hcases with hlt | heq
      · exact .inl hlt.le
      · exact .inl heq.le

end Number

end DataStep
