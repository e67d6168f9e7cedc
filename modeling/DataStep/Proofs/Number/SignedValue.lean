import DataStep.Proofs.Number.Whole

/-!
# Signed values

The value of a finite number with its sign (`toRat`). Rounding a finite number down gives a finite
number whose whole part is the greatest integer that is no greater than the value (`floor_spec`):
below `2 ^ 53` all integers are exact, and beyond every number is an integer already. The conversion
to an integer gives the whole part of the value (`toInt_eq_wholePart`).
-/

set_option autoImplicit false

namespace DataStep.Number

variable {x : Number} {n : Nat} {i : Int}

/-- The value of a finite number, with its sign. -/
def toRat (x : Number) : ℚ := if x.negative then -x.absValue else x.absValue

theorem toRat_of_absValue (h : x.absValue = n) :
    x.toRat = ((if x.negative then -(n : Int) else n : Int) : ℚ) := by
  rw [toRat, h]
  split
  · push_cast
    rfl
  · rfl

/-- The whole part of a number with a whole absolute value is its value. -/
theorem toInt_eq_floor (hfinite : x.isFinite = true) (h : x.absValue = n) :
    x.toInt = ⌊x.toRat⌋ := by
  rw [toInt_of_absValue hfinite h, toRat_of_absValue h, Int.floor_intCast]

/-- The absolute value to which a value is rounded down: a negative one goes up. -/
def floorMagnitude (x : Number) : Nat :=
  if x.negative then (x.ratio.1 + x.ratio.2 - 1) / x.ratio.2 else x.ratio.1 / x.ratio.2

theorem floor_toRat (x : Number) :
    ⌊x.toRat⌋ = if x.negative then -(x.floorMagnitude : Int) else x.floorMagnitude := by
  have hpos := x.ratio_snd_pos
  have hposq : (0 : ℚ) < x.ratio.2 := by exact_mod_cast hpos
  rw [toRat, absValue, floorMagnitude]
  generalize x.ratio.1 = n at *
  generalize x.ratio.2 = d at *
  split
  · -- the least whole number that reaches the quotient
    have hround := Nat.div_add_mod (n + d - 1) d
    have hlt := Nat.mod_lt (n + d - 1) hpos
    generalize (n + d - 1) / d = m at *
    have hreached : n ≤ m * d := by rw [Nat.mul_comm]; omega
    have hmissed : m * d < n + d := by rw [Nat.mul_comm]; omega
    have hreachedq : (n : ℚ) ≤ m * d := by exact_mod_cast hreached
    have hmissedq : (m : ℚ) * d < n + d := by exact_mod_cast hmissed
    rw [Int.floor_eq_iff]
    push_cast
    constructor
    · rw [neg_le_neg_iff, div_le_iff₀ hposq]
      exact hreachedq
    · rw [neg_lt, neg_add, neg_neg, lt_div_iff₀ hposq]
      linarith
  · exact Rat.floor_natCast_div_natCast n d

/-- The whole part of a number: its value without the fraction, so rounded towards zero. -/
def wholePart (x : Number) : Int := if x.toRat < 0 then ⌈x.toRat⌉ else ⌊x.toRat⌋

/-- **A finite number is converted to an integer by its whole part.** -/
theorem toInt_eq_wholePart (hfinite : x.isFinite = true) : x.toInt = x.wholePart := by
  have hwhole : ⌊x.absValue⌋ = (x.ratio.1 / x.ratio.2 : Nat) := Rat.floor_natCast_div_natCast _ _
  have hnonneg : 0 ≤ x.absValue := by
    rw [absValue]
    positivity
  rw [toInt, if_pos hfinite]
  dsimp only
  rw [← hwhole, wholePart, toRat]
  cases x.negative with
  | false => simp [hnonneg.not_gt]
  | true =>
    rcases hnonneg.eq_or_lt with hzero | hpos
    · simp [← hzero]
    · simp [hpos, Int.ceil_neg]

theorem significand_lt (x : Number) : x.significand < 2 ^ 53 := by
  have hlt : x.magnitude % fractions < 2 ^ 52 := Nat.mod_lt _ (by norm_num)
  rw [significand]
  split
  · omega
  · change 2 ^ 52 + x.magnitude % fractions < 2 ^ 53
    omega

/-- With a scale below zero the whole numbers around the value are exact. -/
theorem floorMagnitude_lt (hscale : x.scale < 0) : x.floorMagnitude < 2 ^ 53 := by
  have hnum : x.ratio.1 = x.significand := by
    have hzero : x.scale.toNat = 0 := by omega
    rw [ratio, hzero, Nat.shiftLeft_zero]
  have hden : 2 ≤ x.ratio.2 := by
    obtain ⟨k, hk⟩ : ∃ k, (-x.scale).toNat = k + 1 := ⟨(-x.scale).toNat - 1, by omega⟩
    have hpos : 0 < 2 ^ k := by positivity
    rw [ratio, hk]
    change 2 ≤ 1 <<< (k + 1)
    rw [Nat.shiftLeft_eq, Nat.pow_succ]
    omega
  have hlt := x.significand_lt
  have hhalf : (x.ratio.1 + x.ratio.2 - 1) / x.ratio.2 < 2 ^ 53 := by
    rw [Nat.div_lt_iff_lt_mul x.ratio_snd_pos, hnum]
    omega
  rw [floorMagnitude]
  split
  · exact hhalf
  · exact Nat.lt_of_le_of_lt (Nat.div_le_div_right (by omega)) hhalf

/-- **Rounding a finite number down gives the greatest integer that is no
greater than its value.** -/
theorem floor_spec (hfinite : x.isFinite = true) :
    x.floor.isFinite = true ∧ x.floor.toInt = ⌊x.toRat⌋ := by
  rcases Int.lt_or_le x.scale 0 with hscale | hscale
  · have hlt := floorMagnitude_lt hscale
    have hround : x.floor = whole x.negative x.floorMagnitude := by
      rw [floor, roundBy, if_pos hfinite, floorMagnitude]
    have hfloor : x.floor.isFinite = true := hround ▸ isFinite_whole (by norm_num) hlt
    have hvalue : x.floor.absValue = x.floorMagnitude := hround ▸ absValue_whole hlt
    have hnegative : x.floor.negative = x.negative := hround ▸ rfl
    exact ⟨hfloor, by rw [toInt_of_absValue hfloor hvalue, hnegative, floor_toRat]⟩
  · -- a number of this size is whole
    obtain ⟨k, hk⟩ := Int.eq_ofNat_of_zero_le hscale
    have hvalue : x.absValue = ((x.significand * 2 ^ k : Nat) : ℚ) := by
      rw [absValue_eq, hk]
      push_cast
      rfl
    have hsame : x.floor = x := by
      rw [floor_of_absValue hfinite hvalue, whole]
      exact ofRatio_of_absValue hfinite Nat.one_pos (by rw [hvalue, Nat.cast_one, div_one])
    rw [hsame]
    exact ⟨hfinite, toInt_eq_floor hfinite hvalue⟩

/-- What is not finite is not rounded. -/
theorem floor_of_not_isFinite (h : x.isFinite = false) : x.floor = x := by
  rw [floor, roundBy, if_neg (by simp [h])]

/-- A number is rounded down to a finite one only if it is finite. -/
theorem isFinite_floor (x : Number) : x.floor.isFinite = x.isFinite := by
  cases h : x.isFinite with
  | true => exact (floor_spec h).1
  | false => rw [floor_of_not_isFinite h, h]

/-- A number that counts as an integer of up to 53 bits has it for its value. -/
theorem Counts.toRat_eq (h : x.Counts i) (hi : i.natAbs < 2 ^ 53) : x.toRat = i := by
  obtain ⟨hfinite, hvalue, -⟩ := h.value hi
  rw [toRat_of_absValue hvalue, ← toInt_of_absValue hfinite hvalue, h.toInt_eq hi]

end DataStep.Number
