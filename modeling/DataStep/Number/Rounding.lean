import DataStep.Number.Basic

/-!
# Rounding

A quotient of two natural numbers is rounded to a whole number with ties to the even neighbour
(`Rational.roundDiv`). A positive fraction is rounded to the nearest number in the same way: it is
divided by the power of two that leaves a significand of 53 bits, or by the least power of two
where the numbers are spaced evenly down to zero, and the rounded significand is laid over the
exponent bits (`Number.ofRatio`). A significand that rounds up to 54 bits then carries into the
exponent, and whatever passes the greatest number is infinity.
-/

set_option autoImplicit false

namespace DataStep

namespace Rational

/-- The whole number nearest to `n / d`; a tie goes to the even neighbour. -/
def roundDiv (n d : Nat) : Nat :=
  if 2 * (n % d) < d then n / d
  else if d < 2 * (n % d) then n / d + 1
  else n / d + n / d % 2

/-- The whole number nearest to `n / d`; a tie goes up. -/
def roundHalfUp (n d : Nat) : Nat :=
  if 2 * (n % d) < d then n / d else n / d + 1

/-- The greatest `e` with `2 ^ e ≤ n / d`, for positive `n` and `d`. -/
def binaryExponent (n d : Nat) : Int :=
  -- the quotient lies between half of `2 ^ e` and twice of it
  let e : Int := (n.log2 : Int) - d.log2
  if d <<< e.toNat ≤ n <<< (-e).toNat then e else e - 1

theorem roundDiv_one (n : Nat) : roundDiv n 1 = n := by
  simp [roundDiv, Nat.mod_one]

/-- A rounded quotient lies within half a unit of the quotient. -/
theorem roundDiv_near (n d : Nat) (hd : 0 < d) :
    2 * (roundDiv n d * d) ≤ 2 * n + d ∧ 2 * n ≤ 2 * (roundDiv n d * d) + d := by
  have hdm : d * (n / d) + n % d = n := Nat.div_add_mod n d
  have hlt := Nat.mod_lt n hd
  have hpar : n / d % 2 = 0 ∨ n / d % 2 = 1 := by omega
  unfold roundDiv
  rw [Nat.mul_comm d (n / d)] at hdm
  generalize hq : n / d = q at *
  generalize hr : n % d = r at *
  have hsucc : (q + 1) * d = q * d + d := by rw [Nat.add_mul, Nat.one_mul]
  split
  · omega
  · split
    · omega
    · rcases hpar with h | h
      · rw [h, Nat.add_zero]; omega
      · rw [h]; omega

end Rational

namespace Number

/-- The magnitude of the number nearest to `n / d`. -/
def roundedMagnitude (n d : Nat) : Nat :=
  if n = 0 then 0
  else
    -- a significand of 53 bits, or fewer where the spacing no longer shrinks
    let scale : Int := max (Rational.binaryExponent n d - 52) (-1074)
    let m := Rational.roundDiv (n <<< (-scale).toNat) (d <<< scale.toNat)
    -- the leading bit of a full significand adds one to the exponent bits
    min infinityMagnitude ((scale + 1074).toNat * fractions + m)

theorem roundedMagnitude_le (n d : Nat) : roundedMagnitude n d ≤ infinityMagnitude := by
  unfold roundedMagnitude
  split
  · exact Nat.zero_le _
  · exact Nat.min_le_left _ _

/-- The number nearest to `n / d`, with the given sign; a tie goes to the even significand. -/
def ofRatio (negative : Bool) (n d : Nat) : Number :=
  ⟨negative, roundedMagnitude n d, Nat.lt_of_le_of_lt (roundedMagnitude_le n d) (by decide)⟩

/-- The number nearest to `n * 2 ^ s`, with the given sign. -/
def ofDyadic (negative : Bool) (n : Nat) (s : Int) : Number :=
  ofRatio negative (n <<< s.toNat) (1 <<< (-s).toNat)

/-- The number nearest to a natural number. -/
def ofNat (n : Nat) : Number := ofRatio false n 1

/-- The number nearest to an integer; zero is positive. -/
def ofInt (n : Int) : Number := ofRatio (decide (n < 0)) n.natAbs 1

theorem isNaN_ofRatio (negative : Bool) (n d : Nat) : (ofRatio negative n d).isNaN = false :=
  decide_eq_false (Nat.not_lt.mpr (roundedMagnitude_le n d))

end Number

end DataStep
