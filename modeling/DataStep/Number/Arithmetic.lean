import DataStep.Number.Rounding

/-!
# Arithmetic of numbers

The four operations are exact on finite numbers and then rounded once. A zero sum is negative only
if both terms are negative. Comparison leaves a not-a-number unordered and takes the two zeros
for equal. The roundings to whole numbers keep the sign, so that the whole part of `-0.5` is a
negative zero. The elementary functions are those of the machine.
-/

set_option autoImplicit false

namespace DataStep.Number

/-! ## The four operations -/

/-- A finite number as a signed multiple of `2 ^ s`, for `s` at most its own scale. -/
def units (x : Number) (s : Int) : Int :=
  let n : Nat := x.significand <<< (x.scale - s).toNat
  if x.negative then -(n : Int) else n

/-- Sum. -/
def add (x y : Number) : Number :=
  if x.isNaN || y.isNaN then nan false
  else if x.isInfinite then
    -- infinities of opposite signs have no sum
    if y.isInfinite && x.negative != y.negative then nan false else x
  else if y.isInfinite then y
  else
    -- both terms are whole multiples of the smaller power of two
    let s := min x.scale y.scale
    let total := x.units s + y.units s
    if total = 0 then zero (x.negative && y.negative)
    else ofDyadic (decide (total < 0)) total.natAbs s

/-- Difference. -/
def sub (x y : Number) : Number := x.add y.neg

/-- Product. -/
def mul (x y : Number) : Number :=
  let negative := x.negative != y.negative
  if x.isNaN || y.isNaN then nan false
  else if x.isInfinite then if y.isZero then nan false else infinity negative
  else if y.isInfinite then if x.isZero then nan false else infinity negative
  else ofDyadic negative (x.significand * y.significand) (x.scale + y.scale)

/-- Quotient. -/
def div (x y : Number) : Number :=
  let negative := x.negative != y.negative
  if x.isNaN || y.isNaN then nan false
  else if x.isInfinite then if y.isInfinite then nan false else infinity negative
  else if y.isInfinite then zero negative
  else if y.isZero then if x.isZero then nan false else infinity negative
  else
    let (n, d) := x.ratio
    let (n', d') := y.ratio
    ofRatio negative (n * d') (d * n')

/-- The remainder of the division by a positive finite number, with the sign of the dividend. -/
def rem (x y : Number) : Number :=
  if x.isNaN || y.isNaN || x.isInfinite || y.isZero then nan false
  else if y.isInfinite then x
  else
    let (n, d) := x.ratio
    let (n', d') := y.ratio
    -- over the common denominator both are whole numbers
    ofRatio x.negative (n * d' % (n' * d)) (d * d')

/-! ## Comparison -/

/-- The order of two numbers; a not-a-number is not ordered, and the zeros are equal. -/
def partialCompare (x y : Number) : Option Ordering :=
  if x.isNaN || y.isNaN then none
  else if x.isZero && y.isZero then some .eq
  else some (x.compare y)

/-- Whether two numbers are numerically equal. -/
def equals (x y : Number) : Bool := x.partialCompare y == some .eq

/-- Whether the first number is below the second. -/
def below (x y : Number) : Bool := x.partialCompare y == some .lt

/-- Whether the first number is below the second or equal to it. -/
def atMost (x y : Number) : Bool := x.below y || x.equals y

/-! ## Whole parts -/

/-- A whole number of the given sign. -/
def whole (negative : Bool) (n : Nat) : Number := ofRatio negative n 1

/-- Replaces the absolute value of a finite number, given as a fraction, by a whole number. -/
def roundBy (f : Nat → Nat → Nat) (x : Number) : Number :=
  if x.isFinite then whole x.negative (f x.ratio.1 x.ratio.2) else x

/-- The whole part, toward zero. -/
def trunc (x : Number) : Number := x.roundBy fun n d => n / d

/-- The nearest whole number, a half away from zero. -/
def round (x : Number) : Number := x.roundBy Rational.roundHalfUp

/-- The greatest whole number at most the given one. -/
def floor (x : Number) : Number :=
  x.roundBy fun n d => if x.negative then (n + d - 1) / d else n / d

/-- The least whole number at least the given one. -/
def ceil (x : Number) : Number :=
  x.roundBy fun n d => if x.negative then n / d else (n + d - 1) / d

/-- Whether a finite number is whole. -/
def isWhole (x : Number) : Bool := x.isFinite && x.ratio.1 % x.ratio.2 == 0

/-- The whole part of a finite number as an integer, zero for all other data. -/
def toInt (x : Number) : Int :=
  if x.isFinite then
    let n : Nat := x.ratio.1 / x.ratio.2
    if x.negative then -(n : Int) else n
  else 0

/-! ## Powers of ten and elementary functions -/

/-- Multiplies an accumulator by a power of a base, by squaring the base for each further bit of
the exponent. -/
def powerLoop (acc base : Number) (n : Nat) : Number :=
  let acc := if n % 2 = 1 then acc.mul base else acc
  if n / 2 = 0 then acc else powerLoop acc (base.mul base) (n / 2)
  termination_by n
  decreasing_by omega

/-- Ten to an integer power, by repeated multiplication and at most one division. -/
def powerOfTen (d : Int) : Number :=
  let p := powerLoop (ofNat 1) (ofNat 10) d.natAbs
  if d < 0 then (ofNat 1).div p else p

/-- Applies a function of the machine's floating-point unit. -/
def viaMachine (f : Float → Float) (x : Number) : Number :=
  ofBits (f (Float.ofBits (UInt64.ofNat x.toBits))).toBits.toNat

/-- Square root. -/
def sqrt (x : Number) : Number := x.viaMachine Float.sqrt

/-- Exponential. -/
def exp (x : Number) : Number := x.viaMachine Float.exp

/-- Natural logarithm. -/
def ln (x : Number) : Number := x.viaMachine Float.log

/-- Logarithm to the base ten. -/
def log10 (x : Number) : Number := x.viaMachine Float.log10

end DataStep.Number
