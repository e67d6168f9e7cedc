import DataStep.Number.Reading

/-!
# Writing numbers

There are two ways to choose the digits of a number. With a fixed number of places (`fixedPlaces`)
the exact value is rounded at that place, ties to the even digit. Otherwise (`shortest`) the fewest
digits are taken that read back as the number, and of those the nearest to it: for each count of
digits the two decimals around the value are tried.

There are three layouts. `plain` never uses an exponent; `fixed` has the given places; `text` is
the rendering of numeric values, which rounds at six places and drops the zeros behind the last
digit.
-/

set_option autoImplicit false

namespace DataStep.Number

/-- The decimal digits of a natural number, without superfluous zeros. -/
def digitsOf (n : Nat) : List Char := Nat.toDigits 10 n

/-- The digits with zeros in front up to the given width. -/
def padLeft (width : Nat) (cs : List Char) : List Char :=
  List.replicate (width - cs.length) '0' ++ cs

/-! ## Fixed places -/

/-- The digits of `n / 10 ^ places`, with a point in front of the last `places`. -/
def pointDigits (places n : Nat) : List Char :=
  if places = 0 then digitsOf n
  else
    let unit := Nat.pow 10 places
    digitsOf (n / unit) ++ '.' :: padLeft places (digitsOf (n % unit))

/-- The absolute value of a finite number in units of `10 ^ -places`, a tie
to the even neighbour. -/
def fixedUnits (places : Nat) (x : Number) : Nat :=
  Rational.roundDiv (x.ratio.1 * Nat.pow 10 places) x.ratio.2

/-- A minus sign for a negative datum. -/
def signChars (x : Number) : List Char := if x.negative then ['-'] else []

/-- A number with the given count of decimal places. A negative number that rounds to zero keeps
its sign. -/
def fixed (places : Nat) (x : Number) : List Char :=
  if x.isNaN then ['N', 'a', 'N']
  else x.signChars ++
    if x.isInfinite then ['i', 'n', 'f'] else pointDigits places (x.fixedUnits places)

/-! ## Shortest digits -/

/-- A decimal `digits * 10 ^ exponent`. -/
structure Decimal where
  digits : Nat
  exponent : Int
  deriving DecidableEq

/-- The greatest `k` with `10 ^ k ≤ n / d`, for positive `n` and `d`: the estimate from the binary
exponents is off by at most one. -/
def decimalExponent (n d : Nat) : Int :=
  let estimate := ((n.log2 : Int) - d.log2) * 30103 / 100000
  let reached (k : Int) : Bool := decide (d * Nat.pow 10 k.toNat ≤ n * Nat.pow 10 (-k).toNat)
  if reached (estimate + 1) then estimate + 1
  else if reached estimate then estimate
  else estimate - 1

/-- Whether a decimal with the sign of the number reads back as the number. -/
def readsBack (x : Number) (digits : Nat) (exponent : Int) : Bool :=
  ofDecimal x.negative digits exponent == x

/-- The decimal with the given exponent that reads back as the number and is nearest to it, if one
of the two around the number does. -/
def nearestDecimal (x : Number) (exponent : Int) : Option Decimal :=
  let n := x.ratio.1 * Nat.pow 10 (-exponent).toNat
  let d := x.ratio.2 * Nat.pow 10 exponent.toNat
  -- the value lies between `lower` and `lower + 1` units
  let lower := n / d
  match x.readsBack lower exponent, x.readsBack (lower + 1) exponent with
  | false, false => none
  | true, false => some ⟨lower, exponent⟩
  | false, true => some ⟨lower + 1, exponent⟩
  | true, true => some ⟨Rational.roundDiv n d, exponent⟩

/-- Every digit of a finite number. -/
def exactDecimal (x : Number) : Decimal :=
  if x.scale < 0 then ⟨x.significand * Nat.pow 5 (-x.scale).toNat, x.scale⟩
  else ⟨x.significand <<< x.scale.toNat, 0⟩

/-- A decimal without zeros at the end of its digits. -/
def Decimal.normalize (c : Decimal) : Decimal :=
  if c.digits = 0 then ⟨0, 0⟩
  else if c.digits % 10 = 0 then normalize ⟨c.digits / 10, c.exponent + 1⟩
  else c
  termination_by c.digits
  decreasing_by omega

/-- The fewest digits that read back as a finite number, and of those the nearest to it. -/
def shortest (x : Number) : Decimal :=
  if x.isZero then ⟨0, 0⟩
  else
    let top := decimalExponent x.ratio.1 x.ratio.2
    -- from one digit to seventeen, which always read back
    let found := (List.range 17).findSome? fun i => x.nearestDecimal (top - (i : Nat))
    (found.getD x.exactDecimal).normalize

/-- The digits of a decimal laid out without an exponent. -/
def Decimal.positional (c : Decimal) : List Char :=
  if 0 ≤ c.exponent then digitsOf c.digits ++ List.replicate c.exponent.toNat '0'
  else pointDigits (-c.exponent).toNat c.digits

/-- A number in its shortest digits, never with an exponent. -/
def plain (x : Number) : List Char :=
  if x.isNaN then ['N', 'a', 'N']
  else x.signChars ++ if x.isInfinite then ['i', 'n', 'f'] else x.shortest.positional

/-! ## The text of a numeric value -/

/-- A text without the given character at its end. -/
def dropTrailing (c : Char) (cs : List Char) : List Char :=
  (cs.reverse.dropWhile (· == c)).reverse

/-- A fixed-place text without the zeros behind its last digit and without a bare point. -/
def dropTrailingZeros (cs : List Char) : List Char :=
  if cs.contains '.' then dropTrailing '.' (dropTrailing '0' cs) else cs

/-- Six places, without the zeros behind the last digit; a value that rounds to zero has no sign. -/
def roundedText (x : Number) : List Char :=
  let cs := dropTrailingZeros (x.fixed 6)
  if cs = ['-', '0'] then ['0'] else cs

/-- A whole number, without the sign of a zero. -/
def wholeText (x : Number) : List Char :=
  (if x.toInt < 0 then ['-'] else []) ++ digitsOf x.toInt.natAbs

/-- The text of a numeric value: whole numbers below `10 ^ 15` digit by digit, all others rounded
at six places. -/
def textChars (x : Number) : List Char :=
  if x.isWhole && x.toInt.natAbs < 1000000000000000 then x.wholeText else x.roundedText

/-- The text of a numeric value as a string. -/
def text (x : Number) : String := String.ofList x.textChars

/-! ## Rounding at a decimal place -/

/-- The largest count of decimal places, in either direction, whose scale factor is in range. -/
abbrev maxRoundPlaces : Int := 308

/-- The number that its own rendering with nine places denotes. -/
def snap (x : Number) : Number := (read (x.fixed 9)).getD x

/-- Rounds half away from zero at a decimal place. The scaled value first goes through nine places,
so that the noise of the scaling does not decide a half; a scaled value out of range leaves the
number as it is. -/
def roundHalfAway (x : Number) (places : Int) : Number :=
  let places := max (-maxRoundPlaces) (min maxRoundPlaces places)
  let factor := powerOfTen places
  let scaled := x.mul factor
  -- a number that is too great to be scaled has no digit at that place
  if !scaled.isFinite then x
  else
    let rounded := scaled.snap.round
    if 0 ≤ places then rounded.div factor else rounded.mul (powerOfTen (-places))

/-- A count of places from a number: its whole part, within the range; zero for a not-a-number. -/
def toPlaces (x : Number) : Int :=
  if x.isNaN then 0
  else if x.isInfinite then if x.negative then -maxRoundPlaces else maxRoundPlaces
  else max (-maxRoundPlaces) (min maxRoundPlaces x.toInt)

end DataStep.Number
