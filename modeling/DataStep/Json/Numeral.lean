import DataStep.Number.Reading

/-!
# Numbers in JSON text

A number is read from its first digits: as many as form a whole number of 64 bits. Further digits
before the point only raise the power of ten, and further digits behind it count for nothing. The
whole number is rounded, and so is its product with the power of ten or its quotient by it. A
number of more than fifteen digits or of a large exponent may thus read as a neighbour of the number
nearest to it.
-/

set_option autoImplicit false

namespace DataStep.Json

/-- Appends digits to a natural number up to the first one that leads beyond 64 bits, and counts the
digits from there on. -/
def appendDigits : Nat → List Char → Nat × Nat
  | n, [] => (n, 0)
  | n, c :: cs =>
    let next := 10 * n + (c.toNat - '0'.toNat)
    if next < 0x10000000000000000 then appendDigits next cs else (n, cs.length + 1)

/-- The greatest power of ten that is a number. -/
abbrev maxPower : Nat := 308

/-- The number nearest to a power of ten. -/
def tenTo (k : Nat) : Number := Number.ofNat (Nat.pow 10 k)

/-- A number times a power of ten, none beyond the range. -/
def raise (x : Number) (k : Nat) : Option Number :=
  if maxPower < k then if x.isZero then some x else none
  else
    let y := x.mul (tenTo k)
    if y.isFinite then some y else none

/-- A number divided by a power of ten, with divisions by the greatest power before the last one. A
zero is divided no further. -/
def lowerBy : Nat → Number → Nat → Number
  | 0, x, k => x.div (tenTo k)
  | n + 1, x, k => if x.isZero then x else lowerBy n (x.div (tenTo maxPower)) (k - maxPower)

/-- A number divided by a power of ten, in as few divisions as the greatest power allows. -/
def lower (x : Number) (k : Nat) : Number := lowerBy ((k - 1) / maxPower) x k

/-- A number times a power of ten of either sign, none beyond the range. -/
def shift (x : Number) (e : Int) : Option Number :=
  if 0 ≤ e then raise x e.toNat else some (lower x (-e).toNat)

/-- The number that fills a text, none beyond the range. -/
def readNumber (text : List Char) : Option Number :=
  let (negative, rest) := Number.readSign text
  let (whole, rest) := Number.spanDigits rest
  let (fraction, rest) := Number.spanFraction rest
  let (n, raised) := appendDigits 0 whole
  -- a fraction digit may fit again behind a digit that did not
  let (n, dropped) := appendDigits n fraction
  let lowered := fraction.length - dropped
  (Number.readExponent rest).bind fun e => shift (.whole negative n) (e + raised - lowered)

end DataStep.Json
