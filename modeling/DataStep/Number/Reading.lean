import DataStep.Number.Arithmetic

/-!
# Reading numbers

The text of a number is an optional sign and then a decimal with an optional point and an optional
exponent, or one of the words `inf`, `infinity` and `nan` in letters of either case. At least one
digit stands before or after the point, and nothing may be left over. A decimal denotes the number
nearest to it, so one beyond the greatest number reads as an infinity.
-/

set_option autoImplicit false

namespace DataStep.Number

/-- The value of a row of decimal digits. -/
def natOfDigits (digits : List Char) : Nat :=
  digits.foldl (fun n c => 10 * n + (c.toNat - '0'.toNat)) 0

/-- Digits at the front of a text, and what follows them. -/
def spanDigits (cs : List Char) : List Char × List Char :=
  (cs.takeWhile Char.isDigit, cs.dropWhile Char.isDigit)

/-- The number nearest to `digits * 10 ^ exponent`. An exponent that certainly leaves the range is
answered without computing the power. -/
def ofDecimal (negative : Bool) (digits : Nat) (exponent : Int) : Number :=
  if digits = 0 then zero negative
  -- one digit and 310 zeros are more than the greatest number
  else if 310 < exponent then infinity negative
  -- `10 ^ -k` is at most `8 ^ -k`, and half of the least number is `2 ^ -1075`
  else if (digits.log2 : Int) + 1 + 3 * min exponent 0 < -1080 then zero negative
  else ofRatio negative (digits * Nat.pow 10 exponent.toNat) (Nat.pow 10 (-exponent).toNat)

/-- A sign at the front of a text: whether it is a minus sign, and what follows it. -/
def readSign : List Char → Bool × List Char
  | '-' :: rest => (true, rest)
  | '+' :: rest => (false, rest)
  | cs => (false, cs)

/-- The exponent part that fills the rest of a text, zero when there is none. -/
def readExponent : List Char → Option Int
  | [] => some 0
  | c :: rest =>
    if c == 'e' || c == 'E' then
      let (negative, rest) := readSign rest
      let (digits, rest) := spanDigits rest
      if digits.isEmpty || !rest.isEmpty then none
      else some (if negative then -(natOfDigits digits : Int) else natOfDigits digits)
    else none

/-- The fraction digits after a point, and what follows them. -/
def spanFraction : List Char → List Char × List Char
  | '.' :: rest => spanDigits rest
  | cs => ([], cs)

/-- The decimal that fills a text without a sign. -/
def readDecimal (negative : Bool) (cs : List Char) : Option Number :=
  let (whole, rest) := spanDigits cs
  let (fraction, rest) := spanFraction rest
  -- digits may be left out on one side of the point only
  if whole.isEmpty && fraction.isEmpty then none
  else (readExponent rest).map fun e =>
    ofDecimal negative (natOfDigits (whole ++ fraction)) (e - fraction.length)

/-- The number that fills a text. -/
def read (text : List Char) : Option Number :=
  let (negative, rest) := readSign text
  let word := rest.map Char.toLower
  if word = ['n', 'a', 'n'] then some (nan negative)
  else if word = ['i', 'n', 'f'] || word = ['i', 'n', 'f', 'i', 'n', 'i', 't', 'y'] then
    some (infinity negative)
  else readDecimal negative rest

/-- The number that fills a string. -/
def ofString? (s : String) : Option Number := read s.toList

end DataStep.Number
