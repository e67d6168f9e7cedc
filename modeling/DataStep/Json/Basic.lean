import DataStep.Number.Writing

/-!
# JSON documents

A JSON document as a tree, and its text without any blanks. A number stands in the tree as it is
written. Numbers are written in the fewest digits to which they are nearest: with a point and at
least one place between `10 ^ -5` and `10 ^ 16`, and with a signed exponent outside.
-/

set_option autoImplicit false

namespace DataStep

/-- A JSON document. -/
inductive Json where
  | null
  | bool (b : Bool)
  /-- A number by its digits. -/
  | number (digits : List Char)
  | string (s : String)
  | array (items : List Json)
  | object (fields : List (String × Json))

namespace Json

instance : Inhabited Json := ⟨null⟩

/-! ## Numbers -/

/-- The digits of a decimal with a point after the given number of places from the left, and at
least one digit behind it. -/
def pointAfter (places : Nat) (digits : List Char) : List Char :=
  let fraction := digits.drop places
  digits.take places ++ '.' :: if fraction.isEmpty then ['0'] else fraction

/-- An exponent with its sign. -/
def exponentChars (e : Int) : List Char :=
  'e' :: (if e < 0 then '-' else '+') :: Number.digitsOf e.natAbs

/-- The text of a decimal. Its magnitude is the number of digits before the point. -/
def decimalChars (c : Number.Decimal) : List Char :=
  let digits := Number.digitsOf c.digits
  let magnitude := digits.length + c.exponent
  if 0 ≤ c.exponent && magnitude ≤ 16 then
    -- a whole number
    digits ++ List.replicate c.exponent.toNat '0' ++ ['.', '0']
  else if 0 < magnitude && magnitude ≤ 16 then pointAfter magnitude.toNat digits
  else if -5 < magnitude && magnitude ≤ 0 then
    -- no digit before the point
    '0' :: '.' :: (List.replicate (-magnitude).toNat '0' ++ digits)
  else
    (if digits.length = 1 then digits else pointAfter 1 digits) ++ exponentChars (magnitude - 1)

/-- A number; one that is not finite has no JSON text and becomes null. -/
def ofNumber (x : Number) : Json :=
  if x.isFinite then number (x.signChars ++ decimalChars x.shortest) else null

/-- A natural number. -/
def ofNat (n : Nat) : Json := number (Number.digitsOf n)

/-- A document that may be absent. -/
def ofOption {α : Type} (f : α → Json) : Option α → Json
  | some a => f a
  | none => null

/-- An array of strings. -/
def ofStrings (ss : List String) : Json := array (ss.map string)

/-- An object with one field. -/
def tagged (tag : String) (j : Json) : Json := object [(tag, j)]

/-! ## Text -/

/-- A hexadecimal digit in lower case. -/
def hexDigit (n : Nat) : Char := Nat.digitChar n

/-- A character inside quotes. -/
def escapeChar (c : Char) : List Char :=
  if c = '"' then ['\\', '"']
  else if c = '\\' then ['\\', '\\']
  else if c = '\n' then ['\\', 'n']
  else if c = '\r' then ['\\', 'r']
  else if c = '\t' then ['\\', 't']
  else if c.toNat = 8 then ['\\', 'b']
  else if c.toNat = 12 then ['\\', 'f']
  else if c.toNat < 32 then
    ['\\', 'u', '0', '0', hexDigit (c.toNat / 16), hexDigit (c.toNat % 16)]
  else [c]

/-- A string in quotes. -/
def quoted (s : String) : List Char := '"' :: (s.toList.flatMap escapeChar ++ ['"'])

/-- Texts with commas between them. -/
def commaSeparated : List (List Char) → List Char
  | [] => []
  | [t] => t
  | t :: ts => t ++ ',' :: commaSeparated ts

mutual

/-- The text of a document. -/
def chars : Json → List Char
  | null => ['n', 'u', 'l', 'l']
  | bool true => ['t', 'r', 'u', 'e']
  | bool false => ['f', 'a', 'l', 's', 'e']
  | number digits => digits
  | string s => quoted s
  | array items => '[' :: (commaSeparated (charsAll items) ++ [']'])
  | object fields => '\x7b' :: (commaSeparated (charsFields fields) ++ ['\x7d'])

/-- The texts of items. -/
def charsAll : List Json → List (List Char)
  | [] => []
  | j :: js => chars j :: charsAll js

/-- The texts of fields. -/
def charsFields : List (String × Json) → List (List Char)
  | [] => []
  | (name, j) :: fields => (quoted name ++ ':' :: chars j) :: charsFields fields

end

/-- The text of a document as a string. -/
def render (j : Json) : String := String.ofList j.chars

end Json

end DataStep
