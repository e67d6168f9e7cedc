import DataStep.Number.Writing
import DataStep.Text.Blank

/-!
# Values

A variable holds a number, a text or the missing value. A text counts as the number that it spells,
blanks around it aside, and a missing value counts as no number. Values have one total order:
missing, then numbers in their total order, then texts by code points.
-/

set_option autoImplicit false

namespace DataStep

/-- The value of a variable. -/
inductive Value where
  | number (n : Number)
  | text (s : String)
  | missing
  deriving DecidableEq

namespace Value

instance : Inhabited Value := ⟨missing⟩

/-- Whether the value is missing. -/
def isMissing : Value → Bool
  | missing => true
  | _ => false

/-- Whether the value is a number. -/
def isNumber : Value → Bool
  | number _ => true
  | _ => false

/-- Whether the value is a text. -/
def isText : Value → Bool
  | text _ => true
  | _ => false

/-- The number that a value counts as, if any. -/
def toNumber? : Value → Option Number
  | number n => some n
  | text s => Number.read (Text.trim s.toList)
  | missing => none

/-- A possible number as a value. -/
def ofNumber? : Option Number → Value
  | some n => number n
  | none => missing

/-- The value as a numeric value: the number that it counts as, or missing. -/
def toNumeric (v : Value) : Value := ofNumber? v.toNumber?

/-- The text of a value; a missing value has no characters. -/
def toText : Value → String
  | number n => n.text
  | text s => s
  | missing => ""

/-- Whether the value holds as a condition: it counts as a number other than zero. -/
def isTrue (v : Value) : Bool :=
  match v.toNumber? with
  | some n => !n.isZero
  | none => false

/-- The kind of a value in messages. -/
def typeName : Value → String
  | number _ => "numeric"
  | text _ => "character"
  | missing => "missing"

/-- The total order of values. -/
def compare : Value → Value → Ordering
  | missing, missing => .eq
  | missing, _ => .lt
  | _, missing => .gt
  | number a, number b => a.compare b
  | number _, text _ => .lt
  | text _, number _ => .gt
  | text a, text b => Ord.compare a b

/-- The value as shown, with a text of choice for a missing value. -/
def displayWith (missingText : String) : Value → String
  | missing => missingText
  | v => v.toText

/-- The value as shown, with a point for a missing value. -/
def display (v : Value) : String := v.displayWith "."

end Value

end DataStep
