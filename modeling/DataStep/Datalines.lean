import DataStep.Row
import DataStep.Statement

/-!
# Data lines

A data line that is not blank is one record of fields between blanks. The fields go to the input
variables in order. A point and a field that the line does not have are missing; a character
variable takes its field as it is, and a numeric one the number that it spells, if it spells one.
-/

set_option autoImplicit false

namespace DataStep.Datalines

/-- The value of a field for an input variable. -/
def fieldValue (character : Bool) : Option (List Char) → Value
  | none => .missing
  | some field =>
    if field = ['.'] then .missing
    else if character then .text (String.ofList field)
    else .ofNumber? (Number.read field)

/-- The row of a line. -/
def lineRow (vars : List InputVariable) (line : List Char) : Row :=
  let fields := Text.words line
  OrderedMap.ofList (vars.zipIdx.map fun (v, i) =>
    (v.name, fieldValue v.character fields[i]?))

/-- The rows of the lines that are not blank. -/
def read (vars : List InputVariable) (lines : List String) : List Row :=
  ((lines.map String.toList).filter (!Text.allBlank ·)).map (lineRow vars)

end DataStep.Datalines
