import DataStep.Dataset
import DataStep.Error
import DataStep.Text.Lines

/-!
# Delimited text

The first line that is not blank names the columns; every later one is a record. Fields are split
at a delimiter. A quote that only blanks precede in its field opens a quoted part, which holds
delimiters as they are and a quote as two quotes; a line that ends inside one is malformed. A field
is missing when it is blank or a point, a number when it spells a finite one, and a text otherwise.
A record that is too short is filled up with missing values, and what exceeds the header is
ignored.
-/

set_option autoImplicit false

namespace DataStep

namespace Delimited

/-- The fields of a line from a place on: inside quotes or not, and after the given characters of
the current field, which are kept in reverse. None if the line ends inside quotes. -/
def fieldsFrom (delimiter : Char) : Bool → List Char → List Char → Option (List (List Char))
  -- a quoted part is still open
  | true, _, [] => none
  | false, field, [] => some [field.reverse]
  -- two quotes stand for one and close nothing
  | true, field, '"' :: '"' :: rest => fieldsFrom delimiter true ('"' :: field) rest
  | true, field, '"' :: rest => fieldsFrom delimiter false field rest
  | true, field, c :: rest => fieldsFrom delimiter true (c :: field) rest
  | false, field, c :: rest =>
    -- the blanks in front of the quote are not part of the field
    if c = '"' && Text.allBlank field then fieldsFrom delimiter true [] rest
    else if c = delimiter then
      (fieldsFrom delimiter false [] rest).map fun fields => field.reverse :: fields
    else fieldsFrom delimiter false (c :: field) rest

/-- The fields of a line, none if it ends inside quotes. -/
def splitFields (delimiter : Char) (line : List Char) : Option (List (List Char)) :=
  fieldsFrom delimiter false [] line

/-- The value of a field. -/
def fieldValue (field : List Char) : Value :=
  let trimmed := Text.trim field
  if trimmed = [] || trimmed = ['.'] then .missing
  else
    match Number.read trimmed with
    | some n => if n.isFinite then .number n else .text (String.ofList field)
    | none => .text (String.ofList field)

/-- The row of a record; where a column is named twice the later field counts. -/
def recordRow (header : List String) (fields : List (List Char)) : Row :=
  OrderedMap.ofList (header.zipIdx.map fun (column, i) =>
    (column, fieldValue ((fields[i]?).getD [])))

/-- The lines that are not blank, with their numbers from one. -/
def numberedLines (text : List Char) : List (Nat × List Char) :=
  (((Text.lines text).zipIdx 1).map fun (line, i) => (i, line)).filter fun e =>
    !Text.allBlank e.2

/-- The fields of a numbered line of a source. -/
def lineFields (source : String) (delimiter : Char) (line : Nat × List Char) :
    Except LibraryError (List (List Char)) :=
  match splitFields delimiter line.2 with
  | some fields => .ok fields
  | none => .error (.malformedRecord source line.1)

/-- The data set that a delimited text describes. -/
def read (name : String) (text : String) (delimiter : Char) (source : String) :
    Except LibraryError Dataset :=
  match numberedLines text.toList with
  | [] => .ok (.new name)
  | first :: records => do
    let header := (← lineFields source delimiter first).map fun field =>
      String.ofList (Text.trim field)
    let fields ← records.mapM (lineFields source delimiter)
    -- every row has exactly the columns of the header
    .ok ⟨name, header.foldl Dataset.declare [], fields.map (recordRow header)⟩

end Delimited

end DataStep
