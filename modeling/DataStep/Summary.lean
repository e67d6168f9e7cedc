import DataStep.Dataset

/-!
# Duplicates and summaries

Two rows repeat a key if the texts of their BY values agree, an absent column having a text of its
own. A summary of a variable counts its numeric cells and takes their mean.
-/

set_option autoImplicit false

namespace DataStep

namespace Row

/-- The text of a row's key: the text of every BY value and an underscore behind it. -/
def keyText (vars : List String) (row : Row) : String :=
  String.join (vars.map fun v =>
    (match row.get? v with
      | some value => value.toText
      | none => "NA") ++ "_")

/-- The rows whose key text is not in a list and appears in no earlier row. -/
def firstOfEachKey (vars : List String) (seen : List String) : List Row → List Row
  | [] => []
  | row :: rest =>
    let key := keyText vars row
    if seen.contains key then firstOfEachKey vars seen rest
    else row :: firstOfEachKey vars (key :: seen) rest

end Row

/-- The number and the mean of the numeric cells of a variable. -/
structure Summary where
  name : String
  count : Nat
  /-- The mean, absent if there is no numeric cell. -/
  mean : Option Number
  deriving DecidableEq

namespace Dataset

/-- The numbers in a column, in the order of the rows. -/
def numbers (ds : Dataset) (column : String) : List Number :=
  ds.rows.filterMap fun row =>
    match row.get? column with
    | some (.number n) => some n
    | _ => none

/-- The columns that hold a number, in the declared order. -/
def numericColumns (ds : Dataset) : List String :=
  ds.columns.filter fun column => !(ds.numbers column).isEmpty

/-- The summary of a variable. -/
def summary (ds : Dataset) (column : String) : Summary :=
  let ns := ds.numbers column
  let total := ns.foldl Number.add (.zero false)
  ⟨column, ns.length, if ns.isEmpty then none else some (total.div (.ofNat ns.length))⟩

/-- The summaries of variables. -/
def summarize (ds : Dataset) (columns : List String) : List Summary := columns.map ds.summary

end Dataset

/-- The line of a summary: the name, the count and the mean with two places. -/
def Summary.line (missingText : String) (s : Summary) : String :=
  let mean :=
    match s.mean with
    | some m => String.ofList (m.fixed 2)
    | none => missingText
  "\t".intercalate [s.name, toString s.count, mean]

end DataStep
