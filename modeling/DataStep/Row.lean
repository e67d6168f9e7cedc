import DataStep.OrderedMap
import DataStep.Value

/-!
# Rows

A row names its values in the order in which its columns came. Where a column is absent its value
is read as missing, but presence itself can be asked for.
-/

set_option autoImplicit false

namespace DataStep

/-- One observation: values by column name, in the order of the columns. -/
abbrev Row := OrderedMap Value

namespace Row

/-- The value of a column, missing where the column is absent. -/
def value (row : Row) (name : String) : Value := (row.get? name).getD .missing

/-- Compares two rows on a list of columns, the first difference deciding. -/
def compareBy (vars : List String) (a b : Row) : Ordering :=
  match vars with
  | [] => .eq
  | v :: rest => ((value a v).compare (value b v)).then (compareBy rest a b)

/-- The rows in ascending order of a list of columns; rows with equal keys keep their order. -/
def sortBy (vars : List String) (rows : List Row) : List Row :=
  rows.mergeSort fun a b => (compareBy vars a b).isLE

end Row

end DataStep
