import DataStep.Row

/-!
# Data sets

A data set has a name, an order of columns and rows. A row that is added declares its columns, but
a row need not have every declared column. Replacing the rows keeps the declarations; clearing
drops both.
-/

set_option autoImplicit false

namespace DataStep

/-- A named list of rows with the order of its columns. -/
structure Dataset where
  name : String
  /-- The declared columns in order. -/
  columns : List String
  rows : List Row
  deriving DecidableEq, Inhabited

namespace Dataset

/-- A data set without columns and rows. -/
def new (name : String) : Dataset := ⟨name, [], []⟩

/-- Adds a name to a list of columns unless it is there. -/
def declare (columns : List String) (name : String) : List String :=
  if name ∈ columns then columns else columns ++ [name]

/-- Declares a column. -/
def declareColumn (ds : Dataset) (name : String) : Dataset :=
  { ds with columns := declare ds.columns name }

/-- Declares the columns of a row, in its order. -/
def declareColumns (ds : Dataset) (row : Row) : Dataset :=
  { ds with columns := row.keys.foldl declare ds.columns }

/-- Adds a row at the end and declares its columns. -/
def addRow (ds : Dataset) (row : Row) : Dataset :=
  { ds.declareColumns row with rows := ds.rows ++ [row] }

/-- Replaces the rows and declares their columns behind those declared before. -/
def replaceRows (ds : Dataset) (rows : List Row) : Dataset :=
  { ds with columns := rows.foldl (fun cs row => row.keys.foldl declare cs) ds.columns, rows }

/-- Drops all rows and declarations. -/
def clear (ds : Dataset) : Dataset := { ds with columns := [], rows := [] }

/-- A data set of the given rows, whose columns are those of the rows. -/
def ofRows (name : String) (rows : List Row) : Dataset := (new name).replaceRows rows

/-- How many rows there are. -/
def size (ds : Dataset) : Nat := ds.rows.length

end Dataset

end DataStep
