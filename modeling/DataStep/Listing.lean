import DataStep.Dataset

/-!
# Listings

A listing shows a data set as lines with tabs between the cells: an optional title, a header and a
line per row, with the number of the row in front unless it is suppressed. A value that is missing
and a column that the row does not have look the same.
-/

set_option autoImplicit false

namespace DataStep

/-- How a data set is listed. -/
structure TableLayout where
  title : Option String
  /-- The columns to show; none stands for all declared columns. -/
  columns : List String
  /-- The greatest number of rows to show. -/
  limit : Option Nat
  /-- Whether the numbers of the rows are left out. -/
  withoutNumbers : Bool
  /-- The text of a missing value. -/
  missingText : String

namespace TableLayout

/-- Cells joined to a line. -/
def line (cells : List String) : String := "\t".intercalate cells

/-- The line of a title. -/
def titleLine (title : String) : String := s!"Title: {title}"

/-- The columns that are shown. -/
def shownColumns (layout : TableLayout) (ds : Dataset) : List String :=
  if layout.columns.isEmpty then ds.columns else layout.columns

/-- The rows that are shown. -/
def shownRows (layout : TableLayout) (ds : Dataset) : List Row :=
  match layout.limit with
  | some n => ds.rows.take n
  | none => ds.rows

/-- A cell of a row. -/
def cell (layout : TableLayout) (row : Row) (column : String) : String :=
  (Row.value row column).displayWith layout.missingText

/-- The line of a row with its number. -/
def rowLine (layout : TableLayout) (columns : List String) (row : Row) (number : Nat) : String :=
  line ((if layout.withoutNumbers then [] else [toString number]) ++ columns.map (layout.cell row))

/-- The lines of a data set. -/
def render (layout : TableLayout) (ds : Dataset) : List String :=
  let columns := layout.shownColumns ds
  layout.title.toList.map titleLine ++
    line ((if layout.withoutNumbers then [] else ["Obs"]) ++ columns) ::
    ((layout.shownRows ds).zipIdx 1).map fun (row, i) => layout.rowLine columns row i

end TableLayout

/-- The lines of a data set with all its columns and the numbers of its rows. -/
def Dataset.render (ds : Dataset) (title : Option String) (missingText : String) : List String :=
  TableLayout.render ⟨title, [], none, false, missingText⟩ ds

end DataStep
