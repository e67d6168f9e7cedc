import DataStep.Listing
import DataStep.Session
import DataStep.Summary

/-!
# Procedures

Sorting takes the rows on which a filter holds, sorts them and may drop or count the rows that
repeat a key; the result replaces the target, which is the input unless another is named. The means
procedure lists a summary of each variable, and the print procedure lists the rows.
-/

set_option autoImplicit false

namespace DataStep.Session

/-! ## Sorting -/

/-- Whether the value of a filter selects a row: a number other than zero or a text that is not
empty. -/
def selects : Value → Bool
  | .number n => !n.isZero
  | .text s => !s.isEmpty
  | .missing => false

/-- Whether a filter selects a row. The row is the row in the making meanwhile; one that is selected
leaves an empty row behind. -/
def selectsRow (filter : Expr) (row : Row) : ContextM Bool := do
  modify (Context.mapRow fun _ => row)
  if selects (← Context.evaluate filter) then
    modify (Context.mapRow fun _ => .empty)
    pure true
  else pure false

/-- The rows that a filter selects. -/
def selectRows (filter : Expr) : List Row → ContextM (List Row)
  | [] => pure []
  | row :: rest => do
    let selected ← selectsRow filter row
    let others ← selectRows filter rest
    pure (if selected then row :: others else others)

/-- The message on the rows that repeat a key. -/
def duplicatesMessage (count : Nat) (done : String) : String :=
  s!"{count} observations with duplicate key values were {done}."

/-- Executes a sort. -/
def sortProc (p : SortProc) : SessionM Unit := do
  let source ← dataset p.input
  let selected ← match p.filter with
    | some filter => onContext (selectRows filter source.rows)
    | none => pure source.rows
  let sorted := Row.sortBy p.keys selected
  let unique := Row.firstOfEachKey p.keys [] sorted
  let duplicates := sorted.length - unique.length
  if p.reportDuplicates then note (duplicatesMessage duplicates "found")
  if p.dropDuplicates then note (duplicatesMessage duplicates "deleted")
  let target := p.output.getD p.input
  let (libref, name) ← splitName target
  -- the declared columns stay in front
  let result := (Dataset.mk name source.columns []).replaceRows
    (if p.dropDuplicates then unique else sorted)
  onCatalog fun cat =>
    match cat.insert libref result with
    | .ok cat => (.ok (), cat)
    | .error e => (.error e, cat)
  let shown := Text.upper target
  note s!"The data set {shown} has {result.size} observations."

/-! ## Listing procedures -/

/-- Reports how many rows a procedure read. -/
def noteRead (count : Nat) (qualified : String) : SessionM Unit :=
  let shown := Text.upper qualified
  note s!"There were {count} observations read from the data set {shown}."

/-- Executes the means procedure; without variables it takes all columns that hold numbers. -/
def meansProc (qualified : String) (vars : List String) : SessionM Unit := do
  let ds ← dataset qualified
  let s ← get
  let columns := if vars.isEmpty then ds.numericColumns else vars
  writeListing (s.title.toList.map TableLayout.titleLine ++
    "Variable\tN\tMean" :: (ds.summarize columns).map (Summary.line s.config.missingText))
  noteRead ds.size qualified

/-- Executes the print procedure. -/
def printProc (qualified : String) (vars : List String) (limit : Option Nat)
    (withoutNumbers : Bool) : SessionM Unit := do
  let ds ← dataset qualified
  let s ← get
  let layout : TableLayout := ⟨s.title, vars, limit, withoutNumbers, s.config.missingText⟩
  writeListing (layout.render ds)
  noteRead (layout.shownRows ds).length qualified

/-- Executes a procedure. -/
def procedure : Procedure → SessionM Unit
  | .sort p => sortProc p
  | .means dataset vars => meansProc dataset vars
  | .print dataset vars limit withoutNumbers =>
    printProc dataset vars limit withoutNumbers
  | .other name =>
    let shown := Text.upper name
    throw (.unsupportedStatement s!"PROC {shown}" "(procedure not available)")

end DataStep.Session
