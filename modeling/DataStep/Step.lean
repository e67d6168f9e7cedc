import DataStep.Datalines
import DataStep.Listing
import DataStep.Merge
import DataStep.Session

/-!
# DATA steps

A DATA step takes its input rows from a data set, from data lines or from a merge, or makes one pass
over an empty row. The input rows are fetched before the output is cleared. If the input or the
output cannot be had, the step writes an error to the log and does nothing else. A merge comes
before the rows: it replaces the rows of the output, and the passes add to them.
-/

set_option autoImplicit false

namespace DataStep.Session

/-! ## Merging data sets -/

/-- Sorts a data set by variables where it is, and answers its rows. -/
def sortInPlace (vars : List String) (qualified : String) : SessionM (List Row) := do
  let (libref, name) ← splitName qualified
  let ds ← onCatalog fun cat =>
    cat.update libref name fun ds => { ds with rows := Row.sortBy vars ds.rows }
  pure ds.rows

/-- Sorts data sets by variables and merges their rows. -/
def merge (datasets vars : List String) : SessionM (List Row) := do
  if vars.isEmpty then throw (.merge .missingBy)
  let inputs ← datasets.mapM (sortInPlace vars)
  match Merge.mergeRows vars inputs with
  | .error e => throw (.merge e)
  | .ok rows =>
    let names := " ".intercalate vars
    note s!"MERGE of {datasets.length} data sets by {names} produced {rows.length} observations."
    pure rows

/-- Merges into the current data set. -/
def mergeCurrent (datasets : List String) : SessionM Unit := do
  let rows ← merge datasets (← get).byVariables
  let _ ← onCatalog fun cat => cat.updateCurrent fun ds => ds.replaceRows rows

/-! ## The step -/

/-- Whether a statement is a MERGE. -/
def isMerge : Statement → Bool
  | .merge _ => true
  | _ => false

/-- The input rows of a step. -/
def inputRows (header : StepHeader) (merges : Bool) : SessionM (Except LibraryError (List Row)) :=
  match header.input with
  | some input => do
    let (libref, name) ← splitName input
    let found ← onCatalog? fun cat => cat.fetch libref name
    pure (found.map (·.rows))
  | none =>
    if !header.inputVariables.isEmpty then
      pure (.ok (Datalines.read header.inputVariables header.datalines))
    -- the rows of a merge are in the output before the first pass
    else if merges then pure (.ok [])
    else pure (.ok [.empty])

/-- Reports that a step was not executed. -/
def refuse (header : StepHeader) (e : LibraryError) : SessionM Unit :=
  error s!"{e.message}; DATA step {header.output} not executed"

/-- Creates the output of a step, or clears it, and makes it current. -/
def openOutput (libref name : String) : SessionM (Except LibraryError Unit) :=
  onCatalog? fun cat =>
    match cat.create libref name with
    | (.error e, cat) => (.error e, cat)
    | (.ok ds, cat) =>
      (.ok (), cat.put (cat.libraryKey libref) (Catalog.datasetKey name) ds.clear)

/-- Forgets what earlier steps left in the context. -/
def resetContext (ctx : Context) : Context :=
  { ctx with saved := .empty, loops := [], step := .empty }

/-- Executes the BY and MERGE statements of a body into the output: all BY statements first. -/
def mergeIntoOutput (libref name : String) (body : List Statement) : SessionM Unit := do
  -- the last BY statement holds for every merge
  body.forM fun
    | .byVariables vars => modify fun s => { s with byVariables := vars }
    | _ => pure ()
  body.forM fun
    | .merge datasets => do
      let rows ← merge datasets (← get).byVariables
      let _ ← onCatalog fun cat => cat.update libref name fun ds => ds.replaceRows rows
    | _ => pure ()

/-- Makes a pass over the body for an input row and adds the row that it puts out. -/
def passRow (passes : Nat) (libref name : String) (body : List Statement) (row : Row) :
    SessionM Unit := do
  let limit := (← get).config.maxPasses
  match ← onContext (Context.pass passes limit body row) with
  | some out =>
    let _ ← onCatalog fun cat => cat.update libref name fun ds => ds.addRow out
  | none => pure ()

/-- Lists the output of a step and reports its size. -/
def reportOutput (libref name : String) : SessionM Unit := do
  let ds ← onCatalog fun cat => cat.fetch libref name
  let s ← get
  writeListing (ds.render s.title s.config.missingText)
  let library := if libref.isEmpty then Text.upper s.config.defaultLibrary else Text.upper libref
  let shown := Text.upper name
  note (s!"The data set {library}.{shown} has {ds.size} observations and " ++
    s!"{ds.columns.length} variables.")

/-- Executes a DATA step. -/
def dataStep (passes : Nat) (header : StepHeader) (body : List Statement) : SessionM Unit := do
  let (libref, name) ← splitName header.output
  let merges := body.any isMerge
  -- the output may be the data set that is read
  match ← inputRows header merges with
  | .error e => refuse header e
  | .ok rows =>
    match ← openOutput libref name with
    | .error e => refuse header e
    | .ok () =>
      modify (mapContext resetContext)
      if merges then mergeIntoOutput libref name body
      rows.forM (passRow passes libref name body)
      reportOutput libref name

end DataStep.Session
