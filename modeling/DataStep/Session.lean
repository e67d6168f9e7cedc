import DataStep.Catalog
import DataStep.Pass

/-!
# Sessions

A session holds all that statements at the top level see and change: the settings, the catalog, the
context, the BY variables, the title, the options and the listing.
-/

set_option autoImplicit false

namespace DataStep

/-- The state of a session. -/
structure Session where
  config : Config
  catalog : Catalog
  context : Context
  /-- The variables of the last BY statement. -/
  byVariables : List String
  title : Option String
  /-- The options by name in lower case. -/
  options : OrderedMap String
  listing : Array String

/-- A run of statements on a session. -/
abbrev SessionM := Run RunError Session

namespace Session

/-- A session before its first statement. -/
def new (config : Config) (files : FileTree) (currentDay : Int) : Session :=
  ⟨config, .new config files, .initial currentDay, [], none, .empty, #[]⟩

/-! ## Parts of the state -/

/-- Changes the context. -/
def mapContext (f : Context → Context) (s : Session) : Session :=
  { s with context := f s.context }

/-- Changes the catalog. -/
def mapCatalog (f : Catalog → Catalog) (s : Session) : Session :=
  { s with catalog := f s.catalog }

/-- Runs on the context of the session. -/
def onContext {α : Type} (act : ContextM α) : SessionM α :=
  Run.within context (fun s context => { s with context }) id act

/-- Works on the catalog and hands a failure over as a result. -/
def onCatalog? {α : Type} (f : Catalog → Except LibraryError α × Catalog) :
    SessionM (Except LibraryError α) :=
  Run.result fun s =>
    let (r, catalog) := f s.catalog
    (.ok r, { s with catalog })

/-- Works on the catalog. -/
def onCatalog {α : Type} (f : Catalog → Except LibraryError α × Catalog) : SessionM α := do
  match ← onCatalog? f with
  | .ok a => pure a
  | .error e => throw (.library e)

/-- Adds to the log. -/
def writeLog (f : Log → Log) : SessionM Unit := modify (mapContext (Context.mapLog f))

/-- Adds a note to the log. -/
def note (message : String) : SessionM Unit := writeLog (Log.note · message)

/-- Adds a warning to the log. -/
def warning (message : String) : SessionM Unit := writeLog (Log.warning · message)

/-- Adds an error to the log. -/
def error (message : String) : SessionM Unit := writeLog (Log.error · message)

/-- Adds lines to the listing. -/
def writeListing (lines : List String) : SessionM Unit :=
  modify fun s => { s with listing := s.listing ++ lines }

/-- The library reference and the name of a qualified name. -/
def splitName (qualified : String) : SessionM (String × String) :=
  return (← get).config.splitName qualified

/-- The data set of a qualified name. -/
def dataset (qualified : String) : SessionM Dataset := do
  let (libref, name) ← splitName qualified
  onCatalog fun cat => cat.fetch libref name

/-! ## Settings -/

/-- Sets an option, found in letters of either case. -/
def setOption (options : OrderedMap String) (name value : String) : OrderedMap String :=
  options.insert (Text.lower name) value

/-- The options in the order of their names. -/
def sortedOptions (options : OrderedMap String) : List (String × String) :=
  options.entries.mergeSort fun a b => decide (a.1 ≤ b.1)

/-- Executes an OPTIONS statement. -/
def setOptions (settings : List (String × String)) : SessionM Unit :=
  settings.forM fun (name, value) => do
    modify fun s => { s with options := setOption s.options name value }
    note s!"Option {name} set to {value}"

/-- Executes a LIBNAME statement. -/
def assignLibrary (libref path : String) : SessionM Unit := do
  modify (mapCatalog fun cat => cat.assign libref path)
  let shown := Text.upper libref
  if (← get).catalog.files.isDirectory path then
    note s!"Libref {shown} was successfully assigned as follows: Physical Name: {path}"
  else warning s!"Library {shown} does not exist: {path}"

/-- Executes a TITLE statement. -/
def setTitle (text : String) : SessionM Unit := do
  modify fun s => { s with title := some text }
  note s!"Title set to '{text}'"

end Session

end DataStep
