import DataStep.Config
import DataStep.Delimited
import DataStep.FileTree
import DataStep.Text.Casing

/-!
# The catalog

The catalog keeps data sets in libraries. A library is found by its reference in upper case, a data
set by its name in lower case, both without blanks around them; a blank reference means the default
library. A library may stand for a directory: a data set that is not in memory is then read from
the file of its name. The data set that was created, stored or read last is the current one.

`fetch` and `create` answer with the data set or an error and leave a catalog in both cases; the
other operations change nothing when they fail.
-/

set_option autoImplicit false

namespace DataStep

/-- A library: its directory, if it has one, and the data sets in memory. -/
structure Library where
  path : Option String
  datasets : OrderedMap Dataset
  deriving DecidableEq

/-- The libraries and their data sets. -/
structure Catalog where
  /-- The libraries by reference in upper case. -/
  libraries : OrderedMap Library
  defaultLibrary : String
  delimiter : Char
  /-- The keys of the current data set. -/
  current : Option (String × String)
  /-- The files that libraries may read. -/
  files : FileTree
  deriving DecidableEq

namespace Catalog

/-! ## Keys -/

/-- The key of a library reference. -/
def libraryKey (cat : Catalog) (libref : String) : String :=
  if Text.isBlankString libref then cat.defaultLibrary else Text.upper (Text.trimString libref)

/-- The key of a data set name. -/
def datasetKey (name : String) : String := Text.lower (Text.trimString name)

/-- A catalog with the default library only. -/
def new (config : Config) (files : FileTree) : Catalog :=
  let key := Text.upper config.defaultLibrary
  ⟨OrderedMap.empty.insert key ⟨none, .empty⟩, key, config.delimiter, none, files⟩

/-! ## Looking up -/

/-- Whether a library is declared. -/
def hasLibrary (cat : Catalog) (libref : String) : Bool :=
  cat.libraries.contains (cat.libraryKey libref)

/-- The directory of a library. -/
def libraryPath (cat : Catalog) (libref : String) : Option String :=
  (cat.libraries.get? (cat.libraryKey libref)).bind (·.path)

/-- The data set in memory under two keys. -/
def find? (cat : Catalog) (libraryKey datasetKey : String) : Option Dataset :=
  (cat.libraries.get? libraryKey).bind (·.datasets.get? datasetKey)

/-- Whether a data set is in memory. -/
def contains (cat : Catalog) (libref name : String) : Bool :=
  (cat.find? (cat.libraryKey libref) (datasetKey name)).isSome

/-- The current data set. -/
def current? (cat : Catalog) : Except LibraryError Dataset :=
  match cat.current.bind fun (l, d) => cat.find? l d with
  | some ds => .ok ds
  | none => .error .noCurrentDataset

/-- The names of the data sets of a library in memory, in ascending order. -/
def datasetNames (cat : Catalog) (libref : String) : List String :=
  match cat.libraries.get? (cat.libraryKey libref) with
  | some lib => (lib.datasets.entries.map (·.2.name)).mergeSort fun a b => decide (a ≤ b)
  | none => []

/-! ## Changing -/

/-- Gives a library a directory and declares the library if need be; its data sets stay. -/
def assign (cat : Catalog) (libref path : String) : Catalog :=
  let key := cat.libraryKey libref
  let datasets := ((cat.libraries.get? key).map (·.datasets)).getD .empty
  { cat with libraries := cat.libraries.insert key ⟨some path, datasets⟩ }

/-- Puts a data set under two keys, if the library exists. -/
def put (cat : Catalog) (libraryKey datasetKey : String) (ds : Dataset) : Catalog :=
  match cat.libraries.get? libraryKey with
  | some lib =>
    let lib := { lib with datasets := lib.datasets.insert datasetKey ds }
    { cat with libraries := cat.libraries.insert libraryKey lib }
  | none => cat

/-- Makes the data set under two keys the current one. -/
def select (cat : Catalog) (libraryKey datasetKey : String) : Catalog :=
  { cat with current := some (libraryKey, datasetKey) }

/-- Stores a data set under its own name and makes it current. -/
def insert (cat : Catalog) (libref : String) (ds : Dataset) : Except LibraryError Catalog :=
  if cat.hasLibrary libref then
    let l := cat.libraryKey libref
    let d := datasetKey ds.name
    .ok ((cat.put l d ds).select l d)
  else .error (.unknownLibrary libref)

/-- Takes a data set out of memory; the current data set is then no longer selected. -/
def remove (cat : Catalog) (libref name : String) : Option Dataset × Catalog :=
  let l := cat.libraryKey libref
  let d := datasetKey name
  -- the selection goes even if the library is unknown
  let cat := if cat.current = some (l, d) then { cat with current := none } else cat
  match cat.libraries.get? l with
  | none => (none, cat)
  | some lib =>
    let rest := { lib with datasets := lib.datasets.erase d }
    (lib.datasets.get? d, { cat with libraries := cat.libraries.insert l rest })

/-- Reads a delimited file into a data set and makes it current; answers the number of rows. -/
def load (cat : Catalog) (libref name path : String) : Except LibraryError (Nat × Catalog) := do
  let some text := cat.files.read? path | throw (.unreadableFile path)
  let ds ← Delimited.read name text cat.delimiter path
  let cat ← cat.insert libref ds
  return (ds.size, cat)

/-- Reads a data set from the directory of its library, if there is a file of its name, be it
readable or not. Answers nothing if there is none. -/
def loadFromLibrary (cat : Catalog) (libraryKey name : String) :
    Except LibraryError (Option Catalog) :=
  match (cat.libraries.get? libraryKey).bind (·.path) with
  | none => .ok none
  | some directory =>
    let file := FileTree.join directory (Text.trimString name ++ ".csv")
    if cat.files.isFile file then
      -- storing reads the key as a reference once more
      (cat.load libraryKey name file).map fun r => some r.2
    else .ok none

/-- The data set of a name, read from its library if it is not in memory. -/
def fetch (cat : Catalog) (libref name : String) : Except LibraryError Dataset × Catalog :=
  let l := cat.libraryKey libref
  if !cat.hasLibrary libref then (.error (.unknownLibrary libref), cat)
  else
    match cat.find? l (datasetKey name) with
    | some ds => (.ok ds, cat)
    | none =>
      match cat.loadFromLibrary l name with
      | .error e => (.error e, cat)
      | .ok none => (.error (.datasetNotFound l name), cat)
      | .ok (some cat) =>
        match cat.find? l (datasetKey name) with
        | some ds => (.ok ds, cat)
        -- the file went to another library: the key is not its own reference
        | none => (.error (.datasetNotFound libref name), cat)

/-- The data set of a name, read from its library or created empty if it is not in memory, and made
current. -/
def create (cat : Catalog) (libref name : String) : Except LibraryError Dataset × Catalog :=
  let l := cat.libraryKey libref
  let d := datasetKey name
  if !cat.hasLibrary libref then (.error (.unknownLibrary libref), cat)
  else
    let loaded :=
      -- a file of that name is preferred to an empty data set
      if cat.contains libref name then .ok cat
      else (cat.loadFromLibrary l name).map (·.getD cat)
    match loaded with
    | .error e => (.error e, cat)
    | .ok cat =>
      match cat.find? l d with
      | some ds => (.ok ds, cat.select l d)
      | none =>
        let ds := Dataset.new (Text.trimString name)
        (.ok ds, (cat.put l d ds).select l d)

/-- Changes the data set of a name, read from its library if need be, and answers its new state. -/
def update (cat : Catalog) (libref name : String) (f : Dataset → Dataset) :
    Except LibraryError Dataset × Catalog :=
  match cat.fetch libref name with
  | (.error e, cat) => (.error e, cat)
  | (.ok ds, cat) => (.ok (f ds), cat.put (cat.libraryKey libref) (datasetKey name) (f ds))

/-- Changes the current data set and answers its new state. -/
def updateCurrent (cat : Catalog) (f : Dataset → Dataset) :
    Except LibraryError Dataset × Catalog :=
  match cat.current, cat.current? with
  | some (l, d), .ok ds => (.ok (f ds), cat.put l d (f ds))
  | _, _ => (.error .noCurrentDataset, cat)

end Catalog

end DataStep
