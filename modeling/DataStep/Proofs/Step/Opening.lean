import DataStep.Step
import DataStep.Proofs.Catalog.Fetch
import DataStep.Proofs.Run

/-!
# How a DATA step begins

A DATA step looks up its input rows, opens its output, and only then changes the context. `opening`
says what these two look-ups come to in a session, and `dataStep_start` splits every DATA step
there: into the refusal of a step that cannot be opened and the run of a step that is (`runOpened`).
-/

set_option autoImplicit false

namespace DataStep.Session

/-! ## Looking up the input and the output -/

/-- The input rows of a step, and the catalog after they were looked up. -/
def source (header : StepHeader) (merges : Bool) (s : Session) :
    Except LibraryError (List Row) × Catalog :=
  match header.input with
  | some input =>
    let (libref, name) := s.config.splitName input
    let (found, cat) := s.catalog.fetch libref name
    (found.map (·.rows), cat)
  | none =>
    (.ok (if !header.inputVariables.isEmpty then
        Datalines.read header.inputVariables header.datalines
      else if merges then [] else [.empty]), s.catalog)

/-- The catalog with an output created, or cleared if it is there. -/
def withOutput (cat : Catalog) (libref name : String) : Except LibraryError Unit × Catalog :=
  match cat.create libref name with
  | (.error e, cat) => (.error e, cat)
  | (.ok ds, cat) => (.ok (), cat.putNamed libref name ds.clear)

/-- The input rows of a step and the catalog with its output opened, if both can be had. -/
def opening (header : StepHeader) (merges : Bool) (s : Session) :
    Except LibraryError (List Row) × Catalog :=
  match source header merges s with
  | (.error e, cat) => (.error e, cat)
  | (.ok rows, cat) =>
    let (libref, name) := s.config.splitName header.output
    match withOutput cat libref name with
    | (.error e, cat) => (.error e, cat)
    | (.ok (), cat) => (.ok rows, cat)

/-- What a step does once its output is open. -/
def runOpened (passes : Nat) (header : StepHeader) (body : List Statement) (rows : List Row) :
    SessionM Unit := do
  let (libref, name) ← splitName header.output
  modify (mapContext Session.resetContext)
  if body.any isMerge then mergeIntoOutput libref name body
  rows.forM (passRow passes libref name body)
  reportOutput libref name

/-- Resets the context, and executes the BY and MERGE statements if there is a merge among them. -/
def beginStep (libref name : String) (body : List Statement) : SessionM Unit := do
  modify (mapContext Session.resetContext)
  if body.any isMerge then mergeIntoOutput libref name body

/-- Makes the passes of a step over its input rows and reports its output. -/
def runPasses (passes : Nat) (libref name : String) (body : List Statement) (rows : List Row) :
    SessionM Unit := do
  rows.forM (passRow passes libref name body)
  reportOutput libref name

variable {passes : Nat} {header : StepHeader} {body : List Statement} {merges : Bool} {s : Session}

/-! ## The two halves of a step -/

@[simp] theorem splitName_start (qualified : String) (s : Session) :
    (splitName qualified).start s = .ok (.ok (s.config.splitName qualified), s) := rfl

@[simp] theorem onCatalog?_start {α : Type} (f : Catalog → Except LibraryError α × Catalog)
    (s : Session) :
    (onCatalog? f).start s = .ok (.ok (f s.catalog).1, { s with catalog := (f s.catalog).2 }) :=
  rfl

theorem onCatalog_start_of_ok {α : Type} {f : Catalog → Except LibraryError α × Catalog}
    {s : Session} {a : α} {cat : Catalog} (h : f s.catalog = (.ok a, cat)) :
    (onCatalog f).start s = .ok (.ok a, { s with catalog := cat }) := by
  rw [onCatalog, Run.start_bind_of_ok (onCatalog?_start f s), h]
  rfl

/-- Work on the catalog ends as it does on the catalog and leaves all else. -/
theorem onCatalog_start_eq_ok {α : Type}
    {f : Catalog → Except LibraryError α × Catalog} {s t : Session}
    {a : α} (h : (onCatalog f).start s = .ok (.ok a, t)) :
    f s.catalog = (.ok a, t.catalog) ∧ t = { s with catalog := t.catalog } := by
  rw [onCatalog, Run.start_bind_of_ok (onCatalog?_start f s)] at h
  generalize f s.catalog = result at h
  obtain ⟨e | b, cat⟩ := result
  · cases h
  · cases h
    exact ⟨rfl, rfl⟩

theorem inputRows_start : (inputRows header merges).start s =
    .ok (.ok (source header merges s).1, { s with catalog := (source header merges s).2 }) := by
  unfold inputRows source
  cases header.input with
  | some input => rfl
  | none =>
    dsimp only
    split
    · rfl
    · split <;> rfl

theorem openOutput_start (libref name : String) : (openOutput libref name).start s =
    .ok (.ok (withOutput s.catalog libref name).1,
      { s with catalog := (withOutput s.catalog libref name).2 }) := rfl

/-- **A DATA step is refused where its input or its output cannot be had, and runs on the opened
output otherwise.** -/
theorem dataStep_start : (dataStep passes header body).start s =
    match opening header (body.any isMerge) s with
    | (.error e, cat) => (refuse header e).start { s with catalog := cat }
    | (.ok rows, cat) => (runOpened passes header body rows).start { s with catalog := cat } := by
  rw [dataStep, Run.start_bind_of_ok (splitName_start header.output s), opening]
  generalize hname : s.config.splitName header.output = qualified
  obtain ⟨libref, name⟩ := qualified
  dsimp only
  rw [Run.start_bind_of_ok inputRows_start]
  generalize source header (body.any isMerge) s = found
  obtain ⟨e | rows, cat⟩ := found
  · rfl
  · dsimp only
    rw [Run.start_bind_of_ok (openOutput_start libref name)]
    dsimp only
    generalize withOutput cat libref name = opened
    obtain ⟨e | ⟨⟩, cat'⟩ := opened
    · rfl
    · dsimp only
      unfold runOpened
      rw [Run.start_bind_of_ok (splitName_start _ _)]
      dsimp only
      rw [hname]

/-! ## Opened outputs -/

variable {libref name : String} {rows : List Row} {cat opened : Catalog}

theorem exists_of_withOutput_eq_ok (h : withOutput cat libref name = (.ok (), opened)) :
    ∃ (base : Catalog) (old : Dataset), opened = base.putNamed libref name old.clear ∧
      (base.libraries.get? (base.libraryKey libref)).isSome := by
  unfold withOutput at h
  split at h
  · cases h
  · rename_i old base hcreate
    cases h
    exact ⟨base, old, rfl, Catalog.isSome_library_of_named? (Catalog.named?_create hcreate)⟩

/-- A step is opened where its input rows are found and its output can be created. -/
theorem exists_source_of_opening_eq_ok
    (hname : s.config.splitName header.output = (libref, name))
    (h : opening header merges s = (.ok rows, opened)) :
    ∃ found, source header merges s = (.ok rows, found) ∧
      withOutput found libref name = (.ok (), opened) := by
  unfold opening at h
  rw [hname] at h
  split at h
  · cases h
  · rename_i input found hsource
    dsimp only at h
    split at h
    · cases h
    · rename_i final houtput
      cases h
      exact ⟨found, hsource, houtput⟩

/-- **A step that is opened finds its output cleared, in a catalog that has the library.** -/
theorem exists_of_opening_eq_ok (hname : s.config.splitName header.output = (libref, name))
    (h : opening header merges s = (.ok rows, opened)) :
    ∃ (base : Catalog) (old : Dataset), opened = base.putNamed libref name old.clear ∧
      (base.libraries.get? (base.libraryKey libref)).isSome := by
  obtain ⟨found, -, houtput⟩ := exists_source_of_opening_eq_ok hname h
  exact exists_of_withOutput_eq_ok houtput

/-- **A step that is opened begins, and makes its passes on what the beginning leaves.** -/
theorem dataStep_start_of_opening_eq_ok (hname : s.config.splitName header.output = (libref, name))
    (h : opening header (body.any isMerge) s = (.ok rows, opened)) :
    (dataStep passes header body).start s =
      (beginStep libref name body >>= fun _ => runPasses passes libref name body rows).start
        { s with catalog := opened } := by
  rw [dataStep_start, h]
  dsimp only
  unfold runOpened beginStep
  rw [Run.start_bind_of_ok (splitName_start _ _)]
  dsimp only
  rw [hname]
  cases body.any isMerge <;> rfl

/-- A new session without files that holds one data set in its default library. -/
def holding (config : Config) (name : String) (rows : List Row) : Session :=
  let s := Session.new config .empty 0
  { s with catalog := s.catalog.putNamed "" name (.ofRows name rows) }

end DataStep.Session
