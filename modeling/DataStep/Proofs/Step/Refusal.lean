import DataStep.Proofs.Catalog.Reading
import DataStep.Proofs.Step.Opening
import Mathlib.Data.List.Basic

/-!
# DATA steps that are refused

A DATA step looks up its input, then its output, and only then changes anything. If one of the two
cannot be had (`Unavailable`), the step ends well, with one error in the log and nothing done. What
it may leave behind in the catalog is what looking up its input leaves: a data set that was read
from the directory of its library (`Catalog.OnlyReads`).

Main statement: every step that is refused adds one error to the log and leaves all else but the
catalog, and it reads at most its input, unless the input is read from a library that is not found
under its own key (`dataStep_refused`). There the data set that is read replaces one that was not
asked for, and then it is not found (`not_refused_blanks_around_default`).
-/

set_option autoImplicit false

namespace DataStep.Session

variable {passes : Nat} {header : StepHeader} {body : List Statement}
    {merges : Bool} {s t : Session}
  {e : LibraryError} {rows : List Row} {cat : Catalog}

/-! ## Steps that cannot be executed -/

/-- The names of the library and of the data set that a step reads, if it reads one. -/
def inputName? (header : StepHeader) (s : Session) : Option (String × String) :=
  header.input.map s.config.splitName

/-- The catalog after a step has looked up its input. -/
def afterLookup (header : StepHeader) (s : Session) : Catalog :=
  match inputName? header s with
  | none => s.catalog
  | some m => (s.catalog.fetch m.1 m.2).2

/-- The input or the output of a step cannot be had, and why: the input is looked up first, and the
output is created in the catalog that this leaves. -/
inductive Unavailable (header : StepHeader) (s : Session) (e : LibraryError) : Prop
  | input (m : String × String) (hname : inputName? header s = some m)
    (h : (s.catalog.fetch m.1 m.2).1 = .error e)
  | output (hinput : ∀ m, inputName? header s = some m → ∃ ds, (s.catalog.fetch m.1 m.2).1 = .ok ds)
    (h : ((afterLookup header s).create (s.config.splitName header.output).1
      (s.config.splitName header.output).2).1 = .error e)

theorem source_snd (header : StepHeader) (merges : Bool) (s : Session) :
    (source header merges s).2 = afterLookup header s := by
  rw [source, afterLookup, inputName?]
  cases header.input with
  | none => rfl
  | some name => rfl

theorem source_fst_of_input {m : String × String} (hname : inputName? header s = some m) :
    (source header merges s).1 = (s.catalog.fetch m.1 m.2).1.map (·.rows) := by
  obtain ⟨name, hinput, rfl⟩ := Option.map_eq_some_iff.1 hname
  rw [source, hinput]

/-- A step whose input can be had, or that has none, finds its rows. -/
theorem exists_source_eq_ok (merges : Bool)
    (hinput : ∀ m, inputName? header s = some m → ∃ ds, (s.catalog.fetch m.1 m.2).1 = .ok ds) :
    ∃ rows, source header merges s = (.ok rows, afterLookup header s) := by
  cases hname : inputName? header s with
  | none =>
    have hnone : header.input = none := Option.map_eq_none_iff.1 hname
    rw [afterLookup, hname, source, hnone]
    exact ⟨_, rfl⟩
  | some m =>
    obtain ⟨ds, hds⟩ := hinput m hname
    refine ⟨ds.rows, Prod.ext ?_ (source_snd header merges s)⟩
    rw [source_fst_of_input hname, hds]
    rfl

/-- **A step whose input or output cannot be had is not opened**, and no output
is created or cleared. -/
theorem opening_of_unavailable (h : Unavailable header s e) :
    opening header merges s = (.error e, afterLookup header s) := by
  rw [opening]
  cases h with
  | input m hname hfetch =>
    have hsource : source header merges s = (.error e, afterLookup header s) := by
      refine Prod.ext ?_ (source_snd header merges s)
      rw [source_fst_of_input hname, hfetch]
      rfl
    rw [hsource]
  | output hinput hcreate =>
    obtain ⟨rows, hsource⟩ := exists_source_eq_ok merges hinput
    rw [hsource]
    generalize afterLookup header s = found at hcreate
    generalize s.config.splitName header.output = name at hcreate
    -- creating a data set in vain leaves the catalog
    have herror : found.create name.1 name.2 = (.error e, found) :=
      Prod.ext hcreate (Catalog.create_of_error (Prod.ext hcreate rfl))
    have houtput : withOutput found name.1 name.2 = (.error e, found) := by rw [withOutput, herror]
    dsimp only
    rw [houtput]

/-- The message with which a step is refused. -/
def refusal (header : StepHeader) (e : LibraryError) : String :=
  s!"{e.message}; DATA step {header.output} not executed"

/-- **A DATA step whose input or output cannot be had ends well, with one error in the log, and
reads at most its input.** Nothing but the log and the catalog changes, and in the catalog no
data set in memory changes and none is created; the only one that may come is the input, from the
directory of its library. The exception is an input that is read from a library which is not
found under its own key. -/
theorem dataStep_refused (h : Unavailable header s e) :
    ∃ t, (dataStep passes header body).start s = .ok (.ok (), t) ∧
      t = { s with
        catalog := t.catalog
        context := s.context.mapLog (Log.error · (refusal header e)) } ∧
      (s.catalog.OnlyReads (inputName? header s) t.catalog ↔
        t.catalog = s.catalog ∨ ∀ m, inputName? header s = some m → s.catalog.OwnKey m) := by
  have hrun : (dataStep passes header body).start s =
      (refuse header e).start { s with catalog := afterLookup header s } := by
    rw [dataStep_start, opening_of_unavailable h]
  refine ⟨_, hrun, rfl, ?_⟩
  change s.catalog.OnlyReads (inputName? header s) (afterLookup header s) ↔
    afterLookup header s = s.catalog ∨ _
  rw [afterLookup]
  cases inputName? header s with
  | none => exact iff_of_true (.refl _ _) (.inl rfl)
  | some m =>
    rw [Catalog.onlyReads_fetch_iff]
    simp only [Option.some.injEq, forall_eq']

/-- A new session with a library whose directory holds a data set and a file with an open quote. -/
def halfReadable : Session :=
  let files : FileTree := .ofList [("d/b.csv", "x\n2\n1\n"), ("d/c.csv", "x\n\"1\n")]
  (Session.new .standard files 0).mapCatalog fun cat => cat.assign "lib" "d"

/-- The step that reads the one and writes the other. -/
def intoUnreadable : StepHeader := ⟨"lib.c", some "lib.b", [], []⟩

/-- What the log says then. -/
def unreadableText : String :=
  "malformed record at line 2 of d/c.csv: unterminated quoted field; DATA step lib.c not executed"

/-- The columns of a data set in memory at the end of a run that ends well. -/
def columnsAfter {α : Type} (k : String × String) :
    Except RunError α × Session → Option (List String)
  | (.error _, _) => none
  | (.ok _, t) => (t.catalog.at? k).map (·.columns)

/-- Control: a step reads its input from the directory, finds the file of its output
malformed and is refused. -/
theorem dataStep_refused_malformed_output : ∃ t,
    (dataStep 1 intoUnreadable [.output]).start halfReadable = .ok (.ok (), t) ∧
      t.context.log.map LogEntry.line = #["ERROR: " ++ unreadableText] ∧
      (t.catalog.at? ("LIB", "b")).map (·.columns) = some ["x"] ∧
      halfReadable.catalog.OnlyReads (some ("lib", "b")) t.catalog := by
  have hunavailable : Unavailable intoUnreadable halfReadable (.malformedRecord "d/c.csv" 2) := by
    refine .output (fun m hname => ?_) (by decide +kernel)
    cases hname
    let rows : List Row :=
      [.ofList [("x", .number (.ofNat 2))], .ofList [("x", .number (.ofNat 1))]]
    exact ⟨⟨"b", ["x"], rows⟩, by decide +kernel⟩
  obtain ⟨t, hrun, hsession, hreads⟩ : ∃ t,
      (dataStep 1 intoUnreadable [.output]).start halfReadable = .ok (.ok (), t) ∧ _ :=
    dataStep_refused hunavailable
  have hlog : (halfReadable.context.mapLog (Log.error · (refusal intoUnreadable
      (.malformedRecord "d/c.csv" 2)))).log.map LogEntry.line = #["ERROR: " ++ unreadableText] := by
    decide +kernel
  have hread : ((dataStep 1 intoUnreadable [.output]).start halfReadable).toOption.bind
      (columnsAfter ("LIB", "b")) = some ["x"] := by
    decide +kernel
  refine ⟨t, hrun, ?_, Run.end_eq_some hread hrun, hreads.2 (.inr fun m hname => ?_)⟩
  · exact (congrArg (fun s : Session => s.context.log.map LogEntry.line) hsession).trans hlog
  · cases hname
    decide +kernel

/-- Control: the input of a step is read from the directory of the default library and lost
to the library without the blanks, where it replaces another data set; then it is not found
and the step is refused. -/
theorem not_refused_blanks_around_default :
    let header : StepHeader := ⟨"c", some "b", [], []⟩
    Unavailable header blanksAroundDefault (.datasetNotFound "" "b") ∧
      (blanksAroundDefault.catalog.at? ("W", "b")).map (·.columns) = some ["id", "y"] ∧
      ∃ t, (dataStep 1 header [.output]).start blanksAroundDefault = .ok (.ok (), t) ∧
        (t.catalog.at? ("W", "b")).map (·.columns) = some ["id"] ∧
        ¬ blanksAroundDefault.catalog.OnlyReads (some ("", "b")) t.catalog := by
  intro header
  have hbefore : (blanksAroundDefault.catalog.at? ("W", "b")).map (·.columns) =
      some ["id", "y"] := by
    decide +kernel
  have hread : ((dataStep 1 header [.output]).start blanksAroundDefault).toOption.bind
      (columnsAfter ("W", "b")) = some ["id"] := by
    decide +kernel
  obtain ⟨r, t, hrun, hafter⟩ := Run.exists_start_eq_ok hread
  cases r with
  | error e => cases hafter
  | ok u =>
    refine ⟨.input ("", "b") rfl (by decide +kernel), hbefore, t, hrun, hafter, fun honly => ?_⟩
    -- the data set in memory would have its columns still
    obtain ⟨ds, hds, hcolumns⟩ := Option.map_eq_some_iff.1 hbefore
    have hafter : (t.catalog.at? ("W", "b")).map (·.columns) = some ["id"] := hafter
    rw [honly.untouched _ _ hds, Option.map_some, hcolumns] at hafter
    exact absurd hafter (by decide)

end DataStep.Session
