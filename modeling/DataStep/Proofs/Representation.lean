import DataStep.Proofs.Execution

/-!
# Sessions keep their data sets represented

Data sets are built in many places: by rows that are added and replaced, by clearing, by sorting, by
merges, by PROC SORT with the columns of its input in front, and from delimited files. Each place
keeps the invariant of data sets, whether the statement around it succeeds or fails. Main statement:
every data set of a session that was reached from a new one by statements, programs, and data sets
put in from outside is represented (`Reached.find?_represented`).
-/

set_option autoImplicit false

namespace DataStep

open Run (Law Maintains Obeys Preserves)

namespace Session

/-- Every data set in memory is represented. -/
def Sound (s : Session) : Prop := s.catalog.AllDatasets Dataset.Represented

variable {α : Type} {Q : α → Prop}

/-! ## Parts of runs -/

theorem sound_onContext (act : ContextM α) : Preserves Sound (onContext act) :=
  Maintains.within fun _ _ h => h

theorem sound_mapContext (f : Context → Context) :
    Preserves Sound (modify (mapContext f) : SessionM PUnit) := Maintains.modify fun _ h => h

theorem sound_writeLog (f : Log → Log) : Preserves Sound (writeLog f) :=
  sound_mapContext (Context.mapLog f)

theorem sound_writeListing (lines : List String) : Preserves Sound (writeListing lines) :=
  Maintains.modify fun _ h => h

theorem sound_splitName (qualified : String) : Preserves Sound (splitName qualified) :=
  Maintains.bind Maintains.get fun _ _ => Maintains.pure trivial

/-- Work on the catalog keeps its data sets represented if it puts no others in memory. -/
theorem sound_onCatalog? {f : Catalog → Except LibraryError α × Catalog}
    (hputs : ∀ cat : Catalog, cat.AllDatasets Dataset.Represented →
      cat.Puts Dataset.Represented (f cat).2) : Preserves Sound (onCatalog? f) := by
  intro s r t hs h
  rw [onCatalog?_start] at h
  cases h
  exact ⟨(hputs s.catalog hs).all hs, fun _ _ => trivial⟩

theorem maintains_onCatalog {f : Catalog → Except LibraryError α × Catalog}
    (hputs : ∀ cat : Catalog, cat.AllDatasets Dataset.Represented →
      cat.Puts Dataset.Represented (f cat).2 ∧ ∀ a, (f cat).1 = .ok a → Q a) :
    Maintains Sound Q (onCatalog f) := by
  intro s r t hs h
  obtain ⟨hcat, hQ⟩ := hputs s.catalog hs
  rw [onCatalog, Run.start_bind_of_ok (onCatalog?_start f s)] at h
  cases hf : (f s.catalog).1 with
  | error e =>
    rw [hf] at h
    cases h
    exact ⟨hcat.all hs, fun _ ha => by cases ha⟩
  | ok a =>
    rw [hf] at h
    cases h
    exact ⟨hcat.all hs, fun b hb => Except.ok.inj hb ▸ hQ a hf⟩

theorem sound_onCatalog {f : Catalog → Except LibraryError α × Catalog}
    (hputs : ∀ cat : Catalog, cat.AllDatasets Dataset.Represented →
      cat.Puts Dataset.Represented (f cat).2) : Preserves Sound (onCatalog f) :=
  maintains_onCatalog fun cat hcat => ⟨hputs cat hcat, fun _ _ => trivial⟩

/-- A data set that is asked for is represented. -/
theorem maintains_fetch (libref name : String) : Maintains Sound Dataset.Represented
    (onCatalog fun cat => cat.fetch libref name) :=
  maintains_onCatalog fun cat hcat =>
    ⟨cat.puts_fetch (fun _ h => h) libref name, fun _ h => hcat.fetch (fun _ h => h) h⟩

/-- Changing a data set keeps the data sets represented if the change does so. -/
theorem sound_update {f : Dataset → Dataset}
    (hf : ∀ ds : Dataset, ds.Represented → (f ds).Represented) (libref name : String) :
    Preserves Sound (onCatalog fun cat => cat.update libref name f) :=
  sound_onCatalog fun _ hcat =>
    Catalog.puts_update (fun _ h => h) fun ds hfetch => hf ds (hcat.fetch (fun _ h => h) hfetch)

theorem maintains_dataset (qualified : String) :
    Maintains Sound Dataset.Represented (dataset qualified) :=
  Maintains.bind (sound_splitName qualified) fun (libref, name) _ => maintains_fetch libref name

/-! ## Settings -/

theorem sound_setOptions (settings : List (String × String)) :
    Preserves Sound (setOptions settings) := by
  apply Maintains.forM
  intro (name, value)
  apply Maintains.bind
  · apply Maintains.modify
    intro s hs
    exact hs
  intro _ _
  exact sound_writeLog _

theorem sound_assignLibrary (libref path : String) :
    Preserves Sound (assignLibrary libref path) := by
  apply Maintains.bind
  · apply Maintains.modify
    intro s hs l d ds hfind
    have hold : s.catalog.find? l d = some ds :=
      (Catalog.find?_assign libref path l d).symm.trans hfind
    exact hs l d ds hold
  intro _ _
  apply Maintains.bind Maintains.get
  intro s _
  exact Maintains.ite _ (sound_writeLog _) (sound_writeLog _)

theorem sound_setTitle (text : String) : Preserves Sound (setTitle text) :=
  Maintains.bind (Maintains.modify fun _ h => h) fun _ _ => sound_writeLog _

/-! ## Procedures -/

/-- A sort puts in memory the columns of its input with other rows. -/
theorem sound_sortProc (p : SortProc) : Preserves Sound (sortProc p) := by
  apply Maintains.bind (maintains_dataset p.input)
  intro source hsource
  extract_lets target shown afterSelection
  have hstore : ∀ selected, Preserves Sound (afterSelection selected) := by
    intro selected
    dsimp only [afterSelection]
    -- the two notes on duplicates come or do not come before the result is stored
    refine Maintains.ite _ (Maintains.bind (sound_writeLog _) fun _ _ => ?_) ?_
    all_goals refine Maintains.ite _ (Maintains.bind (sound_writeLog _) fun _ _ => ?_) ?_
    all_goals
      apply Maintains.bind (sound_splitName _)
      intro (libref, name) _
      apply Maintains.bind
      · apply sound_onCatalog
        intro cat _
        dsimp only
        split
        · rename_i stored hinsert
          have hcolumns : (Dataset.mk name source.columns []).columns.Nodup := hsource.columns_nodup
          exact Catalog.Puts.of_insert hinsert (.replaceRows hcolumns _)
        · exact .refl
      intro _ _
      exact sound_writeLog _
  cases p.filter with
  | none =>
    exact Maintains.bind (P := fun _ => True)
      (Maintains.pure trivial) fun selected _ => hstore selected
  | some filter => exact Maintains.bind (sound_onContext _) fun selected _ => hstore selected

theorem sound_meansProc (qualified : String) (vars : List String) :
    Preserves Sound (meansProc qualified vars) := by
  apply Maintains.bind (maintains_dataset qualified)
  intro ds _
  apply Maintains.bind Maintains.get
  intro s _
  apply Maintains.bind (sound_writeListing _)
  intro _ _
  exact sound_writeLog _

theorem sound_printProc (qualified : String) (vars : List String) (limit : Option Nat)
    (withoutNumbers : Bool) : Preserves Sound (printProc qualified vars limit withoutNumbers) := by
  apply Maintains.bind (maintains_dataset qualified)
  intro ds _
  apply Maintains.bind Maintains.get
  intro s _
  apply Maintains.bind (sound_writeListing _)
  intro _ _
  exact sound_writeLog _

theorem sound_procedure (p : Procedure) : Preserves Sound (procedure p) := by
  cases p with
  | sort p => exact sound_sortProc p
  | means dataset vars => exact sound_meansProc dataset vars
  | print dataset vars limit withoutNumbers =>
    exact sound_printProc dataset vars limit withoutNumbers
  | other name => exact Maintains.throw _

/-! ## Merges and DATA steps -/

theorem sound_merge (datasets vars : List String) : Preserves Sound (merge datasets vars) := by
  have hsort : ∀ qualified, Preserves Sound (sortInPlace vars qualified) := by
    intro qualified
    apply Maintains.bind (sound_splitName qualified)
    intro (libref, name) _
    apply Maintains.bind (sound_update (fun ds hds => hds.sorted vars) libref name)
    intro ds _
    exact Maintains.pure trivial
  unfold merge
  extract_lets names afterCheck
  have hmerge : ∀ u, Preserves Sound (afterCheck u) := by
    intro u
    apply Maintains.bind (Maintains.mapM hsort datasets)
    intro inputs _
    cases Merge.mergeRows vars inputs with
    | error e => exact Maintains.throw _
    | ok rows =>
      apply Maintains.bind (sound_writeLog _)
      intro _ _
      exact Maintains.pure trivial
  exact Maintains.ite _
    (Maintains.bind (P := fun _ => True) (Maintains.throw _) fun u _ => hmerge u) (hmerge ())

theorem sound_mergeCurrent (datasets : List String) : Preserves Sound (mergeCurrent datasets) := by
  apply Maintains.bind Maintains.get
  intro s _
  apply Maintains.bind (sound_merge datasets s.byVariables)
  intro rows _
  apply Maintains.bind
  · apply sound_onCatalog
    intro cat hcat
    apply Catalog.puts_updateCurrent
    intro ds hcurrent
    exact .replaceRows (hcat.current hcurrent).columns_nodup rows
  intro _ _
  exact Maintains.pure trivial

theorem sound_mergeIntoOutput (libref name : String) (body : List Statement) :
    Preserves Sound (mergeIntoOutput libref name body) := by
  apply Maintains.bind
  · apply Maintains.forM
    intro stmt
    cases stmt <;> first | exact Maintains.pure trivial | exact Maintains.modify fun _ h => h
  · intro _ _
    apply Maintains.forM
    intro stmt
    cases stmt with
    | merge datasets =>
      apply Maintains.bind Maintains.get
      intro s _
      apply Maintains.bind (sound_merge datasets s.byVariables)
      intro rows _
      apply Maintains.bind
        (sound_update (fun ds hds => .replaceRows hds.columns_nodup rows) libref name)
      intro _ _
      exact Maintains.pure trivial
    | _ => exact Maintains.pure trivial

/-- The input of a step, be it read from a file or not, leaves the data sets represented. -/
theorem sound_inputRows (header : StepHeader) (merges : Bool) :
    Preserves Sound (inputRows header merges) := by
  unfold inputRows
  cases header.input with
  | some input =>
    apply Maintains.bind (sound_splitName input)
    intro (libref, name) _
    apply Maintains.bind
    · exact sound_onCatalog? fun cat _ => cat.puts_fetch (fun _ h => h) libref name
    intro found _
    exact Maintains.pure trivial
  | none =>
    refine Maintains.ite _ (Maintains.pure trivial) ?_
    exact Maintains.ite _ (Maintains.pure trivial) (Maintains.pure trivial)

theorem sound_openOutput (libref name : String) : Preserves Sound (openOutput libref name) := by
  apply sound_onCatalog?
  intro cat _
  have hputs := cat.puts_create (fun _ h => h) libref name
  cases hcreate : cat.create libref name with
  | mk r cat' =>
    rw [hcreate] at hputs
    cases r with
    | error e => exact hputs
    | ok ds => exact hputs.put _ _ (.clear ds)

theorem sound_passRow (passes : Nat) (libref name : String) (body : List Statement) (row : Row) :
    Preserves Sound (passRow passes libref name body row) := by
  apply Maintains.bind Maintains.get
  intro s _
  apply Maintains.bind (sound_onContext (Context.pass passes s.config.maxPasses body row))
  intro out _
  cases out with
  | none => exact Maintains.pure trivial
  | some out =>
    apply Maintains.bind (sound_update (fun ds hds => hds.addRow out) libref name)
    intro _ _
    exact Maintains.pure trivial

theorem sound_reportOutput (libref name : String) : Preserves Sound (reportOutput libref name) := by
  apply Maintains.bind (maintains_fetch libref name)
  intro ds _
  apply Maintains.bind Maintains.get
  intro s _
  apply Maintains.bind (sound_writeListing _)
  intro _ _
  exact sound_writeLog _

/-- **A DATA step keeps the data sets represented, wherever it stops.** -/
theorem sound_dataStep (passes : Nat) (header : StepHeader) (body : List Statement) :
    Preserves Sound (dataStep passes header body) := by
  apply Maintains.bind (sound_splitName header.output)
  intro (libref, name) _
  apply Maintains.bind (sound_inputRows header (body.any isMerge))
  intro found _
  cases found with
  | error e => exact sound_writeLog _
  | ok rows =>
    apply Maintains.bind (sound_openOutput libref name)
    intro opened _
    cases opened with
    | error e => exact sound_writeLog _
    | ok u =>
      apply Maintains.bind (sound_mapContext _)
      intro _ _
      have hrows : Preserves Sound (do
          rows.forM (passRow passes libref name body)
          reportOutput libref name) := by
        apply Maintains.bind (Maintains.forM (sound_passRow passes libref name body) rows)
        intro _ _
        exact sound_reportOutput libref name
      exact Maintains.ite _
        (Maintains.bind (sound_mergeIntoOutput libref name body) fun _ _ => hrows) hrows

end Session

open Session

/-! ## Statements -/

/-- What every statement at the top level does: it keeps the data sets represented. -/
theorem sound_law (passes : Nat) :
    ExecutionLaw passes fun s (_ : List (Statement × Session)) t => Sound s → Sound t where
  refl _ h := h
  trans hst htu h := htu (hst h)
  plain stmt hplain := by
    have hnext : ∀ {act : SessionM Unit}, Preserves Sound act → Preserves Sound (do
        act
        pure Flow.next) := fun hact => Maintains.bind hact fun _ _ => Maintains.pure trivial
    apply Maintains.obeys
    cases stmt with
    | dataStep header body => exact hnext (sound_dataStep passes header body)
    | proc p => exact hnext (sound_procedure p)
    | options settings => exact hnext (sound_setOptions settings)
    | libname libref path => exact hnext (sound_assignLibrary libref path)
    | title text => exact hnext (sound_setTitle text)
    | array name size vars => exact hnext (sound_onContext _)
    | endPass => exact sound_onContext _
    | merge datasets => exact hnext (sound_mergeCurrent datasets)
    | byVariables vars =>
      exact Maintains.bind (Maintains.modify fun _ h => h) fun _ _ => Maintains.pure trivial
    | ifChain => cases hplain
    | conditionalDo => cases hplain
    | _ => exact Maintains.throw _
  log _ _ _ h := h
  leave h := h

namespace Session

theorem sound_run (passes : Nat) (stmt : Statement) : Preserves Sound (run passes stmt) := by
  apply Maintains.bind (sound_mapContext _)
  intro _ _
  have hexecute : Preserves Sound (stmt.execute passes) := by
    intro s r t hs h
    exact ⟨stmt.execute_obeys (sound_law passes) h hs, fun _ _ => trivial⟩
  exact Maintains.bind hexecute fun _ _ => Maintains.pure trivial

theorem sound_runProgram (passes : Nat) (program : Program) :
    Preserves Sound (runProgram passes program) := by
  apply Maintains.forM
  intro stmt
  exact Maintains.tryCatch (sound_run passes stmt) fun e => sound_writeLog _

/-! ## Sessions that are reached -/

/-- A session that arises from a new one. -/
inductive Reached (config : Config) (files : FileTree) : Session → Prop where
  | new (currentDay : Int) : Reached config files (new config files currentDay)
  /-- A statement was executed, whether it failed or not. -/
  | run {s t : Session} {r : Except RunError Unit} (h : Reached config files s) (passes : Nat)
    (stmt : Statement) (hrun : (run passes stmt).start s = .ok (r, t)) : Reached config files t
  /-- A program was executed. -/
  | program {s t : Session} {r : Except RunError Unit} (h : Reached config files s) (passes : Nat)
    (program : Program) (hrun : (runProgram passes program).start s = .ok (r, t)) :
    Reached config files t
  /-- A data set was put in from outside. -/
  | insert {s : Session} {cat : Catalog} (h : Reached config files s) (libref : String)
    {ds : Dataset} (hds : ds.Represented) (hinsert : s.catalog.insert libref ds = .ok cat) :
    Reached config files { s with catalog := cat }

theorem sound_new (config : Config) (files : FileTree) (currentDay : Int) :
    Sound (new config files currentDay) := by
  intro l d ds hfind
  obtain ⟨lib, hlib, hds⟩ := Catalog.exists_library_of_find? hfind
  have hempty : lib = ⟨none, .empty⟩ := by
    have hget : ((OrderedMap.empty : OrderedMap Library).insert (Text.upper config.defaultLibrary)
        ⟨none, .empty⟩).get? l = some lib := hlib
    rw [OrderedMap.get?_insert] at hget
    split at hget
    · exact (Option.some.inj hget).symm
    · cases hget
  rw [hempty] at hds
  cases hds

/-- **Every data set of every library of a session that was reached from a new one is represented:**
no row and no declaration names a column twice, and every column of a row is declared. -/
theorem Reached.find?_represented {config : Config} {files : FileTree} {s : Session}
    (h : Reached config files s) (l d : String) (ds : Dataset)
    (hfind : s.catalog.find? l d = some ds) : ds.Represented := by
  revert l d ds
  -- induction on how the session was reached; every way keeps all its data sets represented
  change Sound s
  induction h with
  | new currentDay => exact sound_new config files currentDay
  | run _ passes stmt hrun ih => exact (sound_run passes stmt ih hrun).1
  | program _ passes program hrun ih => exact (sound_runProgram passes program ih hrun).1
  | insert _ libref hds hinsert ih => exact (Catalog.Puts.of_insert hinsert hds).all ih

/-- A step that copies a data set and fails at a row in which `stop` holds. -/
def failingCopy : Statement := .dataStep ⟨"b", some "a", [], []⟩
  [.assign (.variable "y") (.variable "k"), .output, .ifThen (.variable "stop") [.endPass]]

/-- Control: the output of a step that failed in its second pass has the row of the first
one, and is represented. -/
theorem find?_represented_failingCopy : ∃ t ds, Reached .standard .empty t ∧
    t.catalog.find? "WORK" "b" = some ds ∧ ds.columns = ["k", "y"] ∧
      ds.rows = [.ofList [("k", .text "p"), ("y", .text "p")]] ∧ ds.Represented := by
  let start := new .standard .empty 0
  let input : Dataset := .ofRows "a"
    [.ofList [("k", .text "p")], .ofList [("k", .text "q"), ("stop", .number (.ofNat 1))]]
  let cat := (start.catalog.putNamed "" "a" input).select (start.catalog.libraryKey "") "a"
  have hinput : input.Represented := .replaceRows List.nodup_nil _
  have hinsert : start.catalog.insert "" input = .ok cat :=
    Catalog.insert_eq_ok_iff.2 ⟨by decide +kernel, by decide +kernel⟩
  have hafter : ((run 1 failingCopy).start { start with catalog := cat }).toOption.bind
        (fun result => result.2.catalog.find? "WORK" "b") =
      some ⟨"b", ["k", "y"], [.ofList [("k", .text "p"), ("y", .text "p")]]⟩ := by
    decide +kernel
  obtain ⟨r, t, hrun, hfind⟩ := Run.exists_start_eq_ok hafter
  have hreached : Reached .standard .empty t :=
    .run (.insert (.new 0) "" hinput hinsert) 1 failingCopy hrun
  exact ⟨t, _, hreached, hfind, rfl, rfl, hreached.find?_represented _ _ _ hfind⟩

end Session

end DataStep
