import DataStep.Proofs.Agreement
import DataStep.Proofs.Catalog.Refinement
import DataStep.Proofs.Execution
import DataStep.Proofs.Procedure
import DataStep.Proofs.Step.Agreement

/-!
# Data sets in memory and files

A data set that is in memory is never looked for in a file again. An operation on the catalog does
not read the files (`Catalog.Unread`) if the data set that it names is in memory, and it stays in
memory whatever is done with it. So two sessions that differ in nothing but their files stay so
(`Apart`) through every statement whose data sets are in memory in the beginning, whatever
directories the libraries have by then. Main statement: `run_withFiles`.
-/

set_option autoImplicit false

namespace DataStep

open Run (Agree Same)

/-! ## Catalogs with other files -/

namespace Catalog

variable {α : Type} {cat : Catalog} {files : FileTree} {libref name : String} {ds : Dataset}

/-- The catalog with other files. -/
def withFiles (cat : Catalog) (files : FileTree) : Catalog := { cat with files }

/-- The data set of a name is in memory. -/
def InMemory (cat : Catalog) (m : String × String) : Prop := (cat.named? m.1 m.2).isSome

instance (cat : Catalog) (m : String × String) : Decidable (cat.InMemory m) :=
  inferInstanceAs (Decidable (_ = true))

/-- An operation comes to the same with other files and leaves them alone. -/
def Unread (files : FileTree) (f : Catalog → Except LibraryError α × Catalog)
    (cat : Catalog) : Prop :=
  f (cat.withFiles files) = ((f cat).1, (f cat).2.withFiles files)

theorem put_withFiles (l d : String) :
    (cat.withFiles files).put l d ds = (cat.put l d ds).withFiles files := by
  unfold put
  cases hlib : cat.libraries.get? l <;> simp [withFiles, hlib]

theorem putNamed_withFiles :
    (cat.withFiles files).putNamed libref name ds = (cat.putNamed libref name ds).withFiles files :=
  put_withFiles _ _

theorem select_withFiles (l d : String) :
    (cat.withFiles files).select l d = (cat.select l d).withFiles files := rfl

theorem insert_withFiles :
    (cat.withFiles files).insert libref ds = (cat.insert libref ds).map (·.withFiles files) := by
  have hlib : (cat.withFiles files).hasLibrary libref = cat.hasLibrary libref := rfl
  rw [insert, insert, hlib]
  cases cat.hasLibrary libref with
  | false => rfl
  | true =>
    rw [if_pos rfl, if_pos rfl]
    dsimp only
    rw [put_withFiles, select_withFiles]
    rfl

/-! ## Operations that read no files -/

theorem unread_fetch (h : cat.InMemory (libref, name)) :
    Unread files (fun cat => cat.fetch libref name) cat := by
  obtain ⟨ds, hds⟩ := Option.isSome_iff_exists.1 h
  have hfiles : (cat.withFiles files).named? libref name = some ds := hds
  rw [Unread, fetch_of_named? hds, fetch_of_named? hfiles]

theorem unread_update (h : cat.InMemory (libref, name)) (f : Dataset → Dataset) :
    Unread files (fun cat => cat.update libref name f) cat := by
  obtain ⟨ds, hds⟩ := Option.isSome_iff_exists.1 h
  have hfiles : (cat.withFiles files).named? libref name = some ds := hds
  rw [Unread, update_of_named? hds, update_of_named? hfiles, putNamed_withFiles]

theorem unread_withOutput (h : cat.InMemory (libref, name)) :
    Unread files (fun cat => Session.withOutput cat libref name) cat := by
  obtain ⟨ds, hds⟩ := Option.isSome_iff_exists.1 h
  have hfiles : (cat.withFiles files).named? libref name = some ds := hds
  rw [Unread, Session.withOutput, Session.withOutput, create_of_named? hds, create_of_named? hfiles]
  dsimp only
  rw [select_withFiles, putNamed_withFiles]
  rfl

theorem unread_insert : Unread files (fun cat =>
    match cat.insert libref ds with
    | .ok cat => (.ok (), cat)
    | .error e => (.error e, cat)) cat := by
  unfold Unread
  dsimp only
  rw [insert_withFiles]
  cases cat.insert libref ds <;> rfl

theorem unread_updateCurrent (f : Dataset → Dataset) :
    Unread files (fun cat => cat.updateCurrent f) cat := by
  have hcurrent : (cat.withFiles files).current? = cat.current? := rfl
  have hkeys : (cat.withFiles files).current = cat.current := rfl
  unfold Unread
  dsimp only
  rw [updateCurrent, updateCurrent, hcurrent, hkeys]
  cases cat.current with
  | none => rfl
  | some k =>
    cases cat.current? with
    | error e => rfl
    | ok ds =>
      dsimp only
      rw [put_withFiles]

end Catalog

namespace Session

/-! ## Sessions with other files -/

/-- The session with other files. -/
def withFiles (s : Session) (files : FileTree) : Session := s.mapCatalog (·.withFiles files)

/-- The data set of a qualified name is in memory. -/
def InMemory (s : Session) (qualified : String) : Prop :=
  s.catalog.InMemory (s.config.splitName qualified)

instance (s : Session) (qualified : String) : Decidable (s.InMemory qualified) :=
  inferInstanceAs (Decidable (s.catalog.InMemory _))

/-- Two sessions with these settings that differ in their files only. The data sets of some
qualified names are in memory. -/
structure Apart (config : Config) (files : FileTree) (P : String → Prop)
    (s s' : Session) : Prop where
  config_eq : s.config = config
  other_eq : s' = s.withFiles files
  inMemory : ∀ qualified, P qualified → s.catalog.InMemory (config.splitName qualified)

section Parts

variable {config : Config} {files : FileTree} {P : String → Prop} {α : Type}

/-- A run does not find out in which of two sessions it was started. -/
abbrev Indifferent (config : Config) (files : FileTree) (P : String → Prop)
    (act : SessionM α) : Prop :=
  Agree (Apart config files P) act act

theorem indifferent_modify {change : Session → Session}
    (hconfig : ∀ s, (change s).config = s.config) (hcatalog : ∀ s, (change s).catalog = s.catalog)
    (hfiles : ∀ s, change (s.withFiles files) = (change s).withFiles files) :
    Indifferent config files P (modify change) := by
  apply Agree.modify
  rintro s _ ⟨hs, rfl, hmem⟩
  exact ⟨(hconfig s).trans hs, hfiles s, fun qualified hq => hcatalog s ▸ hmem qualified hq⟩

theorem indifferent_onContext (act : ContextM α) : Indifferent config files P (onContext act) := by
  apply Agree.within (Agree.eq act)
  · rintro s _ ⟨-, rfl, -⟩
    rfl
  · rintro s _ ctx _ ⟨hs, rfl, hmem⟩ rfl
    exact ⟨hs, rfl, hmem⟩

/-- An operation on the catalog that reads no files where the data sets are in memory. Data sets in
memory stay there, since it only puts data sets in memory. -/
theorem indifferent_onCatalog? {f : Catalog → Except LibraryError α × Catalog}
    (hunread : ∀ cat : Catalog,
      (∀ qualified, P qualified → cat.InMemory (config.splitName qualified)) → cat.Unread files f)
    (hputs : ∀ cat : Catalog, cat.Puts (fun _ => True) (f cat).2) :
    Indifferent config files P (onCatalog? f) := by
  apply Agree.result
  rintro s _ ⟨hs, rfl, hmem⟩
  have hcat : f (s.catalog.withFiles files) = ((f s.catalog).1, (f s.catalog).2.withFiles files) :=
    hunread s.catalog hmem
  refine ⟨?_, hs, ?_, fun qualified hq => ?_⟩
  · exact congrArg (fun result => Except.ok result.1) hcat.symm
  · exact congrArg (fun result => { s with catalog := result.2 }) hcat
  · have hputs := hputs s.catalog
    have hstays := hputs.stays (hmem qualified hq)
    rwa [← hputs.sameSources.libraryKey_eq] at hstays

theorem indifferent_onCatalog {f : Catalog → Except LibraryError α × Catalog}
    (hunread : ∀ cat : Catalog,
      (∀ qualified, P qualified → cat.InMemory (config.splitName qualified)) → cat.Unread files f)
    (hputs : ∀ cat : Catalog, cat.Puts (fun _ => True) (f cat).2) :
    Indifferent config files P (onCatalog f) := by
  apply Agree.bind (indifferent_onCatalog? hunread hputs)
  intro r
  cases r with
  | ok a => exact .pure a
  | error e => exact .throw _

theorem indifferent_writeLog (f : Log → Log) : Indifferent config files P (writeLog f) :=
  indifferent_modify (fun _ => rfl) (fun _ => rfl) fun _ => rfl

theorem indifferent_writeListing (lines : List String) :
    Indifferent config files P (writeListing lines) :=
  indifferent_modify (fun _ => rfl) (fun _ => rfl) fun _ => rfl

/-- What is read of a session besides its files is the same in both. -/
theorem indifferent_get_bind {next : Session → SessionM α}
    (h : ∀ s, Agree (Apart config files P) (next s) (next (s.withFiles files))) :
    Indifferent config files P (get >>= next) := by
  apply Agree.get_bind
  rintro s _ ⟨-, rfl, -⟩
  exact h s

section Named

variable {qualified libref name : String} (hq : P qualified)
    (hname : config.splitName qualified = (libref, name))

include hq hname

theorem indifferent_fetch :
    Indifferent config files P (onCatalog fun cat => cat.fetch libref name) :=
  indifferent_onCatalog (fun _ hmem => Catalog.unread_fetch (hname ▸ hmem qualified hq)) fun cat =>
    cat.puts_fetch (fun _ _ => trivial) libref name

theorem indifferent_update (f : Dataset → Dataset) :
    Indifferent config files P (onCatalog fun cat => cat.update libref name f) :=
  indifferent_onCatalog (fun _ hmem => Catalog.unread_update (hname ▸ hmem qualified hq) f) fun _ =>
    Catalog.puts_update (fun _ _ => trivial) fun _ _ => trivial

end Named

/-- What a step does comes to the same with other files if the data sets that it
asks for are in memory. -/
theorem apart_stepRelation : StepRelation (Apart config files P) P fun libref name =>
    ∃ qualified, P qualified ∧ config.splitName qualified = (libref, name) where
  config_eq := by
    rintro s _ ⟨-, rfl, -⟩
    rfl
  title_eq := by
    rintro s _ ⟨-, rfl, -⟩
    rfl
  byVariables_eq := by
    rintro s _ ⟨-, rfl, -⟩
    rfl
  named hR qualified hq := ⟨qualified, hq, hR.config_eq ▸ rfl⟩
  note _ := indifferent_writeLog _
  list := indifferent_writeListing
  setBy _ := indifferent_modify (fun _ => rfl) (fun _ => rfl) fun _ => rfl
  fetch := fun ⟨_, hq, hname⟩ => indifferent_fetch hq hname
  update := fun ⟨_, hq, hname⟩ => indifferent_update hq hname

theorem indifferent_splitName_bind {next : String × String → SessionM α} {qualified : String}
    (h : Indifferent config files P (next (config.splitName qualified))) :
    Indifferent config files P (splitName qualified >>= next) :=
  apart_stepRelation.splitName_bind fun _ _ hR => hR.config_eq.symm ▸ h

/-- Looking up a data set that is in memory. -/
theorem indifferent_dataset {qualified : String} (hq : P qualified) :
    Indifferent config files P (dataset qualified) := by
  apply indifferent_splitName_bind
  generalize hname : config.splitName qualified = named
  obtain ⟨libref, name⟩ := named
  exact indifferent_fetch hq hname

/-! ## Procedures -/

theorem indifferent_storeSorted (p : SortProc) (source : Dataset) (selected : List Row) :
    Indifferent config files P (storeSorted p source selected) := by
  apply indifferent_splitName_bind
  generalize config.splitName p.target = named
  obtain ⟨libref, name⟩ := named
  refine .bind (indifferent_onCatalog (fun _ _ => Catalog.unread_insert) fun cat => ?_) fun _ =>
    indifferent_writeLog _
  -- a data set is stored, or nothing is done
  split
  case h_1 stored hinsert => exact .of_insert hinsert trivial
  case h_2 => exact .refl

/-- The target of a sort is not looked up. -/
theorem indifferent_sortProc {p : SortProc} (hq : P p.input) :
    Indifferent config files P (sortProc p) := by
  rw [sortProc_eq]
  apply Agree.bind (indifferent_dataset hq)
  intro source
  apply Agree.bind (indifferent_onContext _)
  intro selected
  have hstore : Indifferent config files P (storeSorted p source selected) :=
    indifferent_storeSorted p source selected
  unfold finishSort
  cases p.reportDuplicates <;> cases p.dropDuplicates
  · exact hstore
  · exact .bind (indifferent_writeLog _) fun _ => hstore
  · exact .bind (indifferent_writeLog _) fun _ => hstore
  · exact .bind (indifferent_writeLog _) fun _ => .bind (indifferent_writeLog _) fun _ => hstore

theorem indifferent_meansProc {qualified : String} (vars : List String) (hq : P qualified) :
    Indifferent config files P (meansProc qualified vars) := by
  apply Agree.bind (indifferent_dataset hq)
  intro ds
  apply indifferent_get_bind
  intro s
  exact .bind (indifferent_writeListing _) fun _ => indifferent_writeLog _

theorem indifferent_printProc {qualified : String} (vars : List String) (limit : Option Nat)
    (withoutNumbers : Bool) (hq : P qualified) :
    Indifferent config files P (printProc qualified vars limit withoutNumbers) := by
  apply Agree.bind (indifferent_dataset hq)
  intro ds
  apply indifferent_get_bind
  intro s
  exact .bind (indifferent_writeListing _) fun _ => indifferent_writeLog _

theorem indifferent_procedure {p : Procedure} (hq : ∀ source, p.source? = some source → P source) :
    Indifferent config files P (procedure p) := by
  cases p with
  | sort p => exact indifferent_sortProc (hq p.input rfl)
  | means qualified vars => exact indifferent_meansProc vars (hq qualified rfl)
  | print qualified vars limit withoutNumbers =>
    exact indifferent_printProc vars limit withoutNumbers (hq qualified rfl)
  | other name => exact .throw _

/-! ## Merges -/

theorem indifferent_mergeCurrent {datasets : List String} (hq : ∀ d ∈ datasets, P d) :
    Indifferent config files P (mergeCurrent datasets) := by
  apply indifferent_get_bind
  intro s
  apply Agree.bind (apart_stepRelation.merge s.byVariables hq)
  intro rows
  apply Agree.bind (indifferent_onCatalog (fun _ _ => Catalog.unread_updateCurrent _) fun _ => ?_)
  · intro ds
    exact .pure _
  · exact Catalog.puts_updateCurrent fun _ _ => trivial

/-! ## DATA steps -/

section Step

variable {libref name : String} {header : StepHeader} {body : List Statement}

theorem indifferent_inputRows (merges : Bool) (hq : ∀ input, header.input = some input → P input) :
    Indifferent config files P (inputRows header merges) := by
  unfold inputRows
  cases hinput : header.input with
  | none =>
    refine .ite _ (.pure _) ?_
    exact .ite _ (.pure _) (.pure _)
  | some input =>
    apply indifferent_splitName_bind
    generalize hname : config.splitName input = named
    obtain ⟨libref, name⟩ := named
    refine .bind ?_ fun _ => .pure _
    exact indifferent_onCatalog?
      (fun _ hmem => Catalog.unread_fetch (hname ▸ hmem input (hq input hinput)))
      fun cat => cat.puts_fetch (fun _ _ => trivial) libref name

theorem indifferent_openOutput (hq : P header.output)
    (hname : config.splitName header.output = (libref, name)) :
    Indifferent config files P (openOutput libref name) :=
  indifferent_onCatalog? (fun _ hmem => Catalog.unread_withOutput (hname ▸ hmem header.output hq))
    fun _ => puts_withOutput rfl

theorem indifferent_dataStep (passes : Nat) (houtput : P header.output)
    (hinput : ∀ input, header.input = some input → P input)
    (hmerges : ∀ datasets ∈ Statement.mergesOf body, ∀ d ∈ datasets, P d) :
    Indifferent config files P (dataStep passes header body) := by
  apply indifferent_splitName_bind
  generalize hname : config.splitName header.output = named
  obtain ⟨libref, name⟩ := named
  dsimp only
  have hrefuse : ∀ e, Indifferent config files P (refuse header e) :=
    fun e => indifferent_writeLog _
  apply Agree.bind (indifferent_inputRows _ hinput)
  intro found
  cases found with
  | error e => exact hrefuse e
  | ok rows =>
    apply Agree.bind (indifferent_openOutput houtput hname)
    rintro (e | ⟨⟩)
    · exact hrefuse e
    · have hreset : Indifferent config files P (modify (mapContext resetContext)) :=
        indifferent_modify (fun _ => rfl) (fun _ => rfl) fun _ => rfl
      apply Agree.bind hreset
      intro _
      exact apart_stepRelation.afterReset ⟨header.output, houtput, hname⟩ hmerges fun _ _ =>
        indifferent_onContext _

end Step

/-! ## Settings -/

theorem indifferent_setOptions (settings : List (String × String)) :
    Indifferent config files P (setOptions settings) := by
  apply Agree.forM
  rintro ⟨name, value⟩ -
  refine .bind ?_ fun _ => indifferent_writeLog _
  exact indifferent_modify (fun _ => rfl) (fun _ => rfl) fun _ => rfl

theorem indifferent_setTitle (text : String) : Indifferent config files P (setTitle text) := by
  refine .bind ?_ fun _ => indifferent_writeLog _
  exact indifferent_modify (fun _ => rfl) (fun _ => rfl) fun _ => rfl

end Parts

end Session

/-! ## Statements -/

namespace Statement

open Session (Apart Indifferent indifferent_onContext indifferent_modify)

mutual

/-- Every data set that a statement looks up by its name has a property, and no library is given
another directory on the way. -/
def NamesOnly (P : String → Prop) : Statement → Prop
  | .dataStep header body =>
    P header.output ∧ (∀ input, header.input = some input → P input) ∧
      ∀ datasets ∈ mergesOf body, ∀ d ∈ datasets, P d
  | .proc p => ∀ source, p.source? = some source → P source
  | .merge datasets => ∀ d ∈ datasets, P d
  | .libname .. => False
  | .ifChain _ body elseIfs otherwise =>
    NamesOnlyAll P body ∧ NamesOnlyArms P elseIfs ∧ NamesOnlyAll P otherwise
  | .conditionalDo _ _ body => body.NamesOnly P
  | _ => True

/-- `NamesOnly` of every statement of a list. -/
def NamesOnlyAll (P : String → Prop) : List Statement → Prop
  | [] => True
  | stmt :: rest => stmt.NamesOnly P ∧ NamesOnlyAll P rest

/-- `NamesOnly` of every statement of the arms of a condition. -/
def NamesOnlyArms (P : String → Prop) : List (Expr × List Statement) → Prop
  | [] => True
  | (_, body) :: arms => NamesOnlyAll P body ∧ NamesOnlyArms P arms

end

variable {config : Config} {files : FileTree} {P : String → Prop}

/-- A loop at the top level comes to the same if its body does. -/
theorem indifferent_conditionalDo (passes : Nat) (kind : LoopKind) (condition : Option Expr)
    {body : Statement} (hbody : Indifferent config files P (body.execute passes)) :
    Indifferent config files P ((conditionalDo kind condition body).execute passes) := by
  have hcontext : ∀ change : Context → Context,
      ∀ s t, Apart config files P s t →
        Apart config files P (s.mapContext change) (t.mapContext change) := by
    rintro change s _ ⟨hs, rfl, hmem⟩
    exact ⟨hs, rfl, hmem⟩
  have hround : ∀ limit,
      Indifferent config files P (topLoop passes limit kind condition body).round := by
    intro limit
    apply Agree.bind (indifferent_onContext _)
    intro more
    refine .ite more (.bind (.bind hbody fun flow => ?_) fun _ => .pure _) (.pure _)
    exact Agree.modify (hcontext Context.countPass)
  rw [execute_conditionalDo]
  apply Session.indifferent_get_bind
  intro s
  refine .bind ?_ fun _ => .pure _
  exact ((hround s.config.maxPasses).iterate passes).bracket (hcontext _) (hcontext _)

mutual

/-- **A statement at the top level does not find out what the files are** if the data sets that it
looks up are in memory. -/
theorem indifferent_execute (passes : Nat) :
    ∀ stmt : Statement, stmt.NamesOnly P → Indifferent config files P (stmt.execute passes)
  | .dataStep header body, h => by
    rw [NamesOnly] at h
    exact .bind (Session.indifferent_dataStep passes h.1 h.2.1 h.2.2) fun _ => .pure _
  | .proc p, h => by
    rw [NamesOnly] at h
    exact .bind (Session.indifferent_procedure h) fun _ => .pure _
  | .merge datasets, h => by
    rw [NamesOnly] at h
    exact .bind (Session.indifferent_mergeCurrent h) fun _ => .pure _
  | .libname libref path, h => by
    rw [NamesOnly] at h
    exact h.elim
  | .ifChain condition body elseIfs otherwise, h => by
    rw [NamesOnly] at h
    obtain ⟨hbody, harms, hotherwise⟩ := h
    rw [execute]
    apply Agree.bind (indifferent_onContext _)
    intro holds
    refine .ite holds (indifferent_executeAll passes body hbody) ?_
    exact indifferent_executeArms passes
      (indifferent_executeAll passes otherwise hotherwise) elseIfs harms
  | .conditionalDo kind condition body, h => by
    rw [NamesOnly] at h
    exact indifferent_conditionalDo passes kind condition (indifferent_execute passes body h)
  | .options settings, _ => .bind (Session.indifferent_setOptions settings) fun _ => .pure _
  | .title text, _ => .bind (Session.indifferent_setTitle text) fun _ => .pure _
  | .array .., _ => .bind (indifferent_onContext _) fun _ => .pure _
  | .byVariables .., _ =>
    .bind (indifferent_modify (fun _ => rfl) (fun _ => rfl) fun _ => rfl) fun _ => .pure _
  | .endPass, _ => indifferent_onContext _
  | .assign .., _ => .throw _
  | .output, _ => .throw _
  | .drop .., _ => .throw _
  | .keep .., _ => .throw _
  | .retain .., _ => .throw _
  | .ifThen .., _ => .throw _
  | .countedDo .., _ => .throw _
  | .block .., _ => .throw _

theorem indifferent_executeAll (passes : Nat) :
    ∀ stmts : List Statement, NamesOnlyAll P stmts →
      Indifferent config files P (executeAll passes stmts)
  | [], _ => by
    rw [executeAll]
    exact .pure _
  | stmt :: rest, h => by
    rw [NamesOnlyAll] at h
    rw [executeAll]
    apply Agree.bind (indifferent_execute passes stmt h.1)
    intro flow
    cases flow with
    | next => exact indifferent_executeAll passes rest h.2
    | endOfPass => exact .pure _

theorem indifferent_executeArms (passes : Nat) {otherwise : SessionM Flow}
    (hotherwise : Indifferent config files P otherwise) :
    ∀ arms : List (Expr × List Statement), NamesOnlyArms P arms →
      Indifferent config files P (executeArms passes otherwise arms)
  | [], _ => by
    rw [executeArms]
    exact hotherwise
  | (condition, body) :: arms, h => by
    rw [NamesOnlyArms] at h
    rw [executeArms]
    apply Agree.bind (indifferent_onContext _)
    intro holds
    exact .ite holds (indifferent_executeAll passes body h.1)
      (indifferent_executeArms passes hotherwise arms h.2)

end

end Statement

namespace Session

/-- **Once in memory, a data set no longer depends on the files.** A statement whose data
sets are all in memory halts alike with any other files, or it ends with the same result,
catalog, log and listing. -/
theorem run_withFiles (passes : Nat) {stmt : Statement} {s : Session}
    (h : stmt.NamesOnly s.InMemory) (files : FileTree) :
    Same (fun t t' => t' = t.withFiles files) ((run passes stmt).start s)
      ((run passes stmt).start (s.withFiles files)) := by
  have hrun : Indifferent s.config files s.InMemory (run passes stmt) := by
    refine .bind ?_ fun _ => .bind (Statement.indifferent_execute passes stmt h) fun _ => .pure _
    exact indifferent_modify (fun _ => rfl) (fun _ => rfl) fun _ => rfl
  exact (hrun ⟨rfl, rfl, fun _ hmem => hmem⟩).mono fun _ _ hapart => hapart.other_eq

/-- A session with a data set that was read from the directory of a library. The library has another
directory by now, with another data set of that name. -/
def reassignedLibrary : Session :=
  let s := holding .standard "a" []
  s.mapCatalog fun cat =>
    let files := .ofList [("d/b.csv", "x\n1\n"), ("e/b.csv", "y\n2\n")]
    (((cat.withFiles files).assign "lib" "d").fetch "lib" "b").2.assign "lib" "e"

/-- Control: a step copies the data set in memory, with both files there and with none. -/
theorem run_withFiles_reassigned :
    let step : Statement := .dataStep ⟨"a", some "lib.b", [], []⟩ [.output]
    step.NamesOnly reassignedLibrary.InMemory ∧
      ∃ t, (run 1 step).start reassignedLibrary = .ok (.ok (), t) ∧
        (t.catalog.at? ("WORK", "a")).map (·.columns) = some ["x"] ∧
        (run 1 step).start (reassignedLibrary.withFiles .empty) =
          .ok (.ok (), t.withFiles .empty) := by
  intro step
  have houtput : reassignedLibrary.InMemory "a" := by decide +kernel
  have hinput : reassignedLibrary.InMemory "lib.b" := by decide +kernel
  have hnames : step.NamesOnly reassignedLibrary.InMemory := by
    rw [Statement.NamesOnly]
    refine ⟨houtput, fun input h => ?_, fun datasets h => nomatch h⟩
    cases h
    exact hinput
  have hcopied : ((run 1 step).start reassignedLibrary).toOption.bind (fun result =>
      result.1.toOption.bind fun _ => (result.2.catalog.at? ("WORK", "a")).map (·.columns)) =
      some ["x"] := by decide +kernel
  obtain ⟨r, t, hrun, hcolumns⟩ := Run.exists_start_eq_ok hcopied
  have hsame := run_withFiles 1 hnames .empty
  rw [hrun] at hsame
  obtain ⟨t', hrun', rfl⟩ := hsame.of_ok
  cases r with
  | error e => cases hcolumns
  | ok _ => exact ⟨hnames, t, hrun, hcolumns, hrun'⟩

end Session

end DataStep
