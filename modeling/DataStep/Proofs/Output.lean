import DataStep.Proofs.Execution
import DataStep.Proofs.Pass
import DataStep.Proofs.Sort.Procedure
import Mathlib.Data.List.Infix

/-!
# Log and listing

Whatever runs in a session writes behind what its log and its listing hold already. DATA steps and
procedures list what they have to list at their end, where nothing can fail any more (`ListsLast`),
so one that fails has listed nothing. Main statements: every statement appends
(`Session.appends_run`), and a DATA step or a procedure that fails leaves the listing
(`Session.listing_of_run_eq_error`).
-/

set_option autoImplicit false

namespace DataStep

open Run (Law Maintains Obeys Preserves silent)

theorem Log.Extends.isPrefix {allowed : Severity → Prop} {a b : Log} (h : Log.Extends allowed a b) :
    a.toList <+: b.toList := by
  obtain ⟨es, hb, -⟩ := h
  exact ⟨es, hb.symm⟩

/-! ## Runs on the context -/

namespace Context

variable {α : Type}

/-- A run on the context writes behind what the log holds. -/
abbrev Logging (act : ContextM α) : Prop :=
  Obeys (fun s (_ : List Empty) t => s.log.toList <+: t.log.toList) act silent

theorem loggingLaw : Law fun (s : Context) (_ : List Empty) t => s.log.toList <+: t.log.toList :=
  ⟨fun _ => List.prefix_rfl, fun hst htu => hst.trans htu⟩

/-- What has the effect of statements writes behind what the log holds. -/
theorem logging_of_effect {act : ContextM α} {trace : Run.Trace Context Statement}
    (h : Obeys Effect act trace) : Logging act := fun _ _ _ hs => (h hs).log_unnoted.isPrefix

theorem logging_pass (passes limit : Nat) (body : List Statement) (row : Row) :
    Logging (pass passes limit body row) := by
  apply Obeys.bind_then_silent loggingLaw
  · apply Obeys.modify
    intro s
    exact List.prefix_rfl
  intro _
  apply Obeys.bind_then_silent loggingLaw
    (logging_of_effect (Statement.performAll_effect passes limit body))
  intro _
  apply Obeys.bind_then_silent loggingLaw
  · apply Obeys.modify
    intro s
    obtain ⟨row', saved, hfinish⟩ := exists_finishPass_eq s
    rw [hfinish]
  intro _
  apply Obeys.bind_then_silent loggingLaw (Obeys.get loggingLaw)
  intro ctx
  exact Obeys.pure loggingLaw _

end Context

namespace Session

open Context (Logging)

variable {α β : Type} {s₀ : Session}

/-- A selection of rows has the effect of no statement. -/
theorem selectRows_effect (filter : Expr) (rows : List Row) :
    Obeys Effect (selectRows filter rows) silent := by
  induction rows with
  | nil => exact Obeys.pure Effect.law _
  | cons row rows ih =>
    apply Obeys.bind_then_silent Effect.law
    · apply Obeys.bind_then_silent Effect.law (Context.mapRow_effect _)
      intro _
      apply Obeys.bind_then_silent Effect.law (Context.evaluate_effect filter)
      intro v
      cases selects v with
      | true => exact Obeys.bind_then_silent Effect.law (Context.mapRow_effect _) fun _ =>
        Obeys.pure Effect.law _
      | false => exact Obeys.pure Effect.law _
    intro selected
    exact Obeys.bind_then_silent Effect.law ih fun _ => Obeys.pure Effect.law _

/-! ## What is written stays -/

/-- What the log and the listing of the first session hold is in front in those of the second. -/
structure Appends (s t : Session) : Prop where
  log : s.context.log.toList <+: t.context.log.toList
  listing : s.listing.toList <+: t.listing.toList

/-- What the log of the first session holds is in front in that of the second,
and nothing was listed. -/
structure Quiet (s t : Session) : Prop where
  log : s.context.log.toList <+: t.context.log.toList
  listing_eq : t.listing = s.listing

theorem Appends.refl (s : Session) : s.Appends s := ⟨List.prefix_rfl, List.prefix_rfl⟩

theorem Appends.trans {s t u : Session} (hst : s.Appends t) (htu : t.Appends u) : s.Appends u :=
  ⟨hst.log.trans htu.log, hst.listing.trans htu.listing⟩

theorem Quiet.refl (s : Session) : s.Quiet s := ⟨List.prefix_rfl, rfl⟩

theorem Quiet.appends {s t : Session} (h : s.Quiet t) : s.Appends t :=
  ⟨h.log, h.listing_eq ▸ List.prefix_rfl⟩

/-! ## Parts of runs that list nothing -/

theorem quiet_get : Preserves s₀.Quiet (get : SessionM Session) := by
  intro s r t hs hrun
  cases hrun
  exact ⟨hs, fun _ _ => trivial⟩

theorem quiet_onContext {act : ContextM α} (h : Logging act) :
    Preserves s₀.Quiet (onContext act) := by
  intro s r t hs hrun
  obtain ⟨ctx, hctx, rfl⟩ := onContext_start_eq_ok.1 hrun
  exact ⟨⟨hs.log.trans (h hctx), hs.listing_eq⟩, fun _ _ => trivial⟩

/-- A change of the context that leaves its log. -/
theorem quiet_mapContext {f : Context → Context} (hf : ∀ ctx, (f ctx).log = ctx.log) :
    Preserves s₀.Quiet (modify (mapContext f) : SessionM PUnit) := by
  apply Maintains.modify
  intro s hs
  exact ⟨(hf s.context).symm ▸ hs.log, hs.listing_eq⟩

theorem quiet_push (entry : LogEntry) : Preserves s₀.Quiet (writeLog (Array.push · entry)) := by
  apply Maintains.modify
  intro s hs
  exact ⟨hs.log.trans ⟨[entry], by simp [mapContext, Context.mapLog]⟩, hs.listing_eq⟩

theorem quiet_note (message : String) : Preserves s₀.Quiet (note message) :=
  quiet_push ⟨.note, message⟩

theorem quiet_warning (message : String) : Preserves s₀.Quiet (warning message) :=
  quiet_push ⟨.warning, message⟩

theorem quiet_error (message : String) : Preserves s₀.Quiet (error message) :=
  quiet_push ⟨.error, message⟩

theorem quiet_onCatalog? (f : Catalog → Except LibraryError α × Catalog) :
    Preserves s₀.Quiet (onCatalog? f) := by
  intro s r t hs hrun
  rw [onCatalog?_start] at hrun
  cases hrun
  exact ⟨⟨hs.log, hs.listing_eq⟩, fun _ _ => trivial⟩

theorem quiet_onCatalog (f : Catalog → Except LibraryError α × Catalog) :
    Preserves s₀.Quiet (onCatalog f) := by
  apply Maintains.bind (quiet_onCatalog? f)
  intro r _
  cases r with
  | ok a => exact Maintains.pure trivial
  | error e => exact Maintains.throw _

theorem quiet_splitName (qualified : String) : Preserves s₀.Quiet (splitName qualified) :=
  Maintains.bind Maintains.get fun _ _ => Maintains.pure trivial

theorem quiet_dataset (qualified : String) : Preserves s₀.Quiet (dataset qualified) :=
  Maintains.bind (quiet_splitName qualified) fun _ _ => quiet_onCatalog _

/-! ## Settings -/

theorem quiet_setOptions (settings : List (String × String)) :
    Preserves s₀.Quiet (setOptions settings) := by
  apply Maintains.forM
  intro (name, value)
  apply Maintains.bind (Maintains.modify fun _ hs => ⟨hs.log, hs.listing_eq⟩)
  intro _ _
  exact quiet_note _

theorem quiet_assignLibrary (libref path : String) :
    Preserves s₀.Quiet (assignLibrary libref path) := by
  apply Maintains.bind (Maintains.modify fun _ hs => ⟨hs.log, hs.listing_eq⟩)
  intro _ _
  apply Maintains.bind Maintains.get
  intro s _
  exact Maintains.ite _ (quiet_note _) (quiet_warning _)

theorem quiet_setTitle (text : String) : Preserves s₀.Quiet (setTitle text) :=
  Maintains.bind (Maintains.modify fun _ hs => ⟨hs.log, hs.listing_eq⟩) fun _ _ => quiet_note _

/-! ## Sorts and merges -/

theorem quiet_sortProc (p : SortProc) : Preserves s₀.Quiet (sortProc p) := by
  rw [sortProc_eq]
  apply Maintains.bind (quiet_dataset p.input)
  intro source _
  apply Maintains.bind
  · unfold selection
    cases p.filter with
    | none => exact quiet_onContext (Obeys.pure Context.loggingLaw _)
    | some filter =>
      exact quiet_onContext (Context.logging_of_effect (selectRows_effect filter source.rows))
  intro selected _
  have hstore : Preserves s₀.Quiet (storeSorted p source selected) := by
    apply Maintains.bind (quiet_splitName p.target)
    intro named _
    exact Maintains.bind (quiet_onCatalog _) fun _ _ => quiet_note _
  -- the two notes on duplicates come or do not come before the result is stored
  unfold finishSort
  refine Maintains.ite _ (Maintains.bind (quiet_note _) fun _ _ => ?_) ?_
  all_goals exact Maintains.ite _ (Maintains.bind (quiet_note _) fun _ _ => hstore) hstore

theorem quiet_merge (datasets vars : List String) : Preserves s₀.Quiet (merge datasets vars) := by
  have hsort : ∀ qualified, Preserves s₀.Quiet (sortInPlace vars qualified) := by
    intro qualified
    apply Maintains.bind (quiet_splitName qualified)
    intro named _
    exact Maintains.bind (quiet_onCatalog _) fun _ _ => Maintains.pure trivial
  unfold merge
  extract_lets names afterCheck
  have hmerge : ∀ u, Preserves s₀.Quiet (afterCheck u) := by
    intro u
    apply Maintains.bind (Maintains.mapM hsort datasets)
    intro inputs _
    cases Merge.mergeRows vars inputs with
    | error e => exact Maintains.throw _
    | ok rows => exact Maintains.bind (quiet_note _) fun _ _ => Maintains.pure trivial
  exact Maintains.ite _
    (Maintains.bind (P := fun _ => True) (Maintains.throw _) fun u _ => hmerge u) (hmerge ())

/-- Merging data sets into one of them. -/
theorem quiet_mergeInto (datasets vars : List String)
    (replace : List Row → Catalog → Except LibraryError Dataset × Catalog) :
    Preserves s₀.Quiet (do
      let rows ← merge datasets vars
      let _ ← onCatalog (replace rows)) := by
  apply Maintains.bind (quiet_merge datasets vars)
  intro rows _
  exact Maintains.bind (quiet_onCatalog _) fun _ _ => Maintains.pure trivial

theorem quiet_mergeCurrent (datasets : List String) : Preserves s₀.Quiet (mergeCurrent datasets) :=
  Maintains.bind Maintains.get fun _ _ => quiet_mergeInto datasets _ _

theorem quiet_mergeIntoOutput (libref name : String) (body : List Statement) :
    Preserves s₀.Quiet (mergeIntoOutput libref name body) := by
  apply Maintains.bind
  · apply Maintains.forM
    intro stmt
    cases stmt <;> first
      | exact Maintains.pure trivial
      | exact Maintains.modify fun _ hs => ⟨hs.log, hs.listing_eq⟩
  · intro _ _
    apply Maintains.forM
    intro stmt
    cases stmt <;> first
      | exact Maintains.pure trivial
      | exact Maintains.bind Maintains.get fun _ _ => quiet_mergeInto _ _ _

theorem quiet_passRow (passes : Nat) (libref name : String) (body : List Statement) (row : Row) :
    Preserves s₀.Quiet (passRow passes libref name body row) := by
  apply Maintains.bind Maintains.get
  intro s _
  apply Maintains.bind (quiet_onContext (Context.logging_pass passes s.config.maxPasses body row))
  intro out _
  cases out with
  | none => exact Maintains.pure trivial
  | some out => exact Maintains.bind (quiet_onCatalog _) fun _ _ => Maintains.pure trivial

theorem quiet_inputRows (header : StepHeader) (merges : Bool) :
    Preserves s₀.Quiet (inputRows header merges) := by
  unfold inputRows
  cases header.input with
  | some input =>
    apply Maintains.bind (quiet_splitName input)
    intro named _
    exact Maintains.bind (quiet_onCatalog? _) fun _ _ => Maintains.pure trivial
  | none =>
    refine Maintains.ite _ (Maintains.pure trivial) ?_
    exact Maintains.ite _ (Maintains.pure trivial) (Maintains.pure trivial)

/-! ## Runs that list at their end -/

/-- A run writes behind what the log and the listing hold, and if it fails it has listed nothing. -/
def ListsLast (act : SessionM α) : Prop :=
  ∀ ⦃s r t⦄, act.start s = .ok (r, t) → s.Appends t ∧ ∀ e, r = .error e → t.listing = s.listing

theorem quiet_of_preserves {act : SessionM α}
    (h : ∀ s : Session, Preserves s.Quiet act) {s t : Session}
    {r : Except RunError α} (hrun : act.start s = .ok (r, t)) : s.Quiet t :=
      (h s (Quiet.refl s) hrun).1

namespace ListsLast

variable {act : SessionM α} {f : α → SessionM β}

theorem of_quiet (h : ∀ s : Session, Preserves s.Quiet act) : ListsLast act := by
  intro s r t hrun
  have hquiet := quiet_of_preserves h hrun
  exact ⟨hquiet.appends, fun _ _ => hquiet.listing_eq⟩

/-- Whatever lists nothing may come before. -/
theorem bind (hact : ∀ s : Session, Preserves s.Quiet act) (hf : ∀ a, ListsLast (f a)) :
    ListsLast (act >>= f) := by
  intro s r t hrun
  rcases Run.start_bind_eq_ok.1 hrun with ⟨e, he, -⟩ | ⟨a, u, ha, hrest⟩
  · have hquiet := quiet_of_preserves hact he
    exact ⟨hquiet.appends, fun _ _ => hquiet.listing_eq⟩
  · have hquiet := quiet_of_preserves hact ha
    obtain ⟨happends, hlisting⟩ := hf a hrest
    exact ⟨hquiet.appends.trans happends, fun e he => (hlisting e he).trans hquiet.listing_eq⟩

/-- A value may be made of the answer. -/
theorem map (hact : ListsLast act) (g : α → β) : ListsLast (act >>= fun a => pure (g a)) := by
  intro s r t hrun
  rcases Run.start_bind_eq_ok.1 hrun with ⟨e, he, rfl⟩ | ⟨a, u, ha, hrest⟩
  · exact ⟨(hact he).1, fun _ _ => (hact he).2 e rfl⟩
  · cases hrest
    exact ⟨(hact ha).1, fun _ he => nomatch he⟩

/-- Neither the lines of a report nor the note behind them can fail. -/
theorem report (lines : List String) (message : String) :
    ListsLast (do
      writeListing lines
      note message) := by
  intro s r t hrun
  cases hrun
  exact ⟨⟨⟨[⟨.note, message⟩], by simp [mapContext, Context.mapLog, Log.note]⟩,
    ⟨lines, by simp [mapContext]⟩⟩, fun _ he => nomatch he⟩

end ListsLast

/-- **A procedure that fails has listed nothing.** -/
theorem listsLast_procedure (p : Procedure) : ListsLast (procedure p) := by
  cases p with
  | sort p => exact .of_quiet fun _ => quiet_sortProc p
  | means dataset vars =>
    refine .bind (fun _ => quiet_dataset _) fun ds => ?_
    exact .bind (fun _ => quiet_get) fun s => .report _ _
  | print dataset vars limit withoutNumbers =>
    refine .bind (fun _ => quiet_dataset _) fun ds => ?_
    exact .bind (fun _ => quiet_get) fun s => .report _ _
  | other name => exact .of_quiet fun _ => Maintains.throw _

/-- **A DATA step that fails has listed nothing.** -/
theorem listsLast_dataStep (passes : Nat) (header : StepHeader) (body : List Statement) :
    ListsLast (dataStep passes header body) := by
  refine .bind (fun _ => quiet_splitName header.output) fun (libref, name) => ?_
  refine .bind (fun _ => quiet_inputRows header _) fun found => ?_
  cases found with
  | error e => exact .of_quiet fun _ => quiet_error _
  | ok rows =>
    refine .bind (fun _ => quiet_onCatalog? _) fun opened => ?_
    cases opened with
    | error e => exact .of_quiet fun _ => quiet_error _
    | ok u =>
      refine .bind (fun _ => quiet_mapContext fun _ => rfl) fun _ => ?_
      have hpasses : ListsLast (runPasses passes libref name body rows) := by
        refine .bind (fun _ => Maintains.forM (quiet_passRow passes libref name body) rows) ?_
        intro _
        refine .bind (fun _ => quiet_onCatalog _) fun ds => ?_
        exact .bind (fun _ => quiet_get) fun s => .report _ _
      cases body.any isMerge with
      | true => exact .bind (fun _ => quiet_mergeIntoOutput libref name body) fun _ => hpasses
      | false => exact hpasses

end Session

open Session (Appends)

/-! ## Statements -/

/-- What every statement at the top level does: it appends to the log and to the listing. -/
theorem appends_law (passes : Nat) :
    ExecutionLaw passes fun s (_ : List (Statement × Session)) t => s.Appends t where
  refl := Appends.refl
  trans := Appends.trans
  plain stmt hplain := by
    intro s r t hrun
    have hquiet : ∀ {α β : Type} {act : SessionM α} {g : α → β},
        (∀ s : Session, Preserves s.Quiet act) →
        Session.ListsLast (act >>= fun a => pure (g a)) :=
          fun h => (Session.ListsLast.of_quiet h).map _
    suffices hlists : Session.ListsLast (stmt.execute passes) from (hlists hrun).1
    cases stmt with
    | dataStep header body => exact (Session.listsLast_dataStep passes header body).map _
    | proc p => exact (Session.listsLast_procedure p).map _
    | options settings => exact hquiet fun _ => Session.quiet_setOptions settings
    | libname libref path => exact hquiet fun _ => Session.quiet_assignLibrary libref path
    | title text => exact hquiet fun _ => Session.quiet_setTitle text
    | array name size vars =>
      exact hquiet fun _ => Session.quiet_onContext
        (Context.logging_of_effect (Context.declareArray_effect name size vars))
    | endPass =>
      exact .of_quiet fun _ => Session.quiet_onContext
        (Context.logging_of_effect Context.endPass_effect)
    | merge datasets => exact hquiet fun _ => Session.quiet_mergeCurrent datasets
    | byVariables vars => exact hquiet fun _ => Maintains.modify fun _ hs => ⟨hs.log, hs.listing_eq⟩
    | ifChain => cases hplain
    | conditionalDo => cases hplain
    | _ => exact .of_quiet fun _ => Maintains.throw _
  log _ _ hlog := ⟨hlog.isPrefix, List.prefix_rfl⟩
  leave h := ⟨h.log, h.listing⟩

namespace Session

/-- **A statement of a program appends to the log and to the listing, however it ends.** -/
theorem appends_run {passes : Nat} {stmt : Statement} {s t : Session} {r : Except RunError Unit}
    (h : (run passes stmt).start s = .ok (r, t)) : s.Appends t := by
  rw [run, Run.start_bind_of_ok (Run.start_modify _ s)] at h
  have hbegin : s.Appends (s.mapContext fun ctx => { ctx with loops := [] }) :=
    ⟨List.prefix_rfl, List.prefix_rfl⟩
  rcases Run.start_bind_eq_ok.1 h with ⟨e, he, -⟩ | ⟨flow, u, hu, hend⟩
  · exact hbegin.trans (stmt.execute_obeys (appends_law passes) he)
  · cases hend
    exact hbegin.trans (stmt.execute_obeys (appends_law passes) hu)

/-- Whether a statement is a DATA step or a procedure. -/
def isStep : Statement → Bool
  | .dataStep .. => true
  | .proc _ => true
  | _ => false

/-- **A DATA step or a procedure that fails adds no line to the listing.** -/
theorem listing_of_run_eq_error {passes : Nat} {stmt : Statement}
    (hstep : isStep stmt = true) {s t : Session}
    {e : RunError} (h : (run passes stmt).start s = .ok (.error e, t)) : t.listing = s.listing := by
  have hlists : ListsLast (stmt.execute passes) := by
    cases stmt with
    | dataStep header body => exact (listsLast_dataStep passes header body).map _
    | proc p => exact (listsLast_procedure p).map _
    | _ => cases hstep
  have hrun : ListsLast (run passes stmt) :=
    .bind (fun _ => quiet_mapContext fun _ => rfl) fun _ => hlists.map _
  exact (hrun h).2 e rfl

end Session

end DataStep
