import DataStep.Execution
import DataStep.Proofs.Loop

/-!
# What statements at the top level leave in the context

Evaluating an expression at the top level touches the log, and selecting rows for a procedure
the row in the making as well. Whatever else is read of the context (`Context.Blind`) is left
by every run that is built from such parts: by procedures, by settings and by merges. Merges
also leave what is read of the session besides its context, but for its catalog and its BY
variables (`Session.Blind`).
-/

set_option autoImplicit false

namespace DataStep

open Run (Keeps)

universe u

/-- What is read of a context depends on neither its row nor its log. -/
def Context.Blind {β : Type} (g : Context → β) : Prop :=
  ∀ (ctx : Context) (row : Row) (log : Log), g { ctx with row, log } = g ctx

namespace Session

variable {α β : Type} {g : Context → β}

/-- A run leaves what a function reads of the context. -/
abbrev KeepsContext (g : Context → β) (act : SessionM α) : Prop :=
  Keeps (fun s : Session => g s.context) act

theorem keepsContext_onContext {act : ContextM α} (h : Keeps g act) :
    KeepsContext g (onContext act) := by
  intro s r t hs
  obtain ⟨ctx, hctx, rfl⟩ := onContext_start_eq_ok.1 hs
  exact h hctx

/-- A run on the context leaves what is read of a session besides its context. -/
theorem keeps_onContext {read : Session → β}
    (hread : ∀ s ctx, read { s with context := ctx } = read s) (act : ContextM α) :
    Keeps read (onContext act) := by
  intro s r t h
  obtain ⟨ctx, -, rfl⟩ := onContext_start_eq_ok.1 h
  exact hread s ctx

/-- Work on the catalog leaves what is read of a session besides its catalog. -/
theorem keeps_onCatalog {read : Session → β}
    (hread : ∀ s cat, read { s with catalog := cat } = read s)
    (f : Catalog → Except LibraryError α × Catalog) : Keeps read (onCatalog f) := by
  apply Keeps.bind (Keeps.result fun s => hread s _)
  intro r
  cases r with
  | ok a => exact Keeps.pure a
  | error e => exact Keeps.throw _

theorem keepsContext_onCatalog (f : Catalog → Except LibraryError α × Catalog) :
    KeepsContext g (onCatalog f) := keeps_onCatalog (fun _ _ => rfl) f

theorem keeps_splitName {read : Session → β} (qualified : String) :
    Keeps read (splitName qualified) := by
  apply Keeps.bind Keeps.get
  intro s
  exact Keeps.pure _

theorem keepsContext_dataset (qualified : String) : KeepsContext g (dataset qualified) := by
  apply Keeps.bind (keeps_splitName qualified)
  intro (libref, name)
  exact keepsContext_onCatalog _

/-- A pass over a row leaves what its body leaves and the catalog does not show. -/
theorem keeps_passRow {read : Session → β}
    (hread : ∀ s cat, read { s with catalog := cat } = read s)
    {passes : Nat} {body : List Statement} {row : Row}
    (hpass : ∀ limit, Keeps read (onContext (Context.pass passes limit body row)))
    (libref name : String) :
    Keeps read (passRow passes libref name body row) := by
  apply Keeps.bind Keeps.get
  intro s
  apply Keeps.bind (hpass s.config.maxPasses)
  intro out
  cases out with
  | none => exact Keeps.pure _
  | some out =>
    apply Keeps.bind (keeps_onCatalog hread _)
    intro ds
    exact Keeps.pure _

theorem keepsContext_writeListing (lines : List String) : KeepsContext g (writeListing lines) :=
  Keeps.modify fun _ => rfl

section Blind

variable (hg : Context.Blind g)

include hg

theorem keeps_evaluate (e : Expr) : Keeps g (Context.evaluate e) := by
  intro s r t h
  obtain ⟨log, rfl, -⟩ := Context.evaluate_start h
  exact hg s s.row log

theorem keeps_mapRow (f : Row → Row) : Keeps g (modify (Context.mapRow f) : ContextM PUnit) :=
  Keeps.modify fun s => hg s (f s.row) s.log

theorem keepsContext_writeLog (f : Log → Log) : KeepsContext g (writeLog f) :=
  Keeps.modify fun s => hg s.context s.context.row (f s.context.log)

/-! ## Settings -/

theorem keepsContext_setOptions (settings : List (String × String)) :
    KeepsContext g (setOptions settings) := by
  apply Keeps.forM
  intro (name, value)
  apply Keeps.bind
  · apply Keeps.modify
    intro s
    rfl
  intro _
  exact keepsContext_writeLog hg _

theorem keepsContext_assignLibrary (libref path : String) :
    KeepsContext g (assignLibrary libref path) := by
  apply Keeps.bind
  · apply Keeps.modify
    intro s
    rfl
  intro _
  apply Keeps.bind Keeps.get
  intro s
  cases s.catalog.files.isDirectory path with
  | true => exact keepsContext_writeLog hg _
  | false => exact keepsContext_writeLog hg _

theorem keepsContext_setTitle (text : String) : KeepsContext g (setTitle text) := by
  apply Keeps.bind
  · apply Keeps.modify
    intro s
    rfl
  intro _
  exact keepsContext_writeLog hg _

/-! ## Procedures -/

theorem keeps_selectsRow (filter : Expr) (row : Row) : Keeps g (selectsRow filter row) := by
  apply Keeps.bind (keeps_mapRow hg _)
  intro _
  apply Keeps.bind (keeps_evaluate hg filter)
  intro v
  cases selects v with
  | true =>
    apply Keeps.bind (keeps_mapRow hg _)
    intro _
    exact Keeps.pure _
  | false => exact Keeps.pure _

theorem keeps_selectRows (filter : Expr) (rows : List Row) : Keeps g (selectRows filter rows) := by
  induction rows with
  | nil => exact Keeps.pure _
  | cons row rows ih =>
    apply Keeps.bind (keeps_selectsRow hg filter row)
    intro selected
    apply Keeps.bind ih
    intro others
    exact Keeps.pure _

theorem keepsContext_sortProc (p : SortProc) : KeepsContext g (sortProc p) := by
  apply Keeps.bind (keepsContext_dataset p.input)
  intro source
  extract_lets target shown afterSelection
  have hselected : ∀ selected, KeepsContext g (afterSelection selected) := by
    intro selected
    dsimp only [afterSelection]
    -- the two notes on duplicates come or do not come before the result is stored
    refine Keeps.ite _ (Keeps.bind (keepsContext_writeLog hg _) fun _ => ?_) ?_
    all_goals refine Keeps.ite _ (Keeps.bind (keepsContext_writeLog hg _) fun _ => ?_) ?_
    all_goals
      apply Keeps.bind (keeps_splitName _)
      intro (libref, name)
      apply Keeps.bind (keepsContext_onCatalog _)
      intro _
      exact keepsContext_writeLog hg _
  cases p.filter with
  | none => exact Keeps.bind (Keeps.pure _) hselected
  | some filter =>
    exact Keeps.bind (keepsContext_onContext (keeps_selectRows hg filter source.rows)) hselected

theorem keepsContext_meansProc (qualified : String) (vars : List String) :
    KeepsContext g (meansProc qualified vars) := by
  apply Keeps.bind (keepsContext_dataset qualified)
  intro ds
  apply Keeps.bind Keeps.get
  intro s
  apply Keeps.bind (keepsContext_writeListing _)
  intro _
  exact keepsContext_writeLog hg _

theorem keepsContext_printProc (qualified : String) (vars : List String) (limit : Option Nat)
    (withoutNumbers : Bool) : KeepsContext g (printProc qualified vars limit withoutNumbers) := by
  apply Keeps.bind (keepsContext_dataset qualified)
  intro ds
  apply Keeps.bind Keeps.get
  intro s
  apply Keeps.bind (keepsContext_writeListing _)
  intro _
  exact keepsContext_writeLog hg _

/-- **A procedure leaves the context but for its row and its log.** -/
theorem keepsContext_procedure (p : Procedure) : KeepsContext g (procedure p) := by
  cases p with
  | sort p => exact keepsContext_sortProc hg p
  | means dataset vars => exact keepsContext_meansProc hg dataset vars
  | print dataset vars limit withoutNumbers =>
    exact keepsContext_printProc hg dataset vars limit withoutNumbers
  | other name => exact Keeps.throw _

theorem keepsContext_reportOutput (libref name : String) :
    KeepsContext g (reportOutput libref name) := by
  apply Keeps.bind (keepsContext_onCatalog _)
  intro ds
  apply Keeps.bind Keeps.get
  intro s
  apply Keeps.bind (keepsContext_writeListing _)
  intro _
  exact keepsContext_writeLog hg _

end Blind

/-! ## Merges -/

/-- What is read of a session depends on neither its catalog, nor its BY variables, nor its log. -/
structure Blind (read : Session → β) : Prop where
  catalog : ∀ (s : Session) (cat : Catalog), read { s with catalog := cat } = read s
  byVariables : ∀ (s : Session) (vars : List String), read { s with byVariables := vars } = read s
  log : ∀ (s : Session) (log : Log), read { s with context := { s.context with log } } = read s

theorem blind_context (hg : Context.Blind g) : Blind fun s : Session => g s.context where
  catalog _ _ := rfl
  byVariables _ _ := rfl
  log s log := hg s.context s.context.row log

theorem blind_config : Blind Session.config := ⟨fun _ _ => rfl, fun _ _ => rfl, fun _ _ => rfl⟩

section Merges

variable {read : Session → β} (hread : Blind read)

include hread

theorem keeps_merge (datasets vars : List String) : Keeps read (merge datasets vars) := by
  have hsort : ∀ qualified, Keeps read (sortInPlace vars qualified) := by
    intro qualified
    apply Keeps.bind (keeps_splitName qualified)
    intro (libref, name)
    apply Keeps.bind (keeps_onCatalog hread.catalog _)
    intro ds
    exact Keeps.pure _
  unfold merge
  extract_lets names afterCheck
  have hmerge : ∀ u, Keeps read (afterCheck u) := by
    intro u
    apply Keeps.bind (Keeps.mapM hsort datasets)
    intro inputs
    cases Merge.mergeRows vars inputs with
    | error e => exact Keeps.throw _
    | ok rows =>
      apply Keeps.bind (Keeps.modify fun s => hread.log s _)
      intro _
      exact Keeps.pure _
  exact Keeps.ite _ (Keeps.bind (Keeps.throw _) hmerge) (hmerge ())

/-- Merging data sets into one of them. -/
theorem keeps_mergeInto (datasets vars : List String)
    (replace : List Row → Catalog → Except LibraryError Dataset × Catalog) :
    Keeps read (do
      let rows ← merge datasets vars
      let _ ← onCatalog (replace rows)) := by
  apply Keeps.bind (keeps_merge hread datasets vars)
  intro rows
  apply Keeps.bind (keeps_onCatalog hread.catalog _)
  intro ds
  exact Keeps.pure _

theorem keeps_mergeCurrent (datasets : List String) : Keeps read (mergeCurrent datasets) := by
  apply Keeps.bind Keeps.get
  intro s
  exact keeps_mergeInto hread datasets _ _

theorem keeps_mergeIntoOutput (libref name : String) (body : List Statement) :
    Keeps read (mergeIntoOutput libref name body) := by
  apply Keeps.bind
  · apply Keeps.forM
    intro stmt
    cases stmt <;> first | exact Keeps.pure _ | exact Keeps.modify fun s => hread.byVariables s _
  · intro _
    apply Keeps.forM
    intro stmt
    cases stmt <;> first
      | exact Keeps.pure _
      | exact Keeps.bind Keeps.get fun _ => keeps_mergeInto hread _ _ _

end Merges

end Session

end DataStep
