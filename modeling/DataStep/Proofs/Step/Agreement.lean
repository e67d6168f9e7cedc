import DataStep.Proofs.Agreement
import DataStep.Proofs.Step.Merging

/-!
# The parts of a DATA step in related sessions

Beside the data sets that it names, a DATA step reads the settings, the title and the BY variables
of a session, and it adds to the log and to the listing. `StepRelation` says that a relation between
sessions is kept by each of these. Then the merges, the passes and the report of a step come to the
same in related sessions, whatever else these differ in. Main statement: `StepRelation.afterReset`.
-/

set_option autoImplicit false

namespace DataStep.Session

open Run (Agree)

/-- A relation between sessions that is kept by what a DATA step does, as long as it asks the
catalog for names of one kind only: those into which qualified names of one kind fall. -/
structure StepRelation (R : Session → Session → Prop) (Qualified : String → Prop)
    (Named : String → String → Prop) : Prop where
  config_eq : ∀ {s t}, R s t → t.config = s.config
  title_eq : ∀ {s t}, R s t → t.title = s.title
  byVariables_eq : ∀ {s t}, R s t → t.byVariables = s.byVariables
  named : ∀ {s t}, R s t → ∀ qualified, Qualified qualified →
    Named (s.config.splitName qualified).1 (s.config.splitName qualified).2
  note : ∀ message, Agree R (note message) (note message)
  list : ∀ lines, Agree R (writeListing lines) (writeListing lines)
  setBy : ∀ vars : List String,
    Agree R (modify fun s => { s with byVariables := vars } : SessionM PUnit)
    (modify fun s => { s with byVariables := vars })
  fetch : ∀ {libref name}, Named libref name →
    Agree R (onCatalog fun cat => cat.fetch libref name)
      (onCatalog fun cat => cat.fetch libref name)
  update : ∀ {libref name}, Named libref name → ∀ f : Dataset → Dataset,
    Agree R (onCatalog fun cat => cat.update libref name f)
      (onCatalog fun cat => cat.update libref name f)

namespace StepRelation

variable {R : Session → Session → Prop} {Qualified : String → Prop} {Named : String → String → Prop}
  {α : Type} {datasets : List String} {libref name qualified : String} {body : List Statement}
  (rel : StepRelation R Qualified Named)

include rel

/-- A qualified name falls into the same parts in related sessions. -/
theorem splitName_bind {next : String × String → SessionM α}
    (h : ∀ s t, R s t → Agree R (next (s.config.splitName qualified))
      (next (s.config.splitName qualified))) :
    Agree R (splitName qualified >>= next) (splitName qualified >>= next) := by
  intro s t hR
  rw [Run.start_bind_of_ok (splitName_start qualified s),
    Run.start_bind_of_ok (splitName_start qualified t), rel.config_eq hR]
  exact h s t hR hR

/-! ## Merges -/

theorem sortInPlace (vars : List String) (hq : Qualified qualified) :
    Agree R (sortInPlace vars qualified) (sortInPlace vars qualified) := by
  apply rel.splitName_bind
  intro s t hR
  exact .bind (rel.update (rel.named hR qualified hq) _) fun _ => .pure _

theorem merge (vars : List String) (hq : ∀ d ∈ datasets, Qualified d) :
    Agree R (merge datasets vars) (merge datasets vars) := by
  unfold Session.merge
  extract_lets names afterCheck
  have hmerge : ∀ u, Agree R (afterCheck u) (afterCheck u) := by
    intro u
    apply Agree.bind (Agree.mapM datasets fun d hd => rel.sortInPlace vars (hq d hd))
    intro inputs
    cases Merge.mergeRows vars inputs with
    | error e => exact .throw _
    | ok rows => exact .bind (rel.note _) fun _ => .pure _
  exact .ite _ (.bind (.throw _) hmerge) (hmerge ())

theorem mergeInto (hname : Named libref name) (hq : ∀ d ∈ datasets, Qualified d) :
    Agree R (mergeInto libref name datasets) (mergeInto libref name datasets) := by
  apply Agree.get_bind
  intro s t hR
  rw [rel.byVariables_eq hR]
  apply Agree.bind (rel.merge s.byVariables hq)
  intro rows
  exact .bind (rel.update hname _) fun _ => .pure _

theorem mergeIntoOutput (hname : Named libref name)
    (hq : ∀ datasets ∈ Statement.mergesOf body, ∀ d ∈ datasets, Qualified d) :
    Agree R (mergeIntoOutput libref name body) (mergeIntoOutput libref name body) := by
  rw [mergeIntoOutput_eq]
  apply Agree.bind
  · apply Agree.forM
    rintro stmt -
    cases stmt
    case byVariables vars => exact rel.setBy vars
    all_goals exact .pure _
  · intro _
    apply Agree.forM
    intro stmt hstmt
    cases stmt
    case merge datasets =>
      exact rel.mergeInto hname (hq datasets (List.mem_filterMap.2 ⟨_, hstmt, rfl⟩))
    all_goals exact .pure _

/-! ## Passes and the report -/

theorem passRow {passes : Nat} {row : Row} (hname : Named libref name)
    (hpass : ∀ limit, Agree R (onContext (Context.pass passes limit body row))
      (onContext (Context.pass passes limit body row))) :
    Agree R (passRow passes libref name body row) (passRow passes libref name body row) := by
  apply Agree.get_bind
  intro s t hR
  rw [rel.config_eq hR]
  apply Agree.bind (hpass s.config.maxPasses)
  intro out
  cases out with
  | none => exact .pure _
  | some out => exact .bind (rel.update hname _) fun _ => .pure _

theorem reportOutput (hname : Named libref name) :
    Agree R (reportOutput libref name) (reportOutput libref name) := by
  apply Agree.bind (rel.fetch hname)
  intro ds
  apply Agree.get_bind
  intro s t hR
  rw [rel.config_eq hR, rel.title_eq hR]
  exact .bind (rel.list _) fun _ => rel.note _

/-- **What a step does once its context is reset comes to the same in related
sessions** if its passes do. -/
theorem afterReset {passes : Nat} {rows : List Row} (hname : Named libref name)
    (hq : ∀ datasets ∈ Statement.mergesOf body, ∀ d ∈ datasets, Qualified d)
    (hpass : ∀ limit row, Agree R (onContext (Context.pass passes limit body row))
      (onContext (Context.pass passes limit body row))) :
    let rest : SessionM Unit := do
      if body.any isMerge then Session.mergeIntoOutput libref name body
      rows.forM (Session.passRow passes libref name body)
      Session.reportOutput libref name
    Agree R rest rest := by
  have hpasses : Agree R (runPasses passes libref name body rows)
      (runPasses passes libref name body rows) :=
    .bind (.forM rows fun row _ => rel.passRow hname fun limit => hpass limit row) fun _ =>
      rel.reportOutput hname
  exact .ite _ (.bind (rel.mergeIntoOutput hname hq) fun _ => hpasses) hpasses

end StepRelation

end DataStep.Session
