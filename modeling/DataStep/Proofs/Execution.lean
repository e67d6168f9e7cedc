import DataStep.Execution
import DataStep.Proofs.Body
import DataStep.Proofs.Step.Opening

/-!
# What happens at the top level

`Statement.executed` tells which statements without parts a statement at the top level executes,
each with the session in which it begins. `ExecutionLaw` collects what a relation between sessions
has to satisfy to hold of every execution: it holds of the statements without parts, of more log
entries, and it is kept when loops are left. Main statement: an execution law holds of every
statement, of statements in order and of the arms of a condition, however they end
(`Statement.execute_obeys`).
-/

set_option autoImplicit false

namespace DataStep

open Run (Trace Law Obeys follow repeated silent)

/-! ## The statements that are executed -/

/-- A conditional loop at the top level. -/
def Statement.topLoop (passes limit : Nat) (kind : LoopKind) (condition : Option Expr)
    (body : Statement) : Loop Session where
  level := .top
  limit := limit
  kind := kind
  condition := condition
  body := body.execute passes

mutual

/-- The statements without parts that a statement executes, in order, each with the session in which
it begins. -/
def Statement.executed (passes : Nat) : Statement → Trace Session (Statement × Session)
  | .ifChain condition body elseIfs otherwise =>
    (Session.onContext (Context.holds condition)).follow fun
      | true => Statement.executedAll passes body
      | false => Statement.executedArms passes (Statement.executedAll passes otherwise) elseIfs
  | .conditionalDo kind condition body => fun s =>
    (Statement.topLoop passes s.config.maxPasses kind condition body).trace (body.executed passes)
      passes (s.mapContext Context.enterLoop)
  | stmt => fun s => [(stmt, s)]

/-- The statements without parts that statements in order execute. -/
def Statement.executedAll (passes : Nat) : List Statement → Trace Session (Statement × Session)
  | [] => silent
  | stmt :: rest => fun s => stmt.executed passes s ++
    (stmt.execute passes).follow (fun
      | .next => Statement.executedAll passes rest
      | .endOfPass => silent) s

/-- The statements without parts that the first arm whose condition holds executes, or else what is
left. -/
def Statement.executedArms (passes : Nat) (otherwise : Trace Session (Statement × Session)) :
    List (Expr × List Statement) → Trace Session (Statement × Session)
  | [] => otherwise
  | (condition, body) :: arms => (Session.onContext (Context.holds condition)).follow fun
    | true => Statement.executedAll passes body
    | false => Statement.executedArms passes otherwise arms

end

/-! ## Laws of executions -/

/-- Whether a statement has no part that is executed at the top level. -/
def Statement.isPlain : Statement → Bool
  | .ifChain .. => false
  | .conditionalDo .. => false
  | _ => true

/-- A relation between sessions that holds of every execution. -/
structure ExecutionLaw (passes : Nat)
    (R : Session → List (Statement × Session) → Session → Prop) : Prop extends Law R where
  plain : ∀ stmt : Statement, stmt.isPlain = true →
    Obeys R (stmt.execute passes) fun s => [(stmt, s)]
  log : ∀ (s : Session) {log : Log}, Log.Unnoted s.context.log log →
    R s [] (s.mapContext fun ctx => { ctx with log })
  leave : ∀ {s l t}, R s l t →
    R (s.mapContext Context.leaveLoop) l (t.mapContext Context.leaveLoop)

namespace ExecutionLaw

variable {passes : Nat} {R : Session → List (Statement × Session) → Session → Prop}

theorem of_context_log (law : ExecutionLaw passes R) {α : Type} {act : ContextM α}
    (h : ∀ ⦃c r c'⦄, act.start c = .ok (r, c') →
      ∃ log, c' = { c with log } ∧ Log.Unnoted c.log log) :
    Obeys R (Session.onContext act) silent := by
  intro s r t hs
  obtain ⟨ctx, hctx, rfl⟩ := Session.onContext_start_eq_ok.1 hs
  obtain ⟨log, rfl, hlog⟩ := h hctx
  exact law.log s hlog

theorem holds (law : ExecutionLaw passes R) (condition : Expr) :
    Obeys R (Session.onContext (Context.holds condition)) silent :=
  law.of_context_log fun c r c' h => by
    obtain ⟨log, hc, hlog⟩ := Context.holds_start h
    exact ⟨log, hc, hlog.unnoted⟩

end ExecutionLaw

namespace Statement

variable {passes : Nat} {R : Session → List (Statement × Session) → Session → Prop}

theorem execute_conditionalDo (kind : LoopKind) (condition : Option Expr) (body : Statement) :
    (conditionalDo kind condition body).execute passes = (do
      let limit := (← get).config.maxPasses
      Run.bracket (Session.mapContext Context.enterLoop) (Session.mapContext Context.leaveLoop)
        (Run.iterate (topLoop passes limit kind condition body).round passes)
      pure .next) := by
  rw [execute]
  rfl

/-- A law of the body of a loop is a law of the loop. -/
theorem conditionalDo_obeys (law : ExecutionLaw passes R) {kind : LoopKind}
    {condition : Option Expr}
    {body : Statement} (hbody : Obeys R (body.execute passes) (body.executed passes)) :
    Obeys R ((conditionalDo kind condition body).execute passes)
      ((conditionalDo kind condition body).executed passes) := by
  intro s r t h
  rw [execute_conditionalDo, Run.start_bind_of_ok (Run.start_get s)] at h
  rw [executed]
  have hhas : Obeys R (topLoop passes s.config.maxPasses kind condition body).hasPass silent :=
    law.of_context_log fun c r c' h => Context.hasPass_start h
  have hloop := Loop.obeys law.toLaw law.leave hhas hbody passes
  exact Obeys.bind_then_silent law.toLaw hloop (fun _ => Obeys.pure law.toLaw _) h

mutual

/-- **An execution law holds of every statement at the top level, however it ends.** -/
theorem execute_obeys (law : ExecutionLaw passes R) :
    ∀ stmt : Statement, Obeys R (stmt.execute passes) (stmt.executed passes)
  | .ifChain condition body elseIfs otherwise => by
    rw [execute, executed]
    apply Obeys.bind_silent law.toLaw (law.holds condition)
    intro holds
    cases holds with
    | true => exact executeAll_obeys law body
    | false => exact executeArms_obeys law (executeAll_obeys law otherwise) elseIfs
  | .conditionalDo kind condition body => conditionalDo_obeys law (execute_obeys law body)
  | .dataStep header body => law.plain (.dataStep header body) rfl
  | .proc p => law.plain (.proc p) rfl
  | .options settings => law.plain (.options settings) rfl
  | .libname libref path => law.plain (.libname libref path) rfl
  | .title text => law.plain (.title text) rfl
  | .ifThen condition body => law.plain (.ifThen condition body) rfl
  | .array name size vars => law.plain (.array name size vars) rfl
  | .merge datasets => law.plain (.merge datasets) rfl
  | .byVariables vars => law.plain (.byVariables vars) rfl
  | .endPass => law.plain .endPass rfl
  | .assign target value => law.plain (.assign target value) rfl
  | .output => law.plain .output rfl
  | .drop vars => law.plain (.drop vars) rfl
  | .keep vars => law.plain (.keep vars) rfl
  | .retain items => law.plain (.retain items) rfl
  | .countedDo counter start stop increment body =>
    law.plain (.countedDo counter start stop increment body) rfl
  | .block body => law.plain (.block body) rfl

/-- An execution law holds of statements in order. -/
theorem executeAll_obeys (law : ExecutionLaw passes R) :
    ∀ stmts : List Statement, Obeys R (executeAll passes stmts) (executedAll passes stmts)
  | [] => by
    rw [executeAll, executedAll]
    exact Obeys.pure law.toLaw _
  | stmt :: rest => by
    rw [executeAll, executedAll]
    apply Obeys.bind law.toLaw (execute_obeys law stmt)
    intro flow
    cases flow with
    | next => exact executeAll_obeys law rest
    | endOfPass => exact Obeys.pure law.toLaw _

/-- An execution law holds of the arms of a condition. -/
theorem executeArms_obeys (law : ExecutionLaw passes R) {otherwise : SessionM Flow}
    {trace : Trace Session (Statement × Session)} (hotherwise : Obeys R otherwise trace) :
    ∀ arms : List (Expr × List Statement),
      Obeys R (executeArms passes otherwise arms) (executedArms passes trace arms)
  | [] => by
    rw [executeArms, executedArms]
    exact hotherwise
  | (condition, body) :: arms => by
    rw [executeArms, executedArms]
    apply Obeys.bind_silent law.toLaw (law.holds condition)
    intro holds
    cases holds with
    | true => exact executeAll_obeys law body
    | false => exact executeArms_obeys law hotherwise arms

end

end Statement

end DataStep
