import DataStep.Proofs.Loop

/-!
# What a body does

`Statement.performed` tells which statements without parts a statement executes, in order, when it
is performed in a context. `Effect` is what the execution of a list of such statements can do to a
context: the bookkeeping of the pass and the arrays change statement by statement, the log grows by
warnings and errors, and the counters of the running loops, the saved values and the day stay as
they are. Main statement: every statement has the effect of the statements that it executes, however
it ends (`Statement.perform_effect`).
-/

set_option autoImplicit false

namespace DataStep

open Run (Trace Law Obeys Keeps follow repeated silent)

/-! ## The statements that are executed -/

/-- What happens on the way of a pass of a counted loop. -/
def countedTrace {ι : Type} (counter : String) (last increment : Number) (body : Trace Context ι) :
    Trace Context ι := fun ctx =>
  match (Row.value ctx.row counter).toNumber? with
  | none => []
  | some current => if inRange increment current last then body ctx else []

/-- A conditional loop in a body. -/
def Statement.bodyLoop (passes limit : Nat) (kind : LoopKind) (condition : Option Expr)
    (body : Statement) : Loop Context where
  level := .body
  limit := limit
  kind := kind
  condition := condition
  body := body.perform passes limit

mutual

/-- The statements without parts that a statement executes, in order. -/
def Statement.performed (passes limit : Nat) : Statement → Trace Context Statement
  | .ifThen condition body => (Context.holds condition).follow fun
    | true => Statement.performedAll passes limit body
    | false => silent
  | .ifChain condition body elseIfs otherwise => (Context.holds condition).follow fun
    | true => Statement.performedAll passes limit body
    | false =>
      Statement.performedArms passes limit (Statement.performedAll passes limit otherwise) elseIfs
  | .conditionalDo kind condition body => fun ctx =>
    (Statement.bodyLoop passes limit kind condition body).trace (body.performed passes limit) passes
      ctx.enterLoop
  | .countedDo counter start stop increment body =>
    (startCounted counter start stop increment).follow fun
    | (none, _) => silent
    | (some last, step) =>
      repeated (countedPass counter last step (Statement.performAll passes limit body))
        (countedTrace counter last step (Statement.performedAll passes limit body)) passes
  | .block body => Statement.performedAll passes limit body
  | s => fun _ => [s]

/-- The statements without parts that statements in order execute. -/
def Statement.performedAll (passes limit : Nat) : List Statement → Trace Context Statement
  | [] => silent
  | s :: rest => fun ctx => s.performed passes limit ctx ++
    (s.perform passes limit).follow (fun
      | .next => Statement.performedAll passes limit rest
      | .endOfPass => silent) ctx

/-- The statements without parts that the first arm whose condition holds executes, or else what is
left. -/
def Statement.performedArms (passes limit : Nat) (otherwise : Trace Context Statement) :
    List (Expr × List Statement) → Trace Context Statement
  | [] => otherwise
  | (condition, body) :: arms => (Context.holds condition).follow fun
    | true => Statement.performedAll passes limit body
    | false => Statement.performedArms passes limit otherwise arms

end

/-! ## Effects -/

namespace StepState

/-- Adds a name to a list of retained variables unless it is there. -/
def addRetained (names : List String) (item : RetainItem) : List String :=
  if names.contains item.name then names else names ++ [item.name]

/-- The bookkeeping after a statement without parts. -/
def after (step : StepState) : Statement → StepState
  | .output => { step with output := true }
  | .drop vars => { step with drop := extend step.drop vars }
  | .keep vars => { step with keep := extend step.keep vars }
  | .retain items => { step with retain := items.foldl addRetained step.retain }
  | _ => step

end StepState

/-- The arrays after a statement without parts. -/
def Arrays.after (arrays : Arrays) : Statement → Arrays
  | .array name size vars => if size = vars.length then arrays.declare name vars else arrays
  | _ => arrays

/-- What the execution of statements without parts can do to a context. -/
structure Effect (s : Context) (stmts : List Statement) (t : Context) : Prop where
  step_eq : t.step = stmts.foldl StepState.after s.step
  arrays_eq : t.arrays = stmts.foldl Arrays.after s.arrays
  loops_eq : t.loops = s.loops
  saved_eq : t.saved = s.saved
  currentDay_eq : t.currentDay = s.currentDay
  log_unnoted : Log.Unnoted s.log t.log

namespace Effect

theorem law : Law Effect where
  refl s := ⟨rfl, rfl, rfl, rfl, rfl, Log.Extends.refl _⟩
  trans hst htu := by
    refine ⟨?_, ?_, htu.loops_eq.trans hst.loops_eq, htu.saved_eq.trans hst.saved_eq,
      htu.currentDay_eq.trans hst.currentDay_eq, hst.log_unnoted.trans htu.log_unnoted⟩
    · rw [List.foldl_append, ← hst.step_eq, htu.step_eq]
    · rw [List.foldl_append, ← hst.arrays_eq, htu.arrays_eq]

/-- A change of the row and more log entries are the effect of no statement. -/
theorem of_row_log {s : Context} (row : Row) {log : Log} (h : Log.Unnoted s.log log) :
    Effect s [] { s with row, log } := ⟨rfl, rfl, rfl, rfl, rfl, h⟩

/-- An effect remains one when a loop is left. -/
theorem leaveLoop {s t : Context} {stmts : List Statement} (h : Effect s stmts t) :
    Effect s.leaveLoop stmts t.leaveLoop :=
  ⟨h.step_eq, h.arrays_eq, congrArg List.tail h.loops_eq, h.saved_eq, h.currentDay_eq,
    h.log_unnoted⟩

/-- A statement that leaves the bookkeeping and the arrays alone has the effect of no statement. -/
theorem of_nil {s t : Context} {stmt : Statement} (h : Effect s [] t)
    (hstep : ∀ step, StepState.after step stmt = step)
    (harrays : ∀ arrays, Arrays.after arrays stmt = arrays) : Effect s [stmt] t :=
  ⟨h.step_eq.trans (hstep s.step).symm, h.arrays_eq.trans (harrays s.arrays).symm, h.loops_eq,
    h.saved_eq, h.currentDay_eq, h.log_unnoted⟩

end Effect

/-! ## Runs of a body -/

section Runs

variable {ε α : Type}

theorem Context.evaluation_effect {act : Scope → EvalM α}
    (hact : ∀ scope, EvalM.Warns (act scope)) :
    Obeys Effect (Context.evaluation act) silent := by
  intro s r t h
  obtain ⟨log, rfl, hlog⟩ := Context.evaluation_start hact h
  exact Effect.of_row_log s.row hlog.unnoted

theorem Context.evaluate_effect (e : Expr) : Obeys Effect (Context.evaluate e) silent :=
  Context.evaluation_effect fun scope => e.eval_warns scope

theorem Context.holds_effect (e : Expr) : Obeys Effect (Context.holds e) silent :=
  Obeys.bind_then_silent Effect.law (Context.evaluate_effect e) fun _ => Obeys.pure Effect.law _

theorem Context.mapRow_effect (f : Row → Row) :
    Obeys Effect (modify (Context.mapRow f) : ContextM PUnit) silent :=
  Obeys.modify fun s => Effect.of_row_log (f s.row) (Log.Extends.refl _)

theorem Context.hasPass_effect (limit : Nat) (kind : LoopKind) (condition : Option Expr) :
    Obeys Effect (Context.hasPass limit kind condition) silent := by
  intro s r t h
  obtain ⟨log, rfl, hlog⟩ := Context.hasPass_start h
  exact Effect.of_row_log s.row hlog

/-- An assignment changes the row and the log. -/
theorem Context.assign_effect (target : Target) (value : Expr) :
    Obeys Effect (Context.assign target value) silent := by
  apply Obeys.bind_then_silent Effect.law (Context.evaluate_effect value)
  intro v
  rcases target with name | ⟨array, index⟩
  · exact Context.mapRow_effect _
  · apply Obeys.bind_then_silent Effect.law
    · apply Context.evaluation_effect
      intro scope
      exact scope.resolve_warns array index
    · intro name
      exact Context.mapRow_effect _

theorem Context.foldl_retainItem (items : List RetainItem) (s : Context) :
    ∃ row, items.foldl Context.retainItem s =
      { s with row, step := s.step.after (.retain items) } := by
  induction items generalizing s with
  | nil => exact ⟨s.row, rfl⟩
  | cons item items ih =>
    obtain ⟨row, hrow⟩ := ih (Context.retainItem s item)
    exact ⟨row, by rw [List.foldl_cons, hrow]; rfl⟩

theorem startCounted_effect (counter : String) (start stop : Expr) (increment : Option Expr) :
    Obeys Effect (startCounted counter start stop increment) silent := by
  apply Obeys.bind_then_silent Effect.law (Context.evaluate_effect start)
  intro first
  apply Obeys.bind_then_silent Effect.law (Context.evaluate_effect stop)
  intro value
  extract_lets last afterIncrement
  have hset : ∀ step, Obeys Effect (afterIncrement step) silent := by
    intro step
    have hrest : Obeys Effect (do
        modify (Context.mapRow fun row => row.insert counter first.toNumeric)
        pure (last, step) : ContextM (Option Number × Number)) silent := by
      apply Obeys.bind_then_silent Effect.law (Context.mapRow_effect _)
      intro _
      exact Obeys.pure Effect.law _
    dsimp only [afterIncrement]
    cases step.isZero with
    | true =>
      apply Obeys.bind_then_silent Effect.law (Obeys.throw Effect.law _)
      intro _
      exact hrest
    | false => exact hrest
  cases increment with
  | none => exact Obeys.bind_then_silent Effect.law (Obeys.pure Effect.law _) hset
  | some e =>
    apply Obeys.bind_then_silent Effect.law (Context.evaluate_effect e)
    intro given
    exact Obeys.bind_then_silent Effect.law (Obeys.pure Effect.law _) hset

/-- The counter of a loop is a number that has not passed the end. -/
def CounterInRange (counter : String) (last increment : Number) (ctx : Context) : Prop :=
  ∃ current, (Row.value ctx.row counter).toNumber? = some current ∧
    inRange increment current last = true

section CountedPasses

variable {ι : Type} {counter : String} {last increment : Number} {ctx : Context}

theorem countedTrace_of_inRange (h : CounterInRange counter last increment ctx)
    (body : Trace Context ι) :
    countedTrace counter last increment body ctx = body ctx := by
  obtain ⟨current, hcurrent, hrange⟩ := h
  rw [countedTrace, hcurrent]
  exact if_pos hrange

theorem countedTrace_of_not_inRange (h : ¬ CounterInRange counter last increment ctx)
    (body : Trace Context ι) : countedTrace counter last increment body ctx = [] := by
  unfold countedTrace
  split
  · rfl
  · rename_i current hcurrent
    exact if_neg fun hrange => h ⟨current, hcurrent, hrange⟩

theorem mem_countedTrace_iff {body : Trace Context ι} {e : ι} :
    e ∈ countedTrace counter last increment body ctx ↔
      CounterInRange counter last increment ctx ∧ e ∈ body ctx := by
  by_cases h : CounterInRange counter last increment ctx
  · simp [countedTrace_of_inRange h, h]
  · simp [countedTrace_of_not_inRange h, h]

/-- A pass of a counted loop whose counter is in range is one over its body. -/
theorem countedPass_start_of_inRange (h : CounterInRange counter last increment ctx)
    (body : ContextM Flow) : (countedPass counter last increment body).start ctx =
      (do
        match ← body with
        | .endOfPass => pure (some .endOfPass)
        | .next =>
          modify (Context.mapRow fun row =>
            let next := (Row.value row counter).toNumber?.map fun n => n.add increment
            row.insert counter (.ofNumber? next))
          pure none : ContextM (Option Flow)).start ctx := by
  obtain ⟨current, hcurrent, hrange⟩ := h
  rw [countedPass, Run.start_bind_of_ok (Run.start_get ctx), hcurrent]
  exact congrArg (fun act => Run.start act ctx) (if_pos hrange)

/-- Otherwise the loop is over. -/
theorem countedPass_start_of_not_inRange (h : ¬ CounterInRange counter last increment ctx)
    (body : ContextM Flow) :
    (countedPass counter last increment body).start ctx = .ok (.ok (some .next), ctx) := by
  rw [countedPass, Run.start_bind_of_ok (Run.start_get ctx)]
  cases hcurrent : (Row.value ctx.row counter).toNumber? with
  | none => rfl
  | some current =>
    dsimp only
    rw [if_neg fun hrange => h ⟨current, hcurrent, hrange⟩]
    rfl

end CountedPasses

/-- A pass of a counted loop has the effect of its body. -/
theorem countedPass_effect {counter : String} {last increment : Number} {body : ContextM Flow}
    {trace : Trace Context Statement} (hbody : Obeys Effect body trace) :
    Obeys Effect (countedPass counter last increment body)
      (countedTrace counter last increment trace) := by
  intro s r t h
  by_cases hrange : CounterInRange counter last increment s
  · rw [countedPass_start_of_inRange hrange] at h
    rw [countedTrace_of_inRange hrange]
    refine Obeys.bind_then_silent Effect.law hbody (fun flow => ?_) h
    cases flow with
    | endOfPass => exact Obeys.pure Effect.law _
    | next =>
      apply Obeys.bind_then_silent Effect.law (Context.mapRow_effect _)
      intro _
      exact Obeys.pure Effect.law _
  · rw [countedPass_start_of_not_inRange hrange] at h
    rw [countedTrace_of_not_inRange hrange]
    cases h
    exact Effect.law.refl s

theorem notInBody_effect (stmt : Statement) (hstep : ∀ step, StepState.after step stmt = step)
    (harrays : ∀ arrays, Arrays.after arrays stmt = arrays) :
    Obeys Effect (notInBody stmt) fun _ => [stmt] := by
  intro s r t h
  cases h
  exact (Effect.law.refl s).of_nil hstep harrays

theorem Context.declareArray_effect (name : String) (size : Nat) (vars : List String) :
    Obeys Effect (Context.declareArray name size vars) fun _ => [.array name size vars] := by
  intro s r t h
  rw [Context.declareArray] at h
  by_cases hsize : size = vars.length
  · rw [if_neg (by simp [hsize])] at h
    cases h
    exact ⟨rfl, (if_pos hsize).symm, rfl, rfl, rfl, Log.Extends.refl _⟩
  · rw [if_pos (by simp [hsize])] at h
    cases h
    exact ⟨rfl, (if_neg hsize).symm, rfl, rfl, rfl, Log.Extends.refl _⟩

theorem Context.endPass_effect : Obeys Effect Context.endPass silent := by
  apply Obeys.bind_then_silent Effect.law (Obeys.get Effect.law)
  intro ctx
  cases ctx.loops.isEmpty with
  | true => exact Obeys.throw Effect.law _
  | false => exact Obeys.pure Effect.law _

end Runs

/-! ## Statements -/

namespace Statement

variable {passes limit : Nat}

theorem perform_conditionalDo (kind : LoopKind) (condition : Option Expr) (body : Statement) :
    (conditionalDo kind condition body).perform passes limit = (do
      Run.bracket Context.enterLoop Context.leaveLoop
        (Run.iterate (bodyLoop passes limit kind condition body).round passes)
      pure .next) := by
  rw [perform]
  rfl

theorem conditionalDo_effect {kind : LoopKind} {condition : Option Expr} {body : Statement}
    (hbody : Obeys Effect (body.perform passes limit) (body.performed passes limit)) :
    Obeys Effect ((conditionalDo kind condition body).perform passes limit)
      ((conditionalDo kind condition body).performed passes limit) := by
  have hhas : Obeys Effect (bodyLoop passes limit kind condition body).hasPass silent :=
    Context.hasPass_effect limit kind condition
  rw [perform_conditionalDo, performed]
  apply Obeys.bind_then_silent Effect.law (Loop.obeys Effect.law Effect.leaveLoop hhas hbody passes)
  intro _
  exact Obeys.pure Effect.law _

mutual

/-- **A statement of a body has the effect of the statements that it executes, however it ends.** -/
theorem perform_effect (passes limit : Nat) :
    ∀ stmt : Statement, Obeys Effect (stmt.perform passes limit) (stmt.performed passes limit)
  | .assign target value => by
    intro s r t h
    rw [perform] at h
    have heffect : Effect s [] t :=
      Obeys.bind_then_silent Effect.law (Context.assign_effect target value)
        (fun _ => Obeys.pure Effect.law _) h
    exact heffect.of_nil (fun _ => rfl) fun _ => rfl
  | .output => by
    intro s r t h
    rw [perform] at h
    cases h
    exact ⟨rfl, rfl, rfl, rfl, rfl, Log.Extends.refl _⟩
  | .drop vars => by
    intro s r t h
    rw [perform] at h
    cases h
    exact ⟨rfl, rfl, rfl, rfl, rfl, Log.Extends.refl _⟩
  | .keep vars => by
    intro s r t h
    rw [perform] at h
    cases h
    exact ⟨rfl, rfl, rfl, rfl, rfl, Log.Extends.refl _⟩
  | .retain items => by
    intro s r t h
    rw [perform] at h
    cases h
    obtain ⟨row, hrow⟩ := Context.foldl_retainItem items s
    simp only [hrow]
    exact ⟨rfl, rfl, rfl, rfl, rfl, Log.Extends.refl _⟩
  | .ifThen condition body => by
    rw [perform, performed]
    apply Obeys.bind_silent Effect.law (Context.holds_effect condition)
    intro holds
    cases holds with
    | true => exact performAll_effect passes limit body
    | false => exact Obeys.pure Effect.law _
  | .ifChain condition body elseIfs otherwise => by
    rw [perform, performed]
    apply Obeys.bind_silent Effect.law (Context.holds_effect condition)
    intro holds
    cases holds with
    | true => exact performAll_effect passes limit body
    | false =>
      exact performArms_effect passes limit (performAll_effect passes limit otherwise) elseIfs
  | .array name size vars => by
    rw [perform]
    apply Obeys.bind_then_silent Effect.law (Context.declareArray_effect name size vars)
    intro _
    exact Obeys.pure Effect.law _
  | .conditionalDo kind condition body => conditionalDo_effect (perform_effect passes limit body)
  | .endPass => by
    intro s r t h
    rw [perform] at h
    exact (Context.endPass_effect h).of_nil (fun _ => rfl) fun _ => rfl
  | .countedDo counter start stop increment body => by
    rw [perform, performed]
    apply Obeys.bind_silent Effect.law (startCounted_effect counter start stop increment)
    rintro ⟨_ | last, step⟩
    · exact Obeys.pure Effect.law _
    · exact Obeys.iterate Effect.law
        (countedPass_effect (performAll_effect passes limit body)) passes
  | .block body => by
    rw [perform, performed]
    exact performAll_effect passes limit body
  | .merge datasets => by
    intro s r t h
    rw [perform] at h
    cases h
    exact (Effect.law.refl s).of_nil (fun _ => rfl) fun _ => rfl
  | .byVariables vars => by
    intro s r t h
    rw [perform] at h
    cases h
    exact (Effect.law.refl s).of_nil (fun _ => rfl) fun _ => rfl
  | .dataStep header body => by
    rw [perform]
    exact notInBody_effect _ (fun _ => rfl) fun _ => rfl
  | .options settings => by
    rw [perform]
    exact notInBody_effect _ (fun _ => rfl) fun _ => rfl
  | .libname libref path => by
    rw [perform]
    exact notInBody_effect _ (fun _ => rfl) fun _ => rfl
  | .title text => by
    rw [perform]
    exact notInBody_effect _ (fun _ => rfl) fun _ => rfl
  | .proc p => by
    rw [perform]
    exact notInBody_effect _ (fun _ => rfl) fun _ => rfl

/-- Statements in order have the effect of the statements that they execute. -/
theorem performAll_effect (passes limit : Nat) :
    ∀ stmts : List Statement,
      Obeys Effect (performAll passes limit stmts) (performedAll passes limit stmts)
  | [] => by
    rw [performAll, performedAll]
    exact Obeys.pure Effect.law _
  | stmt :: rest => by
    rw [performAll, performedAll]
    apply Obeys.bind Effect.law (perform_effect passes limit stmt)
    intro flow
    cases flow with
    | next => exact performAll_effect passes limit rest
    | endOfPass => exact Obeys.pure Effect.law _

/-- The arms of a condition have the effect of the statements that they execute. -/
theorem performArms_effect (passes limit : Nat) {otherwise : ContextM Flow}
    {trace : Trace Context Statement} (hotherwise : Obeys Effect otherwise trace) :
    ∀ arms : List (Expr × List Statement),
      Obeys Effect (performArms passes limit otherwise arms) (performedArms passes limit trace arms)
  | [] => by
    rw [performArms, performedArms]
    exact hotherwise
  | (condition, body) :: arms => by
    rw [performArms, performedArms]
    apply Obeys.bind_silent Effect.law (Context.holds_effect condition)
    intro holds
    cases holds with
    | true => exact performAll_effect passes limit body
    | false => exact performArms_effect passes limit hotherwise arms

end

/-! ## Parts of the context that stay -/

section Keeps

variable {α β : Type} {read : Context → β}
  (hread : ∀ {s stmts t}, Effect s stmts t → read t = read s)

include hread

/-- What no effect changes is left by a run that has the effect of statements. -/
theorem keeps_of_effect {act : ContextM α} {trace : Trace Context Statement}
    (h : Obeys Effect act trace) : Keeps read act := fun _ _ _ hs => hread (h hs)

/-- A round of a loop leaves it, too, if the count of the passes does not matter to it. -/
theorem keeps_round (hcount : ∀ ctx : Context, read ctx.countPass = read ctx) (kind : LoopKind)
    (condition : Option Expr) (body : Statement) :
    Keeps read (bodyLoop passes limit kind condition body).round := by
  apply Keeps.bind (keeps_of_effect hread (Context.hasPass_effect limit kind condition))
  intro more
  apply Keeps.ite
  · apply Keeps.bind
    · apply Keeps.bind (keeps_of_effect hread (perform_effect passes limit body))
      intro flow
      exact Keeps.modify hcount
    · intro _
      exact Keeps.pure _
  · exact Keeps.pure _

end Keeps

end Statement

end DataStep
