import DataStep.Proofs.Agreement
import DataStep.Proofs.Body

/-!
# Bodies on contexts with different pasts

Two contexts are twins since two logs if the same entries have come to the logs and all else is
equal but for the day (`Context.Twins`). Nothing that a body executes reads the log, and only
`today` reads the day, so a body that does not call it comes to the same on twins
(`Statement.performAll_agrees`). A pass over an input row replaces the row in the making, so it
comes to the same if the rows before it differ, too (`Context.pass_agrees`).
-/

set_option autoImplicit false

namespace DataStep

open Run (Agree)

/-! ## The current day -/

namespace Builtin

theorem apply_currentDay {b : Builtin} (hb : b ≠ today) (args : List Value) (day other : Int) :
    b.apply day args = b.apply other args := by
  unfold apply
  split
  all_goals first
    | rfl
    | exact absurd rfl hb

theorem call_currentDay {name : String}
    (h : (ofName? name == some today) = false) (args : List Value)
    (day other : Int) : call day name args = call other name args := by
  unfold call
  cases hname : ofName? name with
  | none => rfl
  | some b =>
    rw [hname] at h
    exact apply_currentDay (fun hb => by simp [hb] at h) args day other

end Builtin

mutual

/-- Whether `today` is called in an expression. -/
def Expr.usesToday : Expr → Bool
  | .number _ => false
  | .text _ => false
  | .variable _ => false
  | .element _ index => index.usesToday
  | .binary _ left right => left.usesToday || right.usesToday
  | .call name args => Builtin.ofName? name == some .today || Expr.anyUsesToday args

/-- Whether `today` is called in some of the expressions. -/
def Expr.anyUsesToday : List Expr → Bool
  | [] => false
  | e :: es => e.usesToday || Expr.anyUsesToday es

end

mutual

/-- **The value of an expression without `today` does not depend on the day.** -/
theorem Expr.eval_currentDay (scope : Scope) (day : Int) : ∀ e : Expr, e.usesToday = false →
    e.eval { scope with currentDay := day } = e.eval scope
  | .number _, _ => rfl
  | .text _, _ => rfl
  | .variable _, _ => rfl
  | .element array index, h => by
    rw [Expr.usesToday] at h
    rw [Expr.eval, Expr.eval, Expr.eval_currentDay scope day index h]
    rfl
  | .binary op left right, h => by
    rw [Expr.usesToday, Bool.or_eq_false_iff] at h
    rw [Expr.eval, Expr.eval, Expr.eval_currentDay scope day left h.1,
      Expr.eval_currentDay scope day right h.2]
  | .call name args, h => by
    rw [Expr.usesToday, Bool.or_eq_false_iff] at h
    rw [Expr.eval, Expr.eval, Expr.evalAll_currentDay scope day args h.2]
    exact congrArg _ (funext fun vs => Builtin.call_currentDay h.1 vs day scope.currentDay)

theorem Expr.evalAll_currentDay (scope : Scope) (day : Int) :
    ∀ es : List Expr, Expr.anyUsesToday es = false →
      Expr.evalAll { scope with currentDay := day } es = Expr.evalAll scope es
  | [], _ => rfl
  | e :: es, h => by
    rw [Expr.anyUsesToday, Bool.or_eq_false_iff] at h
    rw [Expr.evalAll, Expr.evalAll, Expr.eval_currentDay scope day e h.1,
      Expr.evalAll_currentDay scope day es h.2]

end

theorem Scope.resolve_currentDay (scope : Scope) (day : Int) (array : String) {index : Expr}
    (h : index.usesToday = false) :
    ({ scope with currentDay := day } : Scope).resolve array index = scope.resolve array index := by
  rw [Scope.resolve, Scope.resolve, Expr.eval_currentDay scope day index h]
  rfl

/-- Whether `today` is called in the target of an assignment. -/
def Target.usesToday : Target → Bool
  | .variable _ => false
  | .element _ index => index.usesToday

mutual

/-- Whether a statement of a body calls `today`. What may only stand at the top level
evaluates nothing in a body. -/
def Statement.usesToday : Statement → Bool
  | .assign target value => target.usesToday || value.usesToday
  | .ifThen condition body => condition.usesToday || Statement.anyUsesToday body
  | .ifChain condition body elseIfs otherwise =>
    condition.usesToday || Statement.anyUsesToday body || Statement.armsUseToday elseIfs ||
      Statement.anyUsesToday otherwise
  | .conditionalDo _ condition body => condition.any Expr.usesToday || body.usesToday
  | .countedDo _ start stop increment body =>
    start.usesToday || stop.usesToday || increment.any Expr.usesToday || Statement.anyUsesToday body
  | .block body => Statement.anyUsesToday body
  | _ => false

/-- Whether some of the statements of a body call `today`. -/
def Statement.anyUsesToday : List Statement → Bool
  | [] => false
  | stmt :: rest => stmt.usesToday || Statement.anyUsesToday rest

/-- Whether some of the arms of a condition call `today`. -/
def Statement.armsUseToday : List (Expr × List Statement) → Bool
  | [] => false
  | (condition, body) :: arms =>
    condition.usesToday || Statement.anyUsesToday body || Statement.armsUseToday arms

end

/-! ## Twins -/

namespace Context

variable {log log' : Log} {α : Type}

/-- Two contexts in which the same has happened since two logs. -/
def Twins (log log' : Log) (c c' : Context) : Prop :=
  ∃ (entries : Log) (day : Int), c.log = log ++ entries ∧
    c' = { c with log := log' ++ entries, currentDay := day }

/-- A change of the context that does not see the log and the day. -/
def Unaware (change : Context → Context) : Prop :=
  ∀ (c : Context) (log : Log) (day : Int),
    change { c with log, currentDay := day } = { change c with log, currentDay := day }

namespace Unaware

variable {change : Context → Context}

theorem log_eq (h : Unaware change) (c : Context) : (change c).log = c.log := by
  have hsame := congrArg Context.log (h c c.log c.currentDay)
  exact hsame

theorem foldl {step : Context → α → Context} (h : ∀ a, Unaware fun c => step c a) (as : List α) :
    Unaware fun c => as.foldl step c := by
  induction as with
  | nil => exact fun _ _ _ => rfl
  | cons a as ih =>
    intro c log day
    exact (congrArg (as.foldl step) (h a c log day)).trans (ih (step c a) log day)

theorem twins (h : Unaware change) {c c' : Context} (hc : Twins log log' c c') :
    Twins log log' (change c) (change c') := by
  obtain ⟨entries, day, hlog, rfl⟩ := hc
  exact ⟨entries, day, (h.log_eq c).trans hlog, h c _ _⟩

theorem agree (h : Unaware change) :
    Agree (Twins log log') (modify change : ContextM PUnit) (modify change) :=
  Agree.modify fun _ _ => h.twins

theorem countPass : Unaware countPass := by
  rintro ⟨row, saved, step, loops, arrays, old, today⟩ log day
  cases loops <;> rfl

theorem saveOrRestore (name : String) : Unaware fun c => c.saveOrRestore name := by
  intro c log day
  dsimp only [Context.saveOrRestore]
  cases c.row.get? name with
  | some v => rfl
  | none =>
    dsimp only
    split <;> rfl

theorem finishPass : Unaware finishPass := by
  intro c log day
  exact foldl saveOrRestore c.step.retain
    { c with row := c.row.filterKeys fun name => !c.step.excludes name } log day

end Unaware

/-- An entry comes to the logs of both. -/
theorem Twins.push {c c' : Context} (h : Twins log log' c c') (entry : LogEntry) :
    Twins log log' (c.mapLog (Array.push · entry)) (c'.mapLog (Array.push · entry)) := by
  obtain ⟨entries, day, hlog, rfl⟩ := h
  refine ⟨entries.push entry, day, ?_, ?_⟩
  · change c.log.push entry = _
    rw [hlog, Array.append_push]
  · change { c with log := (log' ++ entries).push entry, currentDay := day } = _
    rw [Array.append_push]
    rfl

/-- **What an evaluation comes to depends on neither the log nor the day.** -/
theorem evaluation_agrees {act : Scope → EvalM α} (hwritten : ∀ scope, EvalM.Written (act scope))
    (hday : ∀ scope day, act { scope with currentDay := day } = act scope) :
    Agree (Twins log log') (evaluation act) (evaluation act) := by
  rintro c _ ⟨entries, day, hlog, rfl⟩
  -- what the evaluation writes is the same on every log
  obtain ⟨out, hout⟩ := hwritten c.scope
  have hscope : act ({ c with log := log' ++ entries, currentDay := day } : Context).scope =
      act c.scope := hday c.scope day
  rw [evaluation, Run.start_of, Run.start_of, Run.start_within,
    Run.start_within, hscope, hout.start_eq, hout.start_eq]
  cases out with
  | error halt => exact .halts halt
  | ok result =>
    refine .ends _ ⟨entries ++ result.2.toArray, day, ?_, ?_⟩
    · change c.log ++ result.2.toArray = _
      rw [hlog, Array.append_assoc]
    · change { c with log := log' ++ entries ++ result.2.toArray, currentDay := day } = _
      rw [Array.append_assoc]

theorem evaluate_agrees {e : Expr} (h : e.usesToday = false) :
    Agree (Twins log log') (evaluate e) (evaluate e) :=
  evaluation_agrees (fun scope => e.eval_written scope) fun scope day =>
    e.eval_currentDay scope day h

theorem holds_agrees {e : Expr} (h : e.usesToday = false) :
    Agree (Twins log log') (holds e) (holds e) := by
  apply Agree.bind (evaluate_agrees h)
  intro v
  exact .pure _

theorem wantsPass_agrees (kind : LoopKind) {condition : Option Expr}
    (h : condition.any Expr.usesToday = false) :
    Agree (Twins log log') (wantsPass kind condition) (wantsPass kind condition) := by
  cases condition with
  | none => exact .pure _
  | some condition =>
    apply Agree.bind (holds_agrees h)
    intro b
    cases kind <;> exact .pure _

theorem hasPass_agrees (limit : Nat) (kind : LoopKind) {condition : Option Expr}
    (h : condition.any Expr.usesToday = false) :
    Agree (Twins log log') (hasPass limit kind condition) (hasPass limit kind condition) := by
  apply Agree.bind (wantsPass_agrees kind h)
  intro more
  refine .ite more (.get_bind ?_) (.pure _)
  rintro c _ ⟨entries, day, hlog, rfl⟩
  -- the limit is compared with the counter of the loop, which twins share
  dsimp only
  split
  · apply Agree.bind (Agree.modify fun _ _ hc => hc.push _)
    intro _
    exact .pure _
  · exact .pure _

/-- **An assignment comes to the same on twins.** -/
theorem assign_agrees {target : Target} {value : Expr} (htarget : target.usesToday = false)
    (hvalue : value.usesToday = false) :
    Agree (Twins log log') (assign target value) (assign target value) := by
  apply Agree.bind (evaluate_agrees hvalue)
  intro v
  have hset : ∀ name, Agree (Twins log log')
      (modify (mapRow fun row => row.insert name v) : ContextM PUnit)
      (modify (mapRow fun row => row.insert name v)) :=
    fun name => Unaware.agree fun _ _ _ => rfl
  rcases target with name | ⟨array, index⟩
  · exact hset name
  · refine .bind (evaluation_agrees (fun scope => scope.resolve_written array index) ?_) hset
    intro scope day
    exact scope.resolve_currentDay day array htarget

theorem declareArray_agrees (name : String) (size : Nat) (vars : List String) :
    Agree (Twins log log') (declareArray name size vars) (declareArray name size vars) :=
  .ite _ (.throw _) (Unaware.agree fun _ _ _ => rfl)

theorem endPass_agrees : Agree (Twins log log') endPass endPass := by
  apply Agree.get_bind
  rintro c _ ⟨entries, day, hlog, rfl⟩
  exact .ite _ (.throw _) (.pure _)

end Context

open Context (Twins Unaware)

/-! ## Counted loops -/

section CountedLoops

variable {log log' : Log} {counter : String}

theorem startCounted_agrees {start stop : Expr} {increment : Option Expr}
    (hstart : start.usesToday = false) (hstop : stop.usesToday = false)
    (hincrement : increment.any Expr.usesToday = false) :
    Agree (Twins log log') (startCounted counter start stop increment)
      (startCounted counter start stop increment) := by
  apply Agree.bind (Context.evaluate_agrees hstart)
  intro first
  apply Agree.bind (Context.evaluate_agrees hstop)
  intro value
  extract_lets last afterIncrement
  have hset : ∀ step, Agree (Twins log log') (afterIncrement step) (afterIncrement step) := by
    intro step
    have hrest : Agree (Twins log log') (do
        modify (Context.mapRow fun row => row.insert counter first.toNumeric)
        pure (last, step) : ContextM (Option Number × Number)) (do
        modify (Context.mapRow fun row => row.insert counter first.toNumeric)
        pure (last, step)) := by
      apply Agree.bind (Unaware.agree fun _ _ _ => rfl)
      intro _
      exact .pure _
    exact .ite _ (.bind (.throw _) fun _ => hrest) hrest
  cases increment with
  | none => exact .bind (.pure _) hset
  | some e =>
    apply Agree.bind (Context.evaluate_agrees hincrement)
    intro given
    exact .bind (.pure _) hset

theorem countedPass_agrees {last increment : Number} {body : ContextM Flow}
    (hbody : Agree (Twins log log') body body) :
    Agree (Twins log log') (countedPass counter last increment body)
      (countedPass counter last increment body) := by
  apply Agree.get_bind
  rintro c _ ⟨entries, day, hlog, rfl⟩
  dsimp only
  cases (Row.value c.row counter).toNumber? with
  | none => exact .pure _
  | some current =>
    refine .ite _ (.bind hbody fun flow => ?_) (.pure _)
    cases flow with
    | endOfPass => exact .pure _
    | next =>
      apply Agree.bind (Unaware.agree fun _ _ _ => rfl)
      intro _
      exact .pure _

end CountedLoops

/-! ## Statements -/

namespace Statement

variable {log log' : Log} {passes limit : Nat}

/-- What goes on with the next statement after a change of the context. -/
theorem agree_modify_next {change : Context → Context} (h : Unaware change) :
    Agree (Twins log log') (do modify change; pure .next : ContextM Flow)
      (do modify change; pure .next) :=
  .bind h.agree fun _ => .pure _

theorem conditionalDo_agrees (kind : LoopKind) {condition : Option Expr} {body : Statement}
    (hcondition : condition.any Expr.usesToday = false)
    (hbody : Agree (Twins log log') (body.perform passes limit) (body.perform passes limit)) :
    Agree (Twins log log') ((conditionalDo kind condition body).perform passes limit)
      ((conditionalDo kind condition body).perform passes limit) := by
  have hround : Agree (Twins log log') (bodyLoop passes limit kind condition body).round
      (bodyLoop passes limit kind condition body).round := by
    apply Agree.bind (Context.hasPass_agrees limit kind hcondition)
    intro more
    refine .ite more (.bind (.bind hbody fun flow => ?_) fun _ => .pure _) (.pure _)
    exact Unaware.countPass.agree
  rw [perform_conditionalDo]
  apply Agree.bind
  · apply (hround.iterate passes).bracket
    · exact fun c c' => Unaware.twins fun _ _ _ => rfl
    · exact fun c c' => Unaware.twins fun _ _ _ => rfl
  · intro _
    exact .pure _

mutual

theorem perform_agrees (log log' : Log) (passes limit : Nat) :
    ∀ stmt : Statement, stmt.usesToday = false →
      Agree (Twins log log') (stmt.perform passes limit) (stmt.perform passes limit)
  | .assign target value, h => by
    rw [usesToday, Bool.or_eq_false_iff] at h
    exact .bind (Context.assign_agrees h.1 h.2) fun _ => .pure _
  | .ifThen condition body, h => by
    rw [usesToday, Bool.or_eq_false_iff] at h
    rw [perform]
    apply Agree.bind (Context.holds_agrees h.1)
    intro holds
    exact .ite holds (performAll_agrees log log' passes limit body h.2) (.pure _)
  | .ifChain condition body elseIfs otherwise, h => by
    simp only [usesToday, Bool.or_eq_false_iff] at h
    obtain ⟨⟨⟨hcondition, hbody⟩, harms⟩, hotherwise⟩ := h
    rw [perform]
    apply Agree.bind (Context.holds_agrees hcondition)
    intro holds
    refine .ite holds (performAll_agrees log log' passes limit body hbody) ?_
    exact performArms_agrees log log' passes limit
      (performAll_agrees log log' passes limit otherwise hotherwise) elseIfs harms
  | .conditionalDo kind condition body, h => by
    rw [usesToday, Bool.or_eq_false_iff] at h
    exact conditionalDo_agrees kind h.1 (perform_agrees log log' passes limit body h.2)
  | .countedDo counter start stop increment body, h => by
    simp only [usesToday, Bool.or_eq_false_iff] at h
    obtain ⟨⟨⟨hstart, hstop⟩, hincrement⟩, hbody⟩ := h
    rw [perform]
    apply Agree.bind (startCounted_agrees hstart hstop hincrement)
    rintro ⟨_ | last, step⟩
    · exact .pure _
    · exact (countedPass_agrees (performAll_agrees log log' passes limit body hbody)).iterate passes
  | .block body, h => by
    rw [perform]
    exact performAll_agrees log log' passes limit body h
  | .output, _ => agree_modify_next fun _ _ _ => rfl
  | .drop vars, _ => agree_modify_next fun _ _ _ => rfl
  | .keep vars, _ => agree_modify_next fun _ _ _ => rfl
  | .retain items, _ => agree_modify_next (Unaware.foldl (fun _ _ _ _ => rfl) items)
  | .array name size vars, _ => .bind (Context.declareArray_agrees name size vars) fun _ => .pure _
  | .endPass, _ => Context.endPass_agrees
  | .merge .., _ => .pure _
  | .byVariables .., _ => .pure _
  | .dataStep .., _ => .throw _
  | .options .., _ => .throw _
  | .libname .., _ => .throw _
  | .title .., _ => .throw _
  | .proc .., _ => .throw _

/-- **A body that does not call `today` comes to the same on contexts with different pasts.** -/
theorem performAll_agrees (log log' : Log) (passes limit : Nat) :
    ∀ stmts : List Statement, anyUsesToday stmts = false →
      Agree (Twins log log') (performAll passes limit stmts) (performAll passes limit stmts)
  | [], _ => by
    rw [performAll]
    exact .pure _
  | stmt :: rest, h => by
    rw [anyUsesToday, Bool.or_eq_false_iff] at h
    rw [performAll]
    apply Agree.bind (perform_agrees log log' passes limit stmt h.1)
    intro flow
    cases flow with
    | next => exact performAll_agrees log log' passes limit rest h.2
    | endOfPass => exact .pure _

theorem performArms_agrees (log log' : Log) (passes limit : Nat) {otherwise : ContextM Flow}
    (hotherwise : Agree (Twins log log') otherwise otherwise) :
    ∀ arms : List (Expr × List Statement), armsUseToday arms = false →
      Agree (Twins log log') (performArms passes limit otherwise arms)
        (performArms passes limit otherwise arms)
  | [], _ => by
    rw [performArms]
    exact hotherwise
  | (condition, body) :: arms, h => by
    simp only [armsUseToday, Bool.or_eq_false_iff] at h
    obtain ⟨⟨hcondition, hbody⟩, harms⟩ := h
    rw [performArms]
    apply Agree.bind (Context.holds_agrees hcondition)
    intro holds
    exact .ite holds (performAll_agrees log log' passes limit body hbody)
      (performArms_agrees log log' passes limit hotherwise arms harms)

end

end Statement

/-! ## Passes -/

/-- Two contexts in which the same has happened since two logs, but for the row in the making. -/
def Context.Siblings (log log' : Log) (c c' : Context) : Prop :=
  ∃ row, Twins log log' c { c' with row }

theorem Context.Twins.siblings {log log' : Log} {c c' : Context} (h : Twins log log' c c') :
    Siblings log log' c c' := ⟨c'.row, h⟩

theorem Context.beginPass_twins {log log' : Log} {c c' : Context} (h : Siblings log log' c c')
    (row : Row) : Twins log log' (c.beginPass row) (c'.beginPass row) := by
  obtain ⟨old, hold⟩ := h
  have hunaware : Unaware (beginPass row) := fun _ _ _ => rfl
  have hbegin : Twins log log' (c.beginPass row)
      (({ c' with row := old } : Context).beginPass row) :=
    hunaware.twins hold
  exact hbegin

/-- **A pass that does not call `today` comes to the same after different rows.** -/
theorem Context.pass_agrees {log log' : Log} {passes limit : Nat} {body : List Statement}
    (h : Statement.anyUsesToday body = false) (row : Row) :
    Agree (Siblings log log') (pass passes limit body row) (pass passes limit body row) := by
  intro c c' hc
  -- once the row is replaced, the contexts are twins
  have hrest : Agree (Twins log log') (do
      let _ ← Statement.performAll passes limit body
      modify finishPass
      let ctx ← get
      pure (if ctx.step.output then some ctx.row else none) : ContextM (Option Row)) (do
      let _ ← Statement.performAll passes limit body
      modify finishPass
      let ctx ← get
      pure (if ctx.step.output then some ctx.row else none)) := by
    apply Agree.bind (Statement.performAll_agrees log log' passes limit body h)
    intro flow
    apply Agree.bind Unaware.finishPass.agree
    intro _
    apply Agree.get_bind
    rintro d _ ⟨entries, day, hlog, rfl⟩
    exact .pure _
  rw [pass, Run.start_bind_of_ok (Run.start_modify (beginPass row) c),
    Run.start_bind_of_ok (Run.start_modify (beginPass row) c')]
  exact (hrest (beginPass_twins hc row)).mono fun _ _ => Twins.siblings

end DataStep
