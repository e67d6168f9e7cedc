import DataStep.Proofs.Moments
import DataStep.Proofs.Rounds

/-!
# Where a body fails

A statement without parts that fails at some moment of a body ends the whole body there, at whatever
depth it stands: the body fails with its error, and the context at the end is the one in which the
statement failed, but for the counters of the loops that were left on the way (`performAll_fails`).
-/

set_option autoImplicit false

namespace DataStep

open Run (Trace Keeps Obeys follow repeated silent)

namespace Statement

variable {passes limit : Nat} {α β : Type}

/-- A run fails as the statements on its way do. What is read of the counters of the running loops
is what it was before the run. -/
def Fails (passes limit : Nat) (read : List Nat → List Nat) (act : ContextM α)
    (trace : Trace Context (Statement × Context)) : Prop :=
  ∀ ⦃ctx stmt moment e t⦄, (stmt, moment) ∈ trace ctx →
    (stmt.perform passes limit).start moment = .ok (.error e, t) →
      ∃ loops, act.start ctx = .ok (.error e, { t with loops }) ∧ read loops = read ctx.loops

namespace Fails

variable {read : List Nat → List Nat} {act : ContextM α}
    {trace : Trace Context (Statement × Context)}

theorem silent : Fails passes limit read act silent := fun _ _ _ _ _ h => nomatch h

theorem mono (h : Fails passes limit id act trace) : Fails passes limit read act trace := by
  intro ctx stmt moment e t hmem hstmt
  obtain ⟨loops, hstart, hloops⟩ := h hmem hstmt
  exact ⟨loops, hstart, congrArg read hloops⟩

/-- A failure of the first part is one of the sequence. -/
theorem bind (h : Fails passes limit read act trace) (next : α → ContextM β) :
    Fails passes limit read (act >>= next) trace := by
  intro ctx stmt moment e t hmem hstmt
  obtain ⟨loops, hstart, hloops⟩ := h hmem hstmt
  exact ⟨loops, Run.start_bind_of_error hstart, hloops⟩

/-- A failure of the second part is one of the sequence. -/
theorem follow {next : α → ContextM β} {after : α → Trace Context (Statement × Context)}
    (hact : Keeps (fun ctx : Context => read ctx.loops) act)
    (h : ∀ a, Fails passes limit read (next a) (after a)) :
    Fails passes limit read (act >>= next) (act.follow after) := by
  intro ctx stmt moment e t hmem hstmt
  unfold Run.follow at hmem
  split at hmem
  · rename_i a u ha
    obtain ⟨loops, hstart, hloops⟩ := h a hmem hstmt
    exact ⟨loops, (Run.start_bind_of_ok ha).trans hstart, hloops.trans (hact ha)⟩
  · cases hmem

theorem append {next : α → ContextM β} {after : α → Trace Context (Statement × Context)}
    (hact : Keeps (fun ctx : Context => read ctx.loops) act) (h : Fails passes limit read act trace)
    (hnext : ∀ a, Fails passes limit read (next a) (after a)) :
    Fails passes limit read (act >>= next) fun ctx => trace ctx ++ act.follow after ctx := by
  intro ctx stmt moment e t hmem hstmt
  rcases List.mem_append.1 hmem with hmem | hmem
  · exact h.bind next hmem hstmt
  · exact follow hact hnext hmem hstmt

/-- A failure of a round is one of the repetition. -/
theorem repeated {step : ContextM (Option α)}
    (hstep : Keeps (fun ctx : Context => read ctx.loops) step)
    (h : Fails passes limit read step trace) (n : Nat) :
    Fails passes limit read (Run.iterate step n) (repeated step trace n) := by
  intro ctx stmt moment e t hmem hstmt
  obtain ⟨k, hk, u, hu, hmem⟩ := Run.mem_repeated_iff.1 hmem
  obtain ⟨loops, hstart, hloops⟩ := h hmem hstmt
  exact ⟨loops, Run.iterate_start_eq_ok_iff.2 ⟨k, hk, u, hu, hstart⟩,
    hloops.trans (hstep.afterRounds hu)⟩

/-- A failure inside a loop leaves the loop. -/
theorem bracket (h : Fails passes limit List.tail act trace) :
    Fails passes limit id (Run.bracket Context.enterLoop Context.leaveLoop act)
      fun ctx => trace ctx.enterLoop := by
  intro ctx stmt moment e t hmem hstmt
  obtain ⟨loops, hstart, hloops⟩ := h hmem hstmt
  refine ⟨loops.tail, ?_, hloops⟩
  rw [Run.start_bracket, hstart]
  rfl

end Fails

/-- A run that has the effect of statements leaves the counters of the running loops. -/
theorem keepsLoops_of_effect {act : ContextM α} {trace : Trace Context Statement}
    (h : Obeys Effect act trace) (read : List Nat → List Nat) :
    Keeps (fun ctx : Context => read ctx.loops) act :=
  keeps_of_effect (fun heffect => congrArg read heffect.loops_eq) h

/-- A round of a loop leaves the counters of the loops around it. -/
theorem keepsOuterLoops_round (kind : LoopKind) (condition : Option Expr) (body : Statement) :
    Keeps (fun ctx : Context => ctx.loops.tail) (bodyLoop passes limit kind condition body).round :=
  keeps_round (fun heffect => congrArg List.tail heffect.loops_eq)
    (fun ctx => congrArg Context.loops (Context.leaveLoop_countPass ctx)) kind condition body

/-- A pass of a counted loop fails as its body does. -/
theorem Fails.counted {counter : String} {last increment : Number} {body : ContextM Flow}
    {trace : Trace Context (Statement × Context)} (h : Fails passes limit id body trace) :
    Fails passes limit id (countedPass counter last increment body)
      (countedTrace counter last increment trace) := by
  intro ctx stmt moment e t hmem hstmt
  obtain ⟨hrange, hmem⟩ := mem_countedTrace_iff.1 hmem
  rw [countedPass_start_of_inRange hrange]
  exact h.bind _ hmem hstmt

/-- A statement without parts fails as it does. -/
theorem fails_plain {stmt : Statement} (h : ∀ ctx, stmt.moments passes limit ctx = [(stmt, ctx)]) :
    Fails passes limit id (stmt.perform passes limit) (stmt.moments passes limit) := by
  intro ctx plain moment e t hmem hstmt
  rw [h, List.mem_singleton, Prod.mk.injEq] at hmem
  obtain ⟨rfl, rfl⟩ := hmem
  exact ⟨t.loops, hstmt, (perform_effect passes limit plain hstmt).loops_eq⟩

mutual

theorem perform_fails (passes limit : Nat) :
    ∀ stmt : Statement, Fails passes limit id (stmt.perform passes limit)
      (stmt.moments passes limit)
  | .ifThen condition body => by
    rw [perform, moments]
    -- conditions come before the statements that they guard and leave the counters
    apply Fails.follow (keepsLoops_of_effect (Context.holds_effect condition) id)
    intro holds
    cases holds with
    | true => exact performAll_fails passes limit body
    | false => exact Fails.silent
  | .ifChain condition body elseIfs otherwise => by
    rw [perform, moments]
    apply Fails.follow (keepsLoops_of_effect (Context.holds_effect condition) id)
    intro holds
    cases holds with
    | true => exact performAll_fails passes limit body
    | false =>
      exact performArms_fails passes limit (performAll_fails passes limit otherwise) elseIfs
  | .conditionalDo kind condition body => by
    rw [perform_conditionalDo, moments]
    -- a round counts in the counter of its own loop, so it is compared without that one
    have hround : Fails passes limit List.tail (bodyLoop passes limit kind condition body).round
        ((bodyLoop passes limit kind condition body).hasPass.follow fun
          | true => body.moments passes limit
          | false => silent) := by
      apply Fails.follow (keepsLoops_of_effect
        (Context.hasPass_effect limit kind condition) List.tail)
      intro more
      cases more with
      | true => exact ((perform_fails passes limit body).mono.bind _).bind _
      | false => exact Fails.silent
    exact ((hround.repeated (keepsOuterLoops_round kind condition body) passes).bracket).bind _
  | .countedDo counter start stop increment body => by
    rw [perform, moments]
    apply Fails.follow (keepsLoops_of_effect (startCounted_effect counter start stop increment) id)
    rintro ⟨_ | last, step⟩
    · exact Fails.silent
    · apply Fails.repeated
      · exact keepsLoops_of_effect (countedPass_effect (performAll_effect passes limit body)) id
      · exact (performAll_fails passes limit body).counted
  | .block body => by
    rw [perform, moments]
    exact performAll_fails passes limit body
  | .assign .. => fails_plain fun _ => rfl
  | .output => fails_plain fun _ => rfl
  | .drop .. => fails_plain fun _ => rfl
  | .keep .. => fails_plain fun _ => rfl
  | .retain .. => fails_plain fun _ => rfl
  | .array .. => fails_plain fun _ => rfl
  | .endPass => fails_plain fun _ => rfl
  | .merge .. => fails_plain fun _ => rfl
  | .byVariables .. => fails_plain fun _ => rfl
  | .dataStep .. => fails_plain fun _ => rfl
  | .options .. => fails_plain fun _ => rfl
  | .libname .. => fails_plain fun _ => rfl
  | .title .. => fails_plain fun _ => rfl
  | .proc .. => fails_plain fun _ => rfl

/-- **A body fails where a statement of it does.** -/
theorem performAll_fails (passes limit : Nat) :
    ∀ stmts : List Statement,
      Fails passes limit id (performAll passes limit stmts) (momentsAll passes limit stmts)
  | [] => by
    rw [momentsAll]
    exact Fails.silent
  | stmt :: rest => by
    rw [performAll, momentsAll]
    apply Fails.append (keepsLoops_of_effect (perform_effect passes limit stmt) id)
      (perform_fails passes limit stmt)
    intro flow
    cases flow with
    | next => exact performAll_fails passes limit rest
    | endOfPass => exact Fails.silent

theorem performArms_fails (passes limit : Nat) {otherwise : ContextM Flow}
    {moments : Trace Context (Statement × Context)}
    (hotherwise : Fails passes limit id otherwise moments) :
    ∀ arms : List (Expr × List Statement),
      Fails passes limit id (performArms passes limit otherwise arms)
      (momentsArms passes limit moments arms)
  | [] => by
    rw [performArms, momentsArms]
    exact hotherwise
  | (condition, body) :: arms => by
    rw [performArms, momentsArms]
    apply Fails.follow (keepsLoops_of_effect (Context.holds_effect condition) id)
    intro holds
    cases holds with
    | true => exact performAll_fails passes limit body
    | false => exact performArms_fails passes limit hotherwise arms

end

end Statement

end DataStep
