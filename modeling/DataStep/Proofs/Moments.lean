import DataStep.Proofs.Body

/-!
# The contexts in which the statements of a body begin

`Statement.moments` tells which statements without parts a statement executes, like
`Statement.performed`, each with the context in which it begins (`performed_eq`). It also tells them
where the execution halts. Main statement: no statement of a body changes the saved values, so at
every moment they are those with which the body began (`throughout_momentsAll`).
-/

set_option autoImplicit false

namespace DataStep

namespace Run

variable {ε σ ι κ α β : Type}

/-! ## Traces -/

/-- A trace with something else told of each thing that happens. -/
def Trace.map (f : ι → κ) (trace : Trace σ ι) : Trace σ κ := fun s => (trace s).map f

theorem follow_map (act : Run ε σ α) (next : α → Trace σ ι) (f : ι → κ) :
    (act.follow next).map f = act.follow fun a => (next a).map f := by
  funext s
  cases hstart : act.start s with
  | error halt => simp [Trace.map, follow, hstart]
  | ok result => obtain ⟨_ | _, _⟩ := result <;> simp [Trace.map, follow, hstart]

theorem repeated_map (step : Run ε σ (Option α)) (trace : Trace σ ι) (f : ι → κ) (n : Nat) :
    (repeated step trace n).map f = repeated step (trace.map f) n := by
  induction n with
  | zero => rfl
  | succ n ih =>
    funext s
    change (trace s ++ step.follow _ s).map f = trace.map f s ++ step.follow _ s
    rw [List.map_append]
    refine congrArg ((trace s).map f ++ ·) ?_
    -- What follows the round: nothing after a value, the rounds that are left after none.
    refine congrFun ((follow_map step _ f).trans (congrArg step.follow (funext fun again => ?_))) s
    cases again with
    | some _ => rfl
    | none => exact ih

/-- Everything on the way agrees with the state in which the run starts. -/
def Throughout (f : σ → β) (g : ι → β) (trace : Trace σ ι) : Prop := ∀ s, ∀ e ∈ trace s, g e = f s

namespace Throughout

variable {f : σ → β} {g : ι → β} {trace : Trace σ ι}

theorem silent : Throughout f g (silent : Trace σ ι) := fun _ _ h => nomatch h

theorem append {other : Trace σ ι} (h : Throughout f g trace) (hother : Throughout f g other) :
    Throughout f g fun s => trace s ++ other s := by
  intro s e he
  rcases List.mem_append.1 he with he | he
  · exact h s e he
  · exact hother s e he

/-- What comes after a run that leaves what is read of the state. -/
theorem follow {act : Run ε σ α} {next : α → Trace σ ι} (hact : Keeps f act)
    (hnext : ∀ a, Throughout f g (next a)) : Throughout f g (act.follow next) := by
  intro s e he
  unfold Run.follow at he
  split at he
  · rename_i a t hstart
    exact (hnext a t e he).trans (hact hstart)
  · cases he

theorem repeated {step : Run ε σ (Option α)} (hstep : Keeps f step) (h : Throughout f g trace)
    (n : Nat) : Throughout f g (repeated step trace n) := by
  induction n with
  | zero => exact silent
  | succ n ih =>
    refine append h (follow hstep fun again => ?_)
    cases again with
    | some _ => exact silent
    | none => exact ih

end Throughout

end Run

open Run (Trace Keeps Throughout follow repeated silent)

/-! ## Moments -/

mutual

/-- The statements without parts that a statement executes, in order, each with the
context in which it begins. -/
def Statement.moments (passes limit : Nat) : Statement → Trace Context (Statement × Context)
  | .ifThen condition body => (Context.holds condition).follow fun
    | true => Statement.momentsAll passes limit body
    | false => silent
  | .ifChain condition body elseIfs otherwise => (Context.holds condition).follow fun
    | true => Statement.momentsAll passes limit body
    | false =>
      Statement.momentsArms passes limit (Statement.momentsAll passes limit otherwise) elseIfs
  | .conditionalDo kind condition body => fun ctx =>
    (Statement.bodyLoop passes limit kind condition body).trace (body.moments passes limit) passes
      ctx.enterLoop
  | .countedDo counter start stop increment body =>
    (startCounted counter start stop increment).follow fun
    | (none, _) => silent
    | (some last, step) =>
      repeated (countedPass counter last step (Statement.performAll passes limit body))
        (countedTrace counter last step (Statement.momentsAll passes limit body)) passes
  | .block body => Statement.momentsAll passes limit body
  | s => fun ctx => [(s, ctx)]

/-- The statements without parts that statements in order execute. -/
def Statement.momentsAll (passes limit : Nat) : List Statement → Trace Context (Statement × Context)
  | [] => silent
  | s :: rest => fun ctx => s.moments passes limit ctx ++
    (s.perform passes limit).follow (fun
      | .next => Statement.momentsAll passes limit rest
      | .endOfPass => silent) ctx

/-- The statements without parts that the first arm whose condition holds executes, or else what is
left. -/
def Statement.momentsArms (passes limit : Nat) (otherwise : Trace Context (Statement × Context)) :
    List (Expr × List Statement) → Trace Context (Statement × Context)
  | [] => otherwise
  | (condition, body) :: arms => (Context.holds condition).follow fun
    | true => Statement.momentsAll passes limit body
    | false => Statement.momentsArms passes limit otherwise arms

end

namespace Statement

variable {passes limit : Nat}

theorem countedTrace_map {ι κ : Type} (counter : String) (last increment : Number)
    (body : Trace Context ι) (f : ι → κ) :
    (countedTrace counter last increment body).map f =
      countedTrace counter last increment (body.map f) := by
  funext ctx
  unfold Trace.map countedTrace
  split
  · rfl
  · split <;> rfl

theorem bodyLoop_trace_map {ι κ : Type} (loop : Loop Context) (body : Trace Context ι) (f : ι → κ)
    (rounds : Nat) : Trace.map f (loop.trace body rounds) = loop.trace (body.map f) rounds := by
  rw [Loop.trace, Loop.trace, Run.repeated_map, Run.follow_map]
  refine congrArg (fun trace => repeated loop.round (loop.hasPass.follow trace) rounds) ?_
  funext again
  cases again <;> rfl

mutual

/-- **The statements of the moments are those that are performed.** -/
theorem performed_eq (passes limit : Nat) :
    ∀ stmt : Statement, stmt.performed passes limit = (stmt.moments passes limit).map Prod.fst
  | .ifThen condition body => by
    rw [performed, moments, Run.follow_map, performedAll_eq passes limit body]
    refine congrArg (Context.holds condition).follow (funext fun holds => ?_)
    cases holds <;> rfl
  | .ifChain condition body elseIfs otherwise => by
    rw [performed, moments, Run.follow_map, performedAll_eq passes limit body,
      performedArms_eq passes limit (performedAll_eq passes limit otherwise) elseIfs]
    refine congrArg (Context.holds condition).follow (funext fun holds => ?_)
    cases holds <;> rfl
  | .conditionalDo kind condition body => by
    funext ctx
    rw [performed, moments, performed_eq passes limit body, ← bodyLoop_trace_map]
    rfl
  | .countedDo counter start stop increment body => by
    rw [performed, moments, Run.follow_map, performedAll_eq passes limit body]
    refine congrArg (startCounted counter start stop increment).follow (funext fun started => ?_)
    obtain ⟨_ | last, step⟩ := started
    · rfl
    · dsimp only
      rw [Run.repeated_map, countedTrace_map]
  | .block body => by
    rw [performed, moments, performedAll_eq passes limit body]
  | .assign .. => rfl
  | .output => rfl
  | .drop .. => rfl
  | .keep .. => rfl
  | .retain .. => rfl
  | .array .. => rfl
  | .endPass => rfl
  | .merge .. => rfl
  | .byVariables .. => rfl
  | .dataStep .. => rfl
  | .options .. => rfl
  | .libname .. => rfl
  | .title .. => rfl
  | .proc .. => rfl

theorem performedAll_eq (passes limit : Nat) :
    ∀ stmts : List Statement,
      performedAll passes limit stmts = (momentsAll passes limit stmts).map Prod.fst
  | [] => by
    rw [performedAll, momentsAll]
    rfl
  | stmt :: rest => by
    funext ctx
    rw [performedAll, momentsAll, performed_eq passes limit stmt, performedAll_eq passes limit rest]
    unfold Trace.map
    rw [List.map_append]
    refine congrArg _ ?_
    have hrest := congrFun (Run.follow_map (stmt.perform passes limit) (fun
      | .next => momentsAll passes limit rest
      | .endOfPass => silent) Prod.fst) ctx
    refine Eq.trans
      (congrFun (congrArg (stmt.perform passes limit).follow (funext fun flow => ?_)) ctx)
      hrest.symm
    cases flow <;> rfl

theorem performedArms_eq (passes limit : Nat) {otherwise : Trace Context Statement}
    {moments : Trace Context (Statement × Context)}
    (hotherwise : otherwise = moments.map Prod.fst) :
    ∀ arms : List (Expr × List Statement), performedArms passes limit otherwise arms =
      (momentsArms passes limit moments arms).map Prod.fst
  | [] => by
    rw [performedArms, momentsArms]
    exact hotherwise
  | (condition, body) :: arms => by
    rw [performedArms, momentsArms, Run.follow_map, performedAll_eq passes limit body,
      performedArms_eq passes limit hotherwise arms]
    refine congrArg (Context.holds condition).follow (funext fun holds => ?_)
    cases holds <;> rfl

end

/-! ## Saved values -/

/-- A run that has the effect of statements leaves the saved values. -/
theorem keepsSaved_of_effect {α : Type} {act : ContextM α} {trace : Trace Context Statement}
    (h : Run.Obeys Effect act trace) : Keeps Context.saved act := keeps_of_effect Effect.saved_eq h

theorem keepsSaved_round (kind : LoopKind) (condition : Option Expr) (body : Statement) :
    Keeps Context.saved (bodyLoop passes limit kind condition body).round := by
  refine keeps_round Effect.saved_eq (fun ctx => ?_) kind condition body
  unfold Context.countPass
  split <;> rfl

/-- Every moment of a trace has the saved values with which the trace begins. -/
abbrev SavedThroughout (trace : Trace Context (Statement × Context)) : Prop :=
  Throughout Context.saved (fun e => e.2.saved) trace

theorem SavedThroughout.counted {counter : String} {last increment : Number}
    {body : Trace Context (Statement × Context)} (h : SavedThroughout body) :
    SavedThroughout (countedTrace counter last increment body) := by
  intro ctx e he
  exact h ctx e (mem_countedTrace_iff.1 he).2

theorem SavedThroughout.start (stmt : Statement) : SavedThroughout fun ctx => [(stmt, ctx)] := by
  intro ctx e he
  rw [List.mem_singleton] at he
  rw [he]

mutual

theorem throughout_moments (passes limit : Nat) :
    ∀ stmt : Statement, SavedThroughout (stmt.moments passes limit)
  | .ifThen condition body => by
    rw [moments]
    apply Throughout.follow (keepsSaved_of_effect (Context.holds_effect condition))
    intro holds
    cases holds with
    | true => exact throughout_momentsAll passes limit body
    | false => exact Throughout.silent
  | .ifChain condition body elseIfs otherwise => by
    rw [moments]
    apply Throughout.follow (keepsSaved_of_effect (Context.holds_effect condition))
    intro holds
    cases holds with
    | true => exact throughout_momentsAll passes limit body
    | false =>
      exact throughout_momentsArms passes limit
        (throughout_momentsAll passes limit otherwise) elseIfs
  | .conditionalDo kind condition body => by
    rw [moments]
    have htrace : SavedThroughout
        ((bodyLoop passes limit kind condition body).trace (body.moments passes limit) passes) := by
      apply Throughout.repeated (keepsSaved_round kind condition body)
      apply Throughout.follow (keepsSaved_of_effect (Context.hasPass_effect limit kind condition))
      intro more
      cases more with
      | true => exact throughout_moments passes limit body
      | false => exact Throughout.silent
    exact fun ctx => htrace ctx.enterLoop
  | .countedDo counter start stop increment body => by
    rw [moments]
    apply Throughout.follow
      (keepsSaved_of_effect (startCounted_effect counter start stop increment))
    rintro ⟨_ | last, step⟩
    · exact Throughout.silent
    · apply Throughout.repeated
      · exact keepsSaved_of_effect (countedPass_effect (performAll_effect passes limit body))
      · exact (throughout_momentsAll passes limit body).counted
  | .block body => by
    rw [moments]
    exact throughout_momentsAll passes limit body
  | .assign .. => SavedThroughout.start _
  | .output => SavedThroughout.start _
  | .drop .. => SavedThroughout.start _
  | .keep .. => SavedThroughout.start _
  | .retain .. => SavedThroughout.start _
  | .array .. => SavedThroughout.start _
  | .endPass => SavedThroughout.start _
  | .merge .. => SavedThroughout.start _
  | .byVariables .. => SavedThroughout.start _
  | .dataStep .. => SavedThroughout.start _
  | .options .. => SavedThroughout.start _
  | .libname .. => SavedThroughout.start _
  | .title .. => SavedThroughout.start _
  | .proc .. => SavedThroughout.start _

/-- **At every moment of a body the saved values are those with which it began.** -/
theorem throughout_momentsAll (passes limit : Nat) :
    ∀ stmts : List Statement, SavedThroughout (momentsAll passes limit stmts)
  | [] => by
    rw [momentsAll]
    exact Throughout.silent
  | stmt :: rest => by
    rw [momentsAll]
    apply Throughout.append (throughout_moments passes limit stmt)
    apply Throughout.follow (keepsSaved_of_effect (perform_effect passes limit stmt))
    intro flow
    cases flow with
    | next => exact throughout_momentsAll passes limit rest
    | endOfPass => exact Throughout.silent

theorem throughout_momentsArms (passes limit : Nat)
    {otherwise : Trace Context (Statement × Context)}
    (hotherwise : SavedThroughout otherwise) : ∀ arms : List (Expr × List Statement),
      SavedThroughout (momentsArms passes limit otherwise arms)
  | [] => by
    rw [momentsArms]
    exact hotherwise
  | (condition, body) :: arms => by
    rw [momentsArms]
    apply Throughout.follow (keepsSaved_of_effect (Context.holds_effect condition))
    intro holds
    cases holds with
    | true => exact throughout_momentsAll passes limit body
    | false => exact throughout_momentsArms passes limit hotherwise arms

end

end Statement

end DataStep
