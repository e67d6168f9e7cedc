import DataStep.Proofs.LoopLimit
import DataStep.Proofs.Moments
import DataStep.Proofs.Rounds

/-!
# Where END ends a pass

`Statement.passEnds` tells in which contexts a statement executes an END that is not inside a
conditional loop of its own. There the statement stops: it ends as the END does, and executes
nothing after it (`perform_stops`). What stops is the pass of the innermost conditional loop around
it; the loop itself goes on with its condition and never hands the end of a pass on
(`conditionalDo_goesOn`). Without such a loop the END fails, so statements in order come to their
end only if each of them does (`performAll_start_eq_next_iff`).
-/

set_option autoImplicit false

namespace DataStep

open Run (Trace follow repeated silent)

/-! ## Ends of passes -/

mutual

/-- The contexts in which a statement executes an END for the loop around it. -/
def Statement.passEnds (passes limit : Nat) : Statement → Trace Context Context
  | .endPass => fun ctx => [ctx]
  | .ifThen condition body => (Context.holds condition).follow fun
    | true => Statement.passEndsAll passes limit body
    | false => silent
  | .ifChain condition body elseIfs otherwise => (Context.holds condition).follow fun
    | true => Statement.passEndsAll passes limit body
    | false =>
      Statement.passEndsArms passes limit (Statement.passEndsAll passes limit otherwise) elseIfs
  | .countedDo counter start stop increment body =>
    (startCounted counter start stop increment).follow fun
    | (none, _) => silent
    | (some last, step) =>
      repeated (countedPass counter last step (Statement.performAll passes limit body))
        (countedTrace counter last step (Statement.passEndsAll passes limit body)) passes
  | .block body => Statement.passEndsAll passes limit body
  -- an END inside a conditional loop is one for that loop
  | _ => silent

/-- The contexts in which statements in order execute an END for the loop around them. -/
def Statement.passEndsAll (passes limit : Nat) : List Statement → Trace Context Context
  | [] => silent
  | s :: rest => fun ctx => s.passEnds passes limit ctx ++
    (s.perform passes limit).follow (fun
      | .next => Statement.passEndsAll passes limit rest
      | .endOfPass => silent) ctx

/-- The contexts in which the first arm whose condition holds executes an END for the loop around
it, or else what is left. -/
def Statement.passEndsArms (passes limit : Nat) (otherwise : Trace Context Context) :
    List (Expr × List Statement) → Trace Context Context
  | [] => otherwise
  | (condition, body) :: arms => (Context.holds condition).follow fun
    | true => Statement.passEndsAll passes limit body
    | false => Statement.passEndsArms passes limit otherwise arms

end

/-- What an END comes to: it ends the pass of a running loop and fails without one. -/
def Context.endResult (ctx : Context) : Except RunError Flow :=
  if ctx.loops.isEmpty then .error .unmatchedEnd else .ok .endOfPass

theorem Context.endPass_start (ctx : Context) :
    endPass.start ctx = .ok (ctx.endResult, ctx) := by
  rw [endPass, Run.start_bind_of_ok (Run.start_get ctx), endResult]
  split <;> rfl

namespace Statement

variable {passes limit : Nat} {α : Type}

/-! ## Runs that stop -/

/-- A run stops at each END that is executed for the loop around it, and ends a pass only there. -/
structure Stops (act : ContextM Flow) (trace : Trace Context (Statement × Context))
    (ends : Trace Context Context) : Prop where
  /-- The run comes to what the END does, and the END is the last thing that happens. -/
  of_mem : ∀ ⦃ctx v⦄, v ∈ ends ctx → act.start ctx = .ok (v.endResult, v) ∧
    ∃ before, trace ctx = before ++ [(.endPass, v)]
  mem_of_endOfPass : ∀ ⦃ctx t⦄, act.start ctx = .ok (.ok .endOfPass, t) → t ∈ ends ctx

/-- What goes on with the next statement does not end a pass. -/
theorem start_next_ne_endOfPass {act : ContextM α} {ctx t : Context} :
    (act >>= fun _ => pure Flow.next).start ctx ≠ .ok (.ok .endOfPass, t) := by
  intro h
  rcases Run.start_bind_eq_ok.1 h with ⟨e, -, he⟩ | ⟨a, u, -, hu⟩
  · cases he
  · cases hu

namespace Stops

variable {act : ContextM Flow} {trace : Trace Context (Statement × Context)}
  {ends : Trace Context Context}

theorem never (h : ∀ ctx t, act.start ctx ≠ .ok (.ok .endOfPass, t)) : Stops act trace silent where
  of_mem _ _ hv := nomatch hv
  mem_of_endOfPass ctx t ht := absurd ht (h ctx t)

theorem next (before : ContextM α) : Stops (before >>= fun _ => pure .next) trace silent :=
  never fun _ _ => start_next_ne_endOfPass

/-- What follows a run on whose way nothing happens. -/
theorem follow {first : ContextM α} {act : α → ContextM Flow}
    {trace : α → Trace Context (Statement × Context)} {ends : α → Trace Context Context}
    (h : ∀ a, Stops (act a) (trace a) (ends a)) :
    Stops (first >>= act) (first.follow trace) (first.follow ends) where
  of_mem ctx v hv := by
    unfold Run.follow at hv
    split at hv
    · rename_i a t ha
      rw [Run.start_bind_of_ok ha, Run.follow_of_ok ha]
      exact (h a).of_mem hv
    · cases hv
  mem_of_endOfPass ctx t ht := by
    rcases Run.start_bind_eq_ok.1 ht with ⟨e, -, he⟩ | ⟨a, u, ha, hu⟩
    · cases he
    · rw [Run.follow_of_ok ha]
      exact (h a).mem_of_endOfPass hu

/-- After a statement that stops, no other is executed. -/
theorem cons {next : ContextM Flow} {nextTrace : Trace Context (Statement × Context)}
    {nextEnds : Trace Context Context} (h : Stops act trace ends)
    (hnext : Stops next nextTrace nextEnds) :
    Stops (do
        match ← act with
        | .next => next
        | .endOfPass => pure .endOfPass)
      (fun ctx => trace ctx ++ act.follow (fun
        | .next => nextTrace
        | .endOfPass => silent) ctx)
      (fun ctx => ends ctx ++ act.follow (fun
        | .next => nextEnds
        | .endOfPass => silent) ctx) where
  of_mem ctx v hv := by
    rcases List.mem_append.1 hv with hv | hv
    · obtain ⟨hstart, before, htrace⟩ := h.of_mem hv
      unfold Context.endResult at hstart ⊢
      split at hstart
      · rename_i hloops
        rw [Run.start_bind_of_error hstart, Run.follow_of_error hstart,
          List.append_nil, if_pos hloops]
        exact ⟨rfl, before, htrace⟩
      · rename_i hloops
        rw [Run.start_bind_of_ok hstart, Run.follow_of_ok hstart, if_neg hloops]
        exact ⟨rfl, before, (List.append_nil _).trans htrace⟩
    · unfold Run.follow at hv
      split at hv
      · rename_i flow t hflow
        cases flow with
        | next =>
          obtain ⟨hstart, before, htrace⟩ := hnext.of_mem hv
          rw [Run.start_bind_of_ok hflow, Run.follow_of_ok hflow]
          refine ⟨hstart, trace ctx ++ before, ?_⟩
          rw [List.append_assoc, ← htrace]
        | endOfPass => cases hv
      · cases hv
  mem_of_endOfPass ctx t ht := by
    rcases Run.start_bind_eq_ok.1 ht with ⟨e, -, he⟩ | ⟨flow, u, hflow, hu⟩
    · cases he
    · cases flow with
      | next =>
        refine List.mem_append_right _ ?_
        rw [Run.follow_of_ok hflow]
        exact hnext.mem_of_endOfPass hu
      | endOfPass =>
        cases hu
        exact List.mem_append_left _ (h.mem_of_endOfPass hflow)

/-! ## Counted loops -/

variable {counter : String} {last increment : Number}

/-- A pass of a counted loop stops where its body does, and with it the loop. -/
theorem counted_of_mem (h : Stops act trace ends) {ctx v : Context}
    (hv : v ∈ countedTrace counter last increment ends ctx) :
    (countedPass counter last increment act).start ctx = .ok (v.endResult.map some, v) ∧
      ∃ before, countedTrace counter last increment trace ctx = before ++ [(.endPass, v)] := by
  obtain ⟨hrange, hv⟩ := mem_countedTrace_iff.1 hv
  obtain ⟨hstart, htrace⟩ := h.of_mem hv
  rw [countedPass_start_of_inRange hrange, countedTrace_of_inRange hrange]
  refine ⟨?_, htrace⟩
  unfold Context.endResult at hstart ⊢
  split at hstart
  · rename_i hloops
    rw [Run.start_bind_of_error hstart, if_pos hloops]
    rfl
  · rename_i hloops
    rw [Run.start_bind_of_ok hstart, if_neg hloops]
    rfl

theorem counted_mem_of_endOfPass (h : Stops act trace ends) {ctx t : Context}
    (ht : (countedPass counter last increment act).start ctx = .ok (.ok (some .endOfPass), t)) :
    t ∈ countedTrace counter last increment ends ctx := by
  by_cases hrange : CounterInRange counter last increment ctx
  · rw [countedPass_start_of_inRange hrange] at ht
    rw [countedTrace_of_inRange hrange]
    rcases Run.start_bind_eq_ok.1 ht with ⟨e, -, he⟩ | ⟨flow, u, hflow, hu⟩
    · cases he
    · cases flow with
      | next => cases hu
      | endOfPass =>
        cases hu
        exact h.mem_of_endOfPass hflow
  · rw [countedPass_start_of_not_inRange hrange] at ht
    cases ht

/-- **A counted loop stops where a pass of it does.** -/
theorem counted (h : Stops act trace ends) (n : Nat) :
    Stops (Run.iterate (countedPass counter last increment act) n)
      (repeated (countedPass counter last increment act)
        (countedTrace counter last increment trace) n)
      (repeated (countedPass counter last increment act)
        (countedTrace counter last increment ends) n) where
  of_mem ctx v hv := by
    obtain ⟨k, hk, u, hu, hv⟩ := Run.mem_repeated_iff.1 hv
    obtain ⟨hstart, before, htrace⟩ := h.counted_of_mem hv
    refine ⟨Run.iterate_start_eq_ok_iff.2 ⟨k, hk, u, hu, hstart⟩, ?_⟩
    -- the rounds before, and then the one that stops, after which there is none
    obtain ⟨m, rfl⟩ := Nat.exists_eq_add_of_lt hk
    obtain ⟨rounds, hrounds⟩ : ∃ rounds, repeated (countedPass counter last increment act)
        (countedTrace counter last increment trace) (k + (m + 1)) ctx =
          rounds ++ repeated (countedPass counter last increment act)
            (countedTrace counter last increment trace) (m + 1) u := Run.repeated_of_afterRounds hu
    refine ⟨rounds ++ before, ?_⟩
    rw [Nat.add_assoc, hrounds, List.append_assoc, ← htrace]
    refine congrArg (rounds ++ ·) ((congrArg (_ ++ ·) ?_).trans (List.append_nil _))
    unfold Context.endResult at hstart
    split at hstart
    · exact Run.follow_of_error hstart
    · exact Run.follow_of_ok hstart
  mem_of_endOfPass ctx t ht := by
    obtain ⟨k, hk, u, hu, hround⟩ := Run.iterate_start_eq_ok_iff.1 ht
    exact Run.mem_repeated_iff.2 ⟨k, hk, u, hu, h.counted_mem_of_endOfPass hround⟩

end Stops

/-! ## Statements -/

theorem stops_notInBody (stmt : Statement) {trace : Trace Context (Statement × Context)} :
    Stops (notInBody stmt) trace silent := Stops.never fun _ _ h => nomatch h

theorem stops_endPass : Stops Context.endPass (fun ctx => [(.endPass, ctx)]) fun ctx => [ctx] where
  of_mem ctx v hv := by
    rw [List.mem_singleton.1 hv]
    exact ⟨Context.endPass_start ctx, [], rfl⟩
  mem_of_endOfPass ctx t ht := by
    rw [Context.endPass_start, Except.ok.injEq, Prod.mk.injEq] at ht
    exact List.mem_singleton.2 ht.2.symm

mutual

/-- **A statement stops at each END that it executes for the loop around it.** -/
theorem perform_stops (passes limit : Nat) : ∀ stmt : Statement,
    Stops (stmt.perform passes limit) (stmt.moments passes limit) (stmt.passEnds passes limit)
  | .endPass => stops_endPass
  | .ifThen condition body => by
    rw [perform, moments, passEnds]
    apply Stops.follow
    intro holds
    cases holds with
    | true => exact performAll_stops passes limit body
    | false => exact Stops.never fun _ _ h => nomatch h
  | .ifChain condition body elseIfs otherwise => by
    rw [perform, moments, passEnds]
    apply Stops.follow
    intro holds
    cases holds with
    | true => exact performAll_stops passes limit body
    | false =>
      exact performArms_stops passes limit (performAll_stops passes limit otherwise) elseIfs
  | .conditionalDo kind condition body => by
    rw [perform_conditionalDo]
    exact Stops.next _
  | .countedDo counter start stop increment body => by
    rw [perform, moments, passEnds]
    apply Stops.follow
    rintro ⟨_ | last, step⟩
    · exact Stops.never fun _ _ h => nomatch h
    · exact (performAll_stops passes limit body).counted passes
  | .block body => by
    rw [perform, moments, passEnds]
    exact performAll_stops passes limit body
  | .assign .. => Stops.next _
  | .output => Stops.next _
  | .drop .. => Stops.next _
  | .keep .. => Stops.next _
  | .retain .. => Stops.next _
  | .array .. => Stops.next _
  | .merge .. => Stops.never fun _ _ h => nomatch h
  | .byVariables .. => Stops.never fun _ _ h => nomatch h
  | .dataStep .. => stops_notInBody _
  | .options .. => stops_notInBody _
  | .libname .. => stops_notInBody _
  | .title .. => stops_notInBody _
  | .proc .. => stops_notInBody _

theorem performAll_stops (passes limit : Nat) : ∀ stmts : List Statement,
    Stops (performAll passes limit stmts) (momentsAll passes limit stmts)
      (passEndsAll passes limit stmts)
  | [] => by
    rw [performAll, momentsAll, passEndsAll]
    exact Stops.never fun _ _ h => nomatch h
  | stmt :: rest => by
    rw [performAll, momentsAll, passEndsAll]
    exact (perform_stops passes limit stmt).cons (performAll_stops passes limit rest)

theorem performArms_stops (passes limit : Nat) {otherwise : ContextM Flow}
    {trace : Trace Context (Statement × Context)} {ends : Trace Context Context}
    (hotherwise : Stops otherwise trace ends) : ∀ arms : List (Expr × List Statement),
      Stops (performArms passes limit otherwise arms) (momentsArms passes limit trace arms)
        (passEndsArms passes limit ends arms)
  | [] => by
    rw [performArms, momentsArms, passEndsArms]
    exact hotherwise
  | (condition, body) :: arms => by
    rw [performArms, momentsArms, passEndsArms]
    apply Stops.follow
    intro holds
    cases holds with
    | true => exact performAll_stops passes limit body
    | false => exact performArms_stops passes limit hotherwise arms

end

/-! ## The loops around a statement -/

/-- **How a statement stands to the loops that run around it.** -/
structure EndsPass (passes limit : Nat) (stmt : Statement) : Prop where
  /-- However the statement ends, the counters of these loops are those before it. -/
  loops_eq : ∀ ⦃ctx r t⦄, (stmt.perform passes limit).start ctx = .ok (r, t) → t.loops = ctx.loops
  /-- It ends a pass exactly where it executes an END for a loop that is running. -/
  endOfPass_iff : ∀ ⦃ctx t⦄, (stmt.perform passes limit).start ctx = .ok (.ok .endOfPass, t) ↔
    ctx.loops ≠ [] ∧ t ∈ stmt.passEnds passes limit ctx
  /-- Where no loop is running, it fails in such an END. -/
  unmatched : ∀ ⦃ctx v⦄, ctx.loops = [] → v ∈ stmt.passEnds passes limit ctx →
    (stmt.perform passes limit).start ctx = .ok (.error .unmatchedEnd, v)
  /-- Nothing is executed after such an END. -/
  last : ∀ ⦃ctx v⦄, v ∈ stmt.passEnds passes limit ctx →
    ∃ before, stmt.moments passes limit ctx = before ++ [(.endPass, v)]

theorem perform_endsPass (passes limit : Nat) (stmt : Statement) : EndsPass passes limit stmt := by
  have hstops := perform_stops passes limit stmt
  have hloops : ∀ ⦃ctx r t⦄, (stmt.perform passes limit).start ctx = .ok (r, t) →
      t.loops = ctx.loops := fun ctx r t h => (perform_effect passes limit stmt h).loops_eq
  -- what the END comes to is decided by the loops, and those are the ones before the statement
  have hend : ∀ ⦃ctx v⦄, v ∈ stmt.passEnds passes limit ctx →
      (stmt.perform passes limit).start ctx = .ok (ctx.endResult, v) := by
    intro ctx v hv
    have hstart := (hstops.of_mem hv).1
    rw [hstart, Context.endResult, hloops hstart]
    rfl
  refine ⟨hloops, fun ctx t => ⟨fun h => ?_, fun ⟨hrunning, ht⟩ => ?_⟩, fun ctx v hnone hv => ?_,
    fun ctx v hv => (hstops.of_mem hv).2⟩
  · have ht := hstops.mem_of_endOfPass h
    refine ⟨fun hnone => ?_, ht⟩
    have hstart := hend ht
    rw [h, Context.endResult, hnone] at hstart
    cases hstart
  · rw [hend ht, Context.endResult, if_neg (by simpa using hrunning)]
  · rw [hend hv, Context.endResult, hnone]
    rfl

/-! ## Conditional loops -/

/-- **What END leaves to the innermost conditional loop around it**: all but
the rest of its pass. -/
structure GoesOn (passes limit : Nat) (kind : LoopKind)
    (condition : Option Expr) (body : Statement) :
    Prop where
  /-- The end of a pass goes no further than the loop. -/
  ne_endOfPass : ∀ ctx t,
    ((conditionalDo kind condition body).perform passes limit).start ctx ≠ .ok (.ok .endOfPass, t)
  /-- A pass in which an END is executed for this loop is complete at the END. -/
  pass_complete : ∀ ⦃ctx k u v⦄,
    let loop := bodyLoop passes limit kind condition body
    loop.Begins (loop.enter ctx) k u → v ∈ body.passEnds passes limit u →
      loop.pass.start u = .ok (.ok (), v.countPass)
  /-- A loop with a condition comes back to it. -/
  of_condition : condition.isSome → ∀ ⦃ctx k u v⦄,
    let loop := bodyLoop passes limit kind condition body
    loop.Begins (loop.enter ctx) k u → v ∈ body.passEnds passes limit u →
      loop.after (loop.enter ctx) (k + 1) = some v.countPass
  /-- A loop without one is over. -/
  of_no_condition : condition = none → 0 < passes → ∀ ⦃ctx k u v⦄,
    let loop := bodyLoop passes limit kind condition body
    loop.Begins (loop.enter ctx) k u → v ∈ body.passEnds passes limit u →
      ((conditionalDo kind condition body).perform passes limit).start ctx =
        .ok (.ok .next, v.leaveLoop)
  /-- When the loop is over, the statements after it are executed. -/
  rest : ∀ ⦃ctx flow t⦄ stmts,
    ((conditionalDo kind condition body).perform passes limit).start ctx = .ok (.ok flow, t) →
      (performAll passes limit (.conditionalDo kind condition body :: stmts)).start ctx =
        (performAll passes limit stmts).start t

section ConditionalLoops

variable {kind : LoopKind} {condition : Option Expr} {body : Statement}
    {ctx u v : Context} {k : Nat}

theorem conditionalDo_ne_endOfPass (ctx t : Context) :
    ((conditionalDo kind condition body).perform passes limit).start ctx ≠
      .ok (.ok .endOfPass, t) := by
  rw [perform_conditionalDo]
  exact start_next_ne_endOfPass

/-- In a pass of a loop its counter is on top of those of the loops around it. -/
theorem loops_of_begins
    (h : (bodyLoop passes limit kind condition body).Begins ctx.enterLoop k u) :
    u.loops = k :: ctx.loops := by
  obtain ⟨t, ht, hu⟩ := h
  exact (Loop.hasPass_loops hu).trans (bodyLoop_counter ht)

theorem pass_of_mem_passEnds
    (hbegins : (bodyLoop passes limit kind condition body).Begins ctx.enterLoop k u)
    (hv : v ∈ body.passEnds passes limit u) :
    (bodyLoop passes limit kind condition body).pass.start u = .ok (.ok (), v.countPass) := by
  have hrunning : u.loops ≠ [] := by
    rw [loops_of_begins hbegins]
    exact List.cons_ne_nil _ _
  have hbody : (bodyLoop passes limit kind condition body).body.start u = .ok (.ok .endOfPass, v) :=
    (perform_endsPass passes limit body).endOfPass_iff.2 ⟨hrunning, hv⟩
  exact Run.start_bind_of_ok hbody

theorem conditionalDo_goesOn (passes limit : Nat) (kind : LoopKind) (condition : Option Expr)
    (body : Statement) : GoesOn passes limit kind condition body where
  ne_endOfPass := conditionalDo_ne_endOfPass
  pass_complete _ _ _ _ hbegins hv := pass_of_mem_passEnds hbegins hv
  of_condition hcondition ctx k u v hbegins hv := by
    obtain ⟨t, ht, hu⟩ := id hbegins
    refine Loop.after_succ_eq_some_iff.2 ⟨t, u, ht, hu, pass_of_mem_passEnds hbegins hv, ?_⟩
    cases condition with
    | none => cases hcondition
    | some _ => rfl
  of_no_condition hcondition hpasses ctx k u v hbegins hv := by
    subst hcondition
    obtain ⟨t, ht, hu⟩ := id hbegins
    -- a loop without a condition has no pass but the first one
    cases k with
    | succ k =>
      obtain ⟨_, _, -, -, -, hnone⟩ := Loop.after_succ_eq_some_iff.1 ht
      cases hnone
    | zero =>
      cases ht
      have hround := Loop.round_of_pass hu (pass_of_mem_passEnds hbegins hv)
      have hiterate : (Run.iterate (bodyLoop passes limit kind none body).round passes).start
          ctx.enterLoop = .ok (.ok (), v.countPass) :=
        Run.iterate_start_eq_ok_iff.2 ⟨0, hpasses, ctx.enterLoop, rfl, hround⟩
      rw [perform_conditionalDo_of_ok hiterate, Context.leaveLoop_countPass]
  rest ctx flow t stmts h := by
    rw [performAll]
    cases flow with
    | next => exact Run.start_bind_of_ok h
    | endOfPass => exact absurd h (conditionalDo_ne_endOfPass ctx t)

end ConditionalLoops

/-! ## Statements in order -/

/-- Statements are executed one after another, each of them to its end. -/
def RunsThrough (passes limit : Nat) : List Statement → Context → Context → Prop
  | [], s, t => t = s
  | stmt :: rest, s, t => ∃ u, (stmt.perform passes limit).start s = .ok (.ok .next, u) ∧
    RunsThrough passes limit rest u t

/-- **Statements in order end no pass and do not fail exactly if none of them is left out.** -/
theorem performAll_start_eq_next_iff {stmts : List Statement} {s t : Context} :
    (performAll passes limit stmts).start s = .ok (.ok .next, t) ↔
      RunsThrough passes limit stmts s t := by
  induction stmts generalizing s with
  | nil =>
    rw [performAll, RunsThrough]
    constructor
    · intro h
      cases h
      rfl
    · rintro rfl
      rfl
  | cons stmt rest ih =>
    rw [performAll, RunsThrough]
    constructor
    · intro h
      rcases Run.start_bind_eq_ok.1 h with ⟨e, -, he⟩ | ⟨flow, u, hflow, hu⟩
      · cases he
      · cases flow with
        | next => exact ⟨u, hflow, ih.1 hu⟩
        | endOfPass => cases hu
    · rintro ⟨u, hflow, hu⟩
      rw [Run.start_bind_of_ok hflow]
      exact ih.2 hu

end Statement

end DataStep
