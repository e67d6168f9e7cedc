import DataStep.Session
import DataStep.Proofs.Evaluation
import DataStep.Proofs.Rounds

/-!
# Conditional loops

A conditional loop looks at its condition, makes a pass, and comes back to its condition.
`Loop.after` is the state in which it looks at the condition after a number of completed passes, and
`Loop.Begins` says that one more pass begins there. The completed passes of a loop are the rounds
that come back to its condition (`afterRounds_eq_after`), so whatever ends the loop can be read off
the last of these states.

`Loop.obeys` lifts a law of the body to the loop. `Loop.Capped` is the promise of a limit on
the passes. It is kept exactly if the counter of the loop has reached the limit after
`limit` passes (`capped_iff`).
-/

set_option autoImplicit false

namespace DataStep

open Run (Trace Law Obeys follow repeated silent)

/-! ## Conditions -/

namespace Context

variable {limit : Nat} {kind : LoopKind} {condition : Option Expr} {s t : Context}

/-- An evaluation changes nothing but the log. -/
theorem evaluation_start {α : Type} {act : Scope → EvalM α} {r : Except RunError α}
    (hact : ∀ scope, EvalM.Warns (act scope)) (h : (evaluation act).start s = .ok (r, t)) :
    ∃ log, t = { s with log } ∧ Log.Warned s.log log := by
  rw [evaluation, Run.start_of, Run.start_within] at h
  cases he : (act s.scope).start s.log with
  | error halt => rw [he] at h; cases h
  | ok result =>
    rw [he] at h
    cases h
    exact ⟨result.2, rfl, hact s.scope he⟩

theorem evaluate_start {e : Expr} {r : Except RunError Value}
    (h : (evaluate e).start s = .ok (r, t)) : ∃ log, t = { s with log } ∧ Log.Warned s.log log :=
  evaluation_start (fun scope => e.eval_warns scope) h

theorem holds_start {e : Expr} {r : Except RunError Bool} (h : (holds e).start s = .ok (r, t)) :
    ∃ log, t = { s with log } ∧ Log.Warned s.log log := by
  rcases Run.start_bind_eq_ok.1 h with ⟨e', he, -⟩ | ⟨v, u, hu, hr⟩
  · exact evaluate_start he
  · cases hr
    exact evaluate_start hu

theorem wantsPass_start {r : Except RunError Bool}
    (h : (wantsPass kind condition).start s = .ok (r, t)) :
    ∃ log, t = { s with log } ∧ Log.Warned s.log log := by
  cases condition with
  | none =>
    cases h
    exact ⟨s.log, rfl, Log.Extends.refl s.log⟩
  | some condition =>
    rcases Run.start_bind_eq_ok.1 h with ⟨e, he, -⟩ | ⟨b, u, hu, hr⟩
    · exact holds_start he
    · cases kind <;> cases hr <;> exact holds_start hu

/-- The condition does not touch the counters of the loops. -/
theorem wantsPass_loops {r : Except RunError Bool}
    (h : (wantsPass kind condition).start s = .ok (r, t)) : t.loops = s.loops := by
  obtain ⟨log, rfl, -⟩ := wantsPass_start h
  rfl

/-- The log with the message of a loop that is cut off. -/
def reportCutOff (limit : Nat) : Context → Context := mapLog (Log.error · (cutOffMessage limit))

/-- **A loop that has a pass is one whose condition asks for it and whose counter is below the
limit.** -/
theorem hasPass_eq_true_iff : (hasPass limit kind condition).start s = .ok (.ok true, t) ↔
    (wantsPass kind condition).start s = .ok (.ok true, t) ∧ s.loops.headD 0 < limit := by
  constructor
  · intro h
    rcases Run.start_bind_eq_ok.1 h with ⟨e, -, he⟩ | ⟨more, u, hu, hr⟩
    · cases he
    · cases more with
      | false => cases hr
      | true =>
        rw [if_pos rfl, Run.start_bind_of_ok (Run.start_get u)] at hr
        split at hr
        · cases hr
        · rename_i hlimit
          cases hr
          exact ⟨hu, wantsPass_loops hu ▸ Nat.lt_of_not_le hlimit⟩
  · rintro ⟨hu, hlimit⟩
    rw [← wantsPass_loops hu] at hlimit
    rw [hasPass, Run.start_bind_of_ok hu, if_pos rfl, Run.start_bind_of_ok (Run.start_get t),
      if_neg (Nat.not_le_of_lt hlimit)]
    rfl

/-- A condition that asks for a pass does not get it when the counter has reached the limit. -/
theorem hasPass_of_limit_le (h : (wantsPass kind condition).start s = .ok (.ok true, t))
    (hlimit : limit ≤ s.loops.headD 0) :
    (hasPass limit kind condition).start s = .ok (.ok false, t.reportCutOff limit) := by
  rw [← wantsPass_loops h] at hlimit
  rw [hasPass, Run.start_bind_of_ok h, if_pos rfl, Run.start_bind_of_ok (Run.start_get t),
    if_pos hlimit]
  rfl

/-- Looking for a pass changes nothing but the log. -/
theorem hasPass_start {r : Except RunError Bool}
    (h : (hasPass limit kind condition).start s = .ok (r, t)) :
    ∃ log, t = { s with log } ∧ Log.Unnoted s.log log := by
  rcases Run.start_bind_eq_ok.1 h with ⟨e, he, -⟩ | ⟨more, u, hu, hr⟩
  · obtain ⟨log, rfl, hlog⟩ := wantsPass_start he
    exact ⟨log, rfl, hlog.unnoted⟩
  · obtain ⟨log, rfl, hlog⟩ := wantsPass_start hu
    cases more with
    | false =>
      cases hr
      exact ⟨log, rfl, hlog.unnoted⟩
    | true =>
      rw [if_pos rfl, Run.start_bind_of_ok (Run.start_get _)] at hr
      split at hr
      · cases hr
        exact ⟨_, rfl, hlog.unnoted.trans (Log.Extends.push _ _ Severity.noConfusion)⟩
      · cases hr
        exact ⟨log, rfl, hlog.unnoted⟩

end Context

/-- Counting a pass makes no difference when the loop is left. -/
theorem Context.leaveLoop_countPass (ctx : Context) :
    ctx.countPass.leaveLoop = ctx.leaveLoop := by
  obtain ⟨row, saved, step, loops, arrays, log, currentDay⟩ := ctx
  cases loops with
  | nil => rfl
  | cons n outer => rfl

/-! ## Loops -/

/-- A state in which loops run: it has a context, and runs on contexts lift to it. -/
structure Level (σ : Type) where
  context : σ → Context
  put : σ → Context → σ
  lift : {α : Type} → ContextM α → Run RunError σ α
  context_put : ∀ s ctx, context (put s ctx) = ctx
  put_context : ∀ s, put s (context s) = s
  put_put : ∀ s ctx ctx', put (put s ctx) ctx' = put s ctx'
  lift_start : ∀ {α : Type} (act : ContextM α) s, (lift act).start s =
    (act.start (context s)).map fun result => (result.1, put s result.2)

namespace Level

theorem lift_start_eq_ok {σ α : Type} {level : Level σ} {act : ContextM α} {s t : σ}
    {r : Except RunError α} : (level.lift act).start s = .ok (r, t) ↔
      ∃ ctx, act.start (level.context s) = .ok (r, ctx) ∧ t = level.put s ctx := by
  rw [level.lift_start]
  cases act.start (level.context s) with
  | error h => simp [Except.map]
  | ok result =>
    obtain ⟨r', ctx⟩ := result
    constructor
    · intro h
      cases h
      exact ⟨ctx, rfl, rfl⟩
    · rintro ⟨ctx', hctx, rfl⟩
      cases hctx
      rfl

/-- The body of a DATA step. -/
def body : Level Context where
  context := id
  put _ ctx := ctx
  lift act := act
  context_put _ _ := rfl
  put_context _ := rfl
  put_put _ _ _ := rfl
  lift_start act ctx := by
    rw [id]
    cases act.start ctx with
    | error h => rfl
    | ok result => rfl

/-- The top level of a program. -/
def top : Level Session where
  context := Session.context
  put s context := { s with context }
  lift act := Session.onContext act
  context_put _ _ := rfl
  put_context _ := rfl
  put_put _ _ _ := rfl
  lift_start act s := by
    rw [Session.onContext, Run.start_within]
    cases act.start s.context with
    | error h => rfl
    | ok result => obtain ⟨_ | _, _⟩ := result <;> rfl

end Level

/-- A run on the context of a session leaves all else as it was. -/
theorem Session.onContext_start_eq_ok {α : Type} {act : ContextM α} {s t : Session}
    {r : Except RunError α} : (onContext act).start s = .ok (r, t) ↔
      ∃ ctx, act.start s.context = .ok (r, ctx) ∧ t = { s with context := ctx } :=
  @Level.lift_start_eq_ok _ _ .top act s t r

/-- A conditional loop. -/
structure Loop (σ : Type) where
  level : Level σ
  limit : Nat
  kind : LoopKind
  condition : Option Expr
  body : Run RunError σ Flow

namespace Loop

variable {σ ι : Type} (loop : Loop σ)

/-- Whether the condition asks for another pass. -/
def wants : Run RunError σ Bool := loop.level.lift (Context.wantsPass loop.kind loop.condition)

/-- Whether there is another pass. -/
def hasPass : Run RunError σ Bool :=
  loop.level.lift (Context.hasPass loop.limit loop.kind loop.condition)

/-- Changes the context. -/
def mapContext (f : Context → Context) (s : σ) : σ := loop.level.put s (f (loop.level.context s))

/-- Begins the loop. -/
def enter : σ → σ := loop.mapContext Context.enterLoop

/-- Ends the loop. -/
def leave : σ → σ := loop.mapContext Context.leaveLoop

/-- One pass. An end of the pass stops with it: the loop goes on with its condition. -/
def pass : Run RunError σ Unit := do
  let _ ← loop.body
  modify (loop.mapContext Context.countPass)

/-- One round: the look at the condition, and the pass if there is one. -/
def round : Run RunError σ (Option Unit) :=
  loopPass loop.hasPass loop.pass loop.condition.isNone

/-- The state in which the loop looks at its condition after a number of completed passes. -/
def after (s : σ) : Nat → Option σ
  | 0 => some s
  | k + 1 => (after s k).bind fun t =>
    match loop.hasPass.start t with
    | .ok (.ok true, u) =>
      match loop.pass.start u with
      | .ok (.ok _, v) => if loop.condition.isNone then none else some v
      | _ => none
    | _ => none

/-- The pass of a number, counted from zero, begins in a state. -/
def Begins (s : σ) (k : Nat) (u : σ) : Prop :=
  ∃ t, loop.after s k = some t ∧ loop.hasPass.start t = .ok (.ok true, u)

/-- What happens on the way of a number of rounds, given what happens on the way of a pass. -/
def trace (body : Trace σ ι) (rounds : Nat) : Trace σ ι :=
  repeated loop.round (loop.hasPass.follow fun
    | true => body
    | false => silent) rounds

/-! ## Rounds -/

variable {loop} {s t u v : σ} {k : Nat}

theorem context_mapContext (f : Context → Context) (s : σ) :
    loop.level.context (loop.mapContext f s) = f (loop.level.context s) :=
  loop.level.context_put s _

theorem mapContext_mapContext (f g : Context → Context) (s : σ) :
    loop.mapContext f (loop.mapContext g s) = loop.mapContext (fun ctx => f (g ctx)) s := by
  rw [mapContext, context_mapContext, mapContext, loop.level.put_put]
  rfl

theorem pass_start_of_ok (h : loop.pass.start u = .ok (.ok (), v)) :
    ∃ flow w, loop.body.start u = .ok (.ok flow, w) ∧ v = loop.mapContext Context.countPass w := by
  rcases Run.start_bind_eq_ok.1 h with ⟨e, -, he⟩ | ⟨flow, w, hw, hv⟩
  · cases he
  · cases hv
    exact ⟨flow, w, hw, rfl⟩

/-- Looking for a pass leaves the counters of the loops. -/
theorem hasPass_loops {r : Except RunError Bool} (h : loop.hasPass.start s = .ok (r, t)) :
    (loop.level.context t).loops = (loop.level.context s).loops := by
  obtain ⟨ctx, hctx, rfl⟩ := Level.lift_start_eq_ok.1 h
  obtain ⟨log, rfl, -⟩ := Context.hasPass_start hctx
  rw [loop.level.context_put]

theorem round_of_pass (hhas : loop.hasPass.start t = .ok (.ok true, u))
    (hpass : loop.pass.start u = .ok (.ok (), v)) :
    loop.round.start t = .ok (.ok (if loop.condition.isNone then some () else none), v) := by
  rw [round, loopPass, Run.start_bind_of_ok hhas, if_pos rfl, Run.start_bind_of_ok hpass]
  rfl

theorem round_of_no_pass (hhas : loop.hasPass.start t = .ok (.ok false, u)) :
    loop.round.start t = .ok (.ok (some ()), u) := by
  rw [round, loopPass, Run.start_bind_of_ok hhas]
  rfl

/-- The loop comes back to its condition after a pass that is completed, and only then. -/
theorem after_succ_eq_some_iff :
    loop.after s (k + 1) = some v ↔ ∃ t u, loop.after s k = some t ∧
      loop.hasPass.start t = .ok (.ok true, u) ∧ loop.pass.start u = .ok (.ok (), v) ∧
        loop.condition.isNone = false := by
  rw [after, Option.bind_eq_some_iff]
  constructor
  · rintro ⟨t, ht, h⟩
    split at h
    · rename_i u hu
      split at h
      · rename_i hv
        split at h
        · cases h
        · rename_i hcondition
          cases h
          exact ⟨t, u, ht, hu, hv, Bool.eq_false_iff.2 hcondition⟩
      · cases h
    · cases h
  · rintro ⟨t, u, ht, hu, hv, hcondition⟩
    exact ⟨t, ht, by simp [hu, hv, hcondition]⟩

/-- Before each completed pass there is the one before it. -/
theorem begins_of_after_succ (h : loop.after s (k + 1) = some v) :
    ∃ u, loop.Begins s k u ∧ loop.pass.start u = .ok (.ok (), v) := by
  obtain ⟨t, u, ht, hu, hv, -⟩ := after_succ_eq_some_iff.1 h
  exact ⟨u, ⟨t, ht, hu⟩, hv⟩

theorem Begins.unique (hu : loop.Begins s k u) (hv : loop.Begins s k v) : u = v := by
  obtain ⟨t, ht, htu⟩ := hu
  obtain ⟨t', ht', htv⟩ := hv
  cases ht.symm.trans ht'
  cases htu.symm.trans htv
  rfl

theorem exists_begins_of_le {j : Nat} (h : loop.Begins s k u) (hj : j ≤ k) :
    ∃ w, loop.Begins s j w := by
  induction k generalizing u with
  | zero => exact ⟨u, Nat.le_zero.1 hj ▸ h⟩
  | succ k ih =>
    rcases Nat.lt_or_eq_of_le hj with hlt | rfl
    · obtain ⟨t, ht, -⟩ := h
      obtain ⟨w, hw, -⟩ := begins_of_after_succ ht
      exact ih hw (Nat.lt_succ_iff.1 hlt)
    · exact ⟨u, h⟩

/-- A round that comes back to the condition is a completed pass. -/
theorem after_one_of_round (h : loop.round.start t = .ok (.ok none, v)) :
    loop.after t 1 = some v := by
  rw [round, loopPass] at h
  rcases Run.start_bind_eq_ok.1 h with ⟨e, -, he⟩ | ⟨more, u, hu, hr⟩
  · cases he
  · cases more with
    | false => cases hr
    | true =>
      rw [if_pos rfl] at hr
      rcases Run.start_bind_eq_ok.1 hr with ⟨e, -, he⟩ | ⟨_, w, hw, hr⟩
      · cases he
      · cases hcondition : loop.condition.isNone with
        | true =>
          rw [hcondition] at hr
          cases hr
        | false =>
          rw [hcondition] at hr
          cases hr
          exact after_succ_eq_some_iff.2 ⟨t, u, rfl, hu, hw, hcondition⟩

theorem after_one_eq_some_iff : loop.after t 1 = some v ↔
    loop.round.start t = .ok (.ok none, v) := by
  refine ⟨fun h => ?_, after_one_of_round⟩
  obtain ⟨t', u, ht, hu, hv, hcondition⟩ := after_succ_eq_some_iff.1 h
  cases ht
  have hround := round_of_pass hu hv
  rwa [hcondition, if_neg Bool.false_ne_true] at hround

/-- After a number of passes the loop goes on as from there. -/
theorem after_add (s : σ) (j k : Nat) :
    loop.after s (j + k) = (loop.after s j).bind fun t => loop.after t k := by
  induction k with
  | zero => exact (Option.bind_fun_some _).symm
  | succ k ih =>
    rw [Nat.add_succ, after, ih, Option.bind_assoc]
    rfl

/-- The completed passes of a loop are the rounds that come back to the condition. -/
theorem afterRounds_eq_after (s : σ) (k : Nat) :
    Run.afterRounds loop.round k s = loop.after s k := by
  induction k generalizing s with
  | zero => rfl
  | succ k ih =>
    apply Option.ext
    intro u
    rw [Run.afterRounds_succ_eq_some_iff, Nat.add_comm, after_add, Option.bind_eq_some_iff]
    simp only [ih, after_one_eq_some_iff]

/-- A loop ends where it has no further pass. -/
theorem iterate_round_of_no_pass {n : Nat} (h : loop.after s k = some t)
    (hhas : loop.hasPass.start t = .ok (.ok false, u)) (hn : k < n) :
    (Run.iterate loop.round n).start s = .ok (.ok (), u) :=
  Run.iterate_start_eq_ok_iff.2
    ⟨k, hn, t, (afterRounds_eq_after s k).trans h, round_of_no_pass hhas⟩

/-- **A law of looking for a pass and of the body, that is kept when loops are left, is a law of the
loop.** -/
theorem obeys {R : σ → List ι → σ → Prop} {body : Trace σ ι} (law : Law R)
    (hleave : ∀ {s l t}, R s l t → R (loop.leave s) l (loop.leave t))
    (hhas : Obeys R loop.hasPass silent) (hbody : Obeys R loop.body body) (n : Nat) :
    Obeys R (Run.bracket loop.enter loop.leave (Run.iterate loop.round n)) fun s =>
      loop.trace body n (loop.enter s) := by
  -- inside the loop the law is about what is left when the loop is
  have hlaw : Law fun s l t => R (loop.leave s) l (loop.leave t) :=
    ⟨fun s => law.refl _, fun hst htu => law.trans hst htu⟩
  have hpass : Obeys (fun s l t => R (loop.leave s) l (loop.leave t)) loop.pass body := by
    intro s r t h
    rcases Run.start_bind_eq_ok.1 h with ⟨e, he, -⟩ | ⟨flow, u, hu, ht⟩
    · exact hleave (hbody he)
    · cases ht
      have hcount : loop.leave (loop.mapContext Context.countPass u) = loop.leave u := by
        rw [leave, mapContext_mapContext, mapContext, mapContext, Context.leaveLoop_countPass]
      exact hcount ▸ hleave (hbody hu)
  have hround : Obeys (fun s l t => R (loop.leave s) l (loop.leave t)) loop.round
      (loop.hasPass.follow fun
        | true => body
        | false => silent) := by
    apply Obeys.bind_silent hlaw (fun s r t h => hleave (hhas h))
    intro more
    cases more with
    | true =>
      apply Obeys.bind_then_silent hlaw hpass
      intro _
      exact Obeys.pure hlaw _
    | false => exact Obeys.pure hlaw _
  have hiterate : Obeys (fun s l t => R (loop.leave s) l (loop.leave t))
      (Run.iterate loop.round n) (loop.trace body n) := Obeys.iterate hlaw hround n
  refine Obeys.bracket (R := R) hiterate ?_
  intro s l t h
  have henter : loop.leave (loop.enter s) = s := by
    rw [leave, enter, mapContext_mapContext]
    exact loop.level.put_context s
  rwa [henter] at h

/-! ## Limits -/

variable (loop)

/-- The message of a loop that is cut off in the log, and the loop left. -/
def cutOff : σ → σ := loop.mapContext fun ctx => (ctx.reportCutOff loop.limit).leaveLoop

/-- **What a limit on the passes promises of an execution of the loop.** No more than `limit` passes
begin. If the condition asks for another pass after as many, then the loop ends without an error
result, and from the last pass on it adds to the log the warnings of its condition and one error. -/
structure Capped (exec : Run RunError σ Flow) (rounds : Nat) (s : σ) : Prop where
  begins_lt : ∀ k u, loop.Begins (loop.enter s) k u → k < loop.limit
  cut_off : loop.limit < rounds → ∀ t u, loop.after (loop.enter s) loop.limit = some t →
    loop.wants.start t = .ok (.ok true, u) →
      exec.start s = .ok (.ok .next, loop.cutOff u) ∧
      ∃ warnings : List LogEntry, (∀ w ∈ warnings, w.severity = .warning) ∧
        (loop.level.context (loop.cutOff u)).log.toList =
          (loop.level.context t).log.toList ++ warnings ++
            [⟨.error, Context.cutOffMessage loop.limit⟩]

variable {loop}

theorem hasPass_eq_true_iff : loop.hasPass.start t = .ok (.ok true, u) ↔
    loop.wants.start t = .ok (.ok true, u) ∧
      (loop.level.context t).loops.headD 0 < loop.limit := by
  simp only [hasPass, wants, Level.lift_start_eq_ok, Context.hasPass_eq_true_iff]
  constructor
  · rintro ⟨ctx, ⟨hctx, hlimit⟩, rfl⟩
    exact ⟨⟨ctx, hctx, rfl⟩, hlimit⟩
  · rintro ⟨⟨ctx, hctx, rfl⟩, hlimit⟩
    exact ⟨ctx, ⟨hctx, hlimit⟩, rfl⟩

theorem hasPass_of_limit_le (h : loop.wants.start t = .ok (.ok true, u))
    (hlimit : loop.limit ≤ (loop.level.context t).loops.headD 0) :
    loop.hasPass.start t = .ok (.ok false,
      loop.mapContext (Context.reportCutOff loop.limit) u) := by
  obtain ⟨ctx, hctx, rfl⟩ := Level.lift_start_eq_ok.1 h
  refine Level.lift_start_eq_ok.2 ⟨ctx.reportCutOff loop.limit, ?_, ?_⟩
  · exact Context.hasPass_of_limit_le hctx hlimit
  · rw [mapContext, loop.level.context_put, loop.level.put_put]

/-- From the condition to the end of a loop that is cut off the log grows by
warnings and one error. -/
theorem log_cutOff (h : loop.wants.start t = .ok (.ok true, u)) :
    ∃ warnings : List LogEntry, (∀ w ∈ warnings, w.severity = .warning) ∧
      (loop.level.context (loop.cutOff u)).log.toList =
        (loop.level.context t).log.toList ++ warnings ++
          [⟨.error, Context.cutOffMessage loop.limit⟩] := by
  obtain ⟨ctx, hctx, rfl⟩ := Level.lift_start_eq_ok.1 h
  obtain ⟨log, rfl, warnings, hlog, hwarnings⟩ := Context.wantsPass_start hctx
  refine ⟨warnings, hwarnings, ?_⟩
  rw [cutOff, mapContext, loop.level.context_put, loop.level.context_put, ← hlog]
  exact Array.toList_push

/-- **A limit is kept exactly if the counter has reached it after as many passes.** -/
theorem capped_iff {exec : Run RunError σ Flow} {rounds : Nat}
    (hexec : ∀ v, (Run.iterate loop.round rounds).start (loop.enter s) = .ok (.ok (), v) →
      exec.start s = .ok (.ok .next, loop.leave v)) :
    loop.Capped exec rounds s ↔ ∀ t u, loop.after (loop.enter s) loop.limit = some t →
      loop.wants.start t = .ok (.ok true, u) →
        loop.limit ≤ (loop.level.context t).loops.headD 0 := by
  constructor
  · intro h t u ht hu
    refine Nat.le_of_not_lt fun hcounter => ?_
    have hhas := hasPass_eq_true_iff.2 ⟨hu, hcounter⟩
    exact Nat.lt_irrefl _ (h.begins_lt loop.limit u ⟨t, ht, hhas⟩)
  · intro hcounter
    constructor
    · intro k u hk
      refine Nat.lt_of_not_le fun hle => ?_
      obtain ⟨w, t, ht, hw⟩ := exists_begins_of_le hk hle
      obtain ⟨hwants, hlt⟩ := hasPass_eq_true_iff.1 hw
      exact Nat.not_le_of_lt hlt (hcounter t w ht hwants)
    · intro hrounds t u ht hu
      have hhas := hasPass_of_limit_le hu (hcounter t u ht hu)
      have hend := hexec _ (iterate_round_of_no_pass ht hhas hrounds)
      refine ⟨?_, log_cutOff hu⟩
      rw [hend, leave, mapContext_mapContext]
      rfl

end Loop

end DataStep
