import DataStep.Proofs.Moments

/-!
# Places in a body

A `Place` is a gap between the statements of a body, at any depth, and `Place.fill` puts statements
there. `Place.visits` tells the contexts in which an execution of the filled body comes to the gap.

Main statement: two fillings of a place come to the same where the statements do the same in all
contexts in which the place is reached (`Place.agreesWhile_fill`). So statements that do the same
only in some contexts may be replaced where no other context is reached. A visit is a moment of the
filled body, so the visits are no more than what the execution reaches (`Place.told_visits`).
-/

set_option autoImplicit false

namespace DataStep

/-! ## Runs that agree under a condition -/

namespace Run

variable {ε σ ι κ α β : Type}

/-- Two runs come to the same, whatever the state, if all that happens on the way
of the first is good. -/
def AgreesWhile (good : ι → Prop) (trace : Trace σ ι) (act other : Run ε σ α) : Prop :=
  ∀ s, (∀ e ∈ trace s, good e) → act.start s = other.start s

namespace AgreesWhile

variable {good : ι → Prop} {trace : Trace σ ι} {act other : Run ε σ α} {f g : α → Run ε σ β}
  {next : α → Trace σ ι}

protected theorem refl (trace : Trace σ ι) (act : Run ε σ α) : AgreesWhile good trace act act :=
  fun _ _ => rfl

/-- Runs in sequence agree if both their parts do. -/
theorem bind (hact : AgreesWhile good trace act other)
    (hnext : ∀ a, AgreesWhile good (next a) (f a) (g a)) :
    AgreesWhile good (fun s => trace s ++ act.follow next s) (act >>= f) (other >>= g) := by
  intro s hgood
  have hfirst : act.start s = other.start s :=
    hact s fun e he => hgood e (List.mem_append_left _ he)
  rw [start_bind, start_bind, ← hfirst]
  cases hstart : act.start s with
  | error halt => rfl
  | ok result =>
    obtain ⟨e | a, t⟩ := result
    · rfl
    · -- what happens in the second part is on the way of the sequence, behind the first
      refine hnext a t fun e he => hgood e (List.mem_append_right _ ?_)
      rwa [follow_of_ok hstart]

/-- One part is the same in both runs. -/
theorem bind_right (act : Run ε σ α) (hnext : ∀ a, AgreesWhile good (next a) (f a) (g a)) :
    AgreesWhile good (act.follow next) (act >>= f) (act >>= g) := by
  have hact : AgreesWhile good silent act act := .refl silent act
  exact bind hact hnext

theorem bind_left (hact : AgreesWhile good trace act other) (f : α → Run ε σ β) :
    AgreesWhile good trace (act >>= f) (other >>= f) := by
  intro s hgood
  rw [start_bind, start_bind, hact s hgood]

/-- **Repeated steps agree if each round does.** -/
theorem iterate {step other : Run ε σ (Option α)}
    (h : AgreesWhile good trace step other) (n : Nat) :
    AgreesWhile good (repeated step trace n) (iterate step n) (iterate other n) := by
  induction n with
  | zero => exact .refl _ _
  | succ n ih =>
    rw [iterate_succ, iterate_succ]
    apply bind h
    intro again
    cases again with
    | some a => exact .refl _ _
    | none => exact ih

theorem bracket (h : AgreesWhile good trace act other) (enter leave : σ → σ) :
    AgreesWhile good (fun s => trace (enter s)) (Run.bracket enter leave act)
      (Run.bracket enter leave other) := by
  intro s hgood
  rw [start_bracket, start_bracket, h (enter s) hgood]

end AgreesWhile

/-- What comes after runs in sequence comes after the second part of them. -/
theorem follow_bind (act : Run ε σ α) (f : α → Run ε σ β) (next : β → Trace σ ι) :
    (act >>= f).follow next = act.follow fun a => (f a).follow next := by
  funext s
  rw [follow, follow, start_bind]
  cases act.start s with
  | error halt => rfl
  | ok result => obtain ⟨_ | _, _⟩ := result <;> rfl

/-- All that one trace tells is told by another one, in other words. -/
def Told (f : ι → κ) (trace : Trace σ ι) (other : Trace σ κ) : Prop :=
  ∀ s, ∀ e ∈ trace s, f e ∈ other s

namespace Told

variable {f : ι → κ} {trace : Trace σ ι} {other : Trace σ κ}

theorem silent : Told f silent other := fun _ _ h => nomatch h

theorem follow (act : Run ε σ α) {next : α → Trace σ ι} {next' : α → Trace σ κ}
    (h : ∀ a, Told f (next a) (next' a)) : Told f (act.follow next) (act.follow next') := by
  intro s e he
  cases hstart : act.start s with
  | error halt => simp [Run.follow, hstart] at he
  | ok result =>
    obtain ⟨error | a, t⟩ := result
    · simp [Run.follow, hstart] at he
    · rw [follow_of_ok hstart] at he ⊢
      exact h a t e he

theorem repeated (step : Run ε σ (Option α)) (h : Told f trace other) (n : Nat) :
    Told f (repeated step trace n) (repeated step other n) := by
  intro s e he
  obtain ⟨k, hk, u, hu, hround⟩ := mem_repeated_iff.1 he
  exact mem_repeated_iff.2 ⟨k, hk, u, hu, h u e hround⟩

end Told

end Run

open Run (Trace AgreesWhile Told follow repeated silent)

/-! ## Statements in two parts -/

namespace Statement

variable {passes limit : Nat}

/-- What comes after some statements, if they do not end the pass. -/
def thenNext {ι : Type} (trace : Trace Context ι) : Flow → Trace Context ι
  | .next => trace
  | .endOfPass => silent

/-- Statements are executed one part after the other. -/
theorem performAll_append (passes limit : Nat) (stmts others : List Statement) :
    performAll passes limit (stmts ++ others) = performAll passes limit stmts >>= fun
      | .next => performAll passes limit others
      | .endOfPass => pure .endOfPass := by
  induction stmts with
  | nil => rw [List.nil_append, performAll, pure_bind]
  | cons stmt stmts ih =>
    rw [List.cons_append, performAll, performAll, ih, bind_assoc]
    refine congrArg _ (funext fun flow => ?_)
    cases flow with
    | next => rfl
    | endOfPass => exact (pure_bind _ _).symm

theorem performArms_append (passes limit : Nat) (otherwise : ContextM Flow)
    (arms others : List (Expr × List Statement)) :
    performArms passes limit otherwise (arms ++ others) =
      performArms passes limit (performArms passes limit otherwise others) arms := by
  induction arms with
  | nil => rw [List.nil_append, performArms]
  | cons arm arms ih =>
    obtain ⟨condition, body⟩ := arm
    rw [List.cons_append, performArms, performArms, ih]

theorem momentsArms_append (passes limit : Nat) (otherwise : Trace Context (Statement × Context))
    (arms others : List (Expr × List Statement)) :
    momentsArms passes limit otherwise (arms ++ others) =
      momentsArms passes limit (momentsArms passes limit otherwise others) arms := by
  induction arms with
  | nil => rw [List.nil_append, momentsArms]
  | cons arm arms ih =>
    obtain ⟨condition, body⟩ := arm
    rw [List.cons_append, momentsArms, momentsArms, ih]

end Statement

/-! ## Places -/

mutual

/-- A place between the statements of a list, at any depth. -/
inductive Place where
  /-- Between two parts of the list. -/
  | here (before after : List Statement)
  /-- In the parts of a statement of the list. -/
  | inside (before : List Statement) (inner : InnerPlace) (after : List Statement)

/-- A place in the parts of a statement. -/
inductive InnerPlace where
  | ifThen (condition : Expr) (place : Place)
  | ifChain (condition : Expr) (place : Place) (elseIfs : List (Expr × List Statement))
      (otherwise : List Statement)
  | elseIf (condition : Expr) (body : List Statement) (earlier : List (Expr × List Statement))
      (arm : Expr) (place : Place) (later : List (Expr × List Statement))
      (otherwise : List Statement)
  | otherwise (condition : Expr) (body : List Statement) (elseIfs : List (Expr × List Statement))
      (place : Place)
  | conditionalDo (kind : LoopKind) (condition : Option Expr) (inner : InnerPlace)
  | countedDo (counter : String) (start stop : Expr) (increment : Option Expr) (place : Place)
  | block (place : Place)
  | dataStep (header : StepHeader) (place : Place)

end

mutual

/-- The statements with others put in a place. -/
def Place.fill (stmts : List Statement) : Place → List Statement
  | .here before after => before ++ (stmts ++ after)
  | .inside before inner after => before ++ (inner.fill stmts :: after)

/-- The statement with others put in a place. -/
def InnerPlace.fill (stmts : List Statement) : InnerPlace → Statement
  | .ifThen condition place => .ifThen condition (place.fill stmts)
  | .ifChain condition place elseIfs otherwise =>
    .ifChain condition (place.fill stmts) elseIfs otherwise
  | .elseIf condition body earlier arm place later otherwise =>
    .ifChain condition body (earlier ++ (arm, place.fill stmts) :: later) otherwise
  | .otherwise condition body elseIfs place => .ifChain condition body elseIfs (place.fill stmts)
  | .conditionalDo kind condition inner => .conditionalDo kind condition (inner.fill stmts)
  | .countedDo counter start stop increment place =>
    .countedDo counter start stop increment (place.fill stmts)
  | .block place => .block (place.fill stmts)
  | .dataStep header place => .dataStep header (place.fill stmts)

end

/-- What happens after the conditions of some arms, if none of them holds. -/
def Statement.pastArms {ι : Type} (rest : Trace Context ι) :
    List (Expr × List Statement) → Trace Context ι
  | [] => rest
  | (condition, _) :: arms => (Context.holds condition).follow fun
    | true => silent
    | false => Statement.pastArms rest arms

mutual

/-- The contexts in which statements in a place begin, in order. -/
def Place.visits (passes limit : Nat) (stmts : List Statement) : Place → Trace Context Context
  | .here before _ => (Statement.performAll passes limit before).follow
    (Statement.thenNext fun ctx => [ctx])
  | .inside before inner _ => (Statement.performAll passes limit before).follow
    (Statement.thenNext (inner.visits passes limit stmts))

/-- The contexts in which statements in a place of a statement begin. -/
def InnerPlace.visits (passes limit : Nat) (stmts : List Statement) :
    InnerPlace → Trace Context Context
  | .ifThen condition place => (Context.holds condition).follow fun
    | true => place.visits passes limit stmts
    | false => silent
  | .ifChain condition place _ _ => (Context.holds condition).follow fun
    | true => place.visits passes limit stmts
    | false => silent
  | .elseIf condition _ earlier arm place _ _ => (Context.holds condition).follow fun
    | true => silent
    | false => Statement.pastArms ((Context.holds arm).follow fun
      | true => place.visits passes limit stmts
      | false => silent) earlier
  | .otherwise condition _ elseIfs place => (Context.holds condition).follow fun
    | true => silent
    | false => Statement.pastArms (place.visits passes limit stmts) elseIfs
  | .conditionalDo kind condition inner => fun ctx =>
    (Statement.bodyLoop passes limit kind condition (inner.fill stmts)).trace
      (inner.visits passes limit stmts) passes ctx.enterLoop
  | .countedDo counter start stop increment place =>
    (startCounted counter start stop increment).follow fun
    | (none, _) => silent
    | (some last, step) =>
      repeated (countedPass counter last step
        (Statement.performAll passes limit (place.fill stmts)))
        (countedTrace counter last step (place.visits passes limit stmts)) passes
  | .block place => place.visits passes limit stmts
  -- a DATA step in a body fails before anything in it begins
  | .dataStep _ _ => silent

end

/-! ## Replacing statements -/

namespace Statement

variable {passes limit : Nat} {ι : Type} {good : ι → Prop} {trace : Trace Context ι}

/-- Arms agree if what is left after them does. -/
theorem agreesWhile_performArms {otherwise other : ContextM Flow}
    (h : AgreesWhile good trace otherwise other) (arms : List (Expr × List Statement)) :
    AgreesWhile good (pastArms trace arms) (performArms passes limit otherwise arms)
      (performArms passes limit other arms) := by
  induction arms with
  | nil =>
    rw [pastArms, performArms, performArms]
    exact h
  | cons arm arms ih =>
    obtain ⟨condition, body⟩ := arm
    rw [pastArms, performArms, performArms]
    apply AgreesWhile.bind_right
    intro holds
    cases holds with
    | true => exact .refl _ _
    | false => exact ih

/-- Rounds of a conditional loop agree if their bodies do. -/
theorem agreesWhile_round {body other : Statement}
    (h : AgreesWhile good trace (body.perform passes limit) (other.perform passes limit))
    (kind : LoopKind) (condition : Option Expr) :
    AgreesWhile good
      ((bodyLoop passes limit kind condition body).hasPass.follow fun
        | true => trace
        | false => silent)
      (bodyLoop passes limit kind condition body).round
      (bodyLoop passes limit kind condition other).round := by
  apply AgreesWhile.bind_right
  intro more
  cases more with
  | true =>
    apply AgreesWhile.bind_left
    exact .bind_left h _
  | false => exact .refl _ _

/-- Passes of a counted loop agree if their bodies do. -/
theorem agreesWhile_countedPass {body other : ContextM Flow} (h : AgreesWhile good trace body other)
    (counter : String) (last increment : Number) :
    AgreesWhile good (countedTrace counter last increment trace)
      (countedPass counter last increment body) (countedPass counter last increment other) := by
  intro ctx hgood
  by_cases hrange : CounterInRange counter last increment ctx
  · rw [countedTrace_of_inRange hrange] at hgood
    rw [countedPass_start_of_inRange hrange, countedPass_start_of_inRange hrange]
    exact AgreesWhile.bind_left h _ ctx hgood
  · rw [countedPass_start_of_not_inRange hrange, countedPass_start_of_not_inRange hrange]

end Statement

/-- Statements do in a context what others do there. -/
abbrev Statement.SameIn (passes limit : Nat) (stmts others : List Statement)
    (ctx : Context) : Prop :=
  (Statement.performAll passes limit stmts).start ctx =
    (Statement.performAll passes limit others).start ctx

section Replacing

open Statement (SameIn performAll performAll_append performArms_append agreesWhile_performArms
  agreesWhile_round agreesWhile_countedPass perform_conditionalDo)

variable (passes limit : Nat) (stmts others : List Statement)

mutual

/-- **Two fillings of a place come to the same where the statements do the same in all contexts in
which the place is reached.** -/
theorem Place.agreesWhile_fill : ∀ place : Place,
    AgreesWhile (SameIn passes limit stmts others) (place.visits passes limit stmts)
      (performAll passes limit (place.fill stmts)) (performAll passes limit (place.fill others))
  | .here before after => by
    rw [Place.fill, Place.fill, Place.visits, performAll_append _ _ before (stmts ++ after),
      performAll_append _ _ before (others ++ after)]
    apply AgreesWhile.bind_right
    intro flow
    cases flow with
    | endOfPass => exact .refl _ _
    | next =>
      -- what stands behind the place is the same in both
      dsimp only
      rw [performAll_append, performAll_append]
      apply AgreesWhile.bind_left
      exact fun ctx hsame => hsame ctx (List.mem_singleton_self ctx)
  | .inside before inner after => by
    rw [Place.fill, Place.fill, Place.visits, performAll_append, performAll_append]
    apply AgreesWhile.bind_right
    intro flow
    cases flow with
    | endOfPass => exact .refl _ _
    | next =>
      dsimp only
      rw [performAll, performAll]
      exact .bind_left inner.agreesWhile_fill _

theorem InnerPlace.agreesWhile_fill : ∀ inner : InnerPlace,
    AgreesWhile (SameIn passes limit stmts others) (inner.visits passes limit stmts)
      ((inner.fill stmts).perform passes limit) ((inner.fill others).perform passes limit)
  | .ifThen condition place => by
    rw [InnerPlace.fill, InnerPlace.fill, InnerPlace.visits, Statement.perform, Statement.perform]
    apply AgreesWhile.bind_right
    intro holds
    cases holds with
    | true => exact place.agreesWhile_fill
    | false => exact .refl _ _
  | .ifChain condition place elseIfs otherwise => by
    rw [InnerPlace.fill, InnerPlace.fill, InnerPlace.visits, Statement.perform, Statement.perform]
    apply AgreesWhile.bind_right
    intro holds
    cases holds with
    | true => exact place.agreesWhile_fill
    | false => exact .refl _ _
  | .elseIf condition body earlier arm place later otherwise => by
    rw [InnerPlace.fill, InnerPlace.fill, InnerPlace.visits, Statement.perform, Statement.perform]
    apply AgreesWhile.bind_right
    intro holds
    cases holds with
    | true => exact .refl _ _
    | false =>
      -- the arms before are passed over, those behind are left if this one does not hold
      dsimp only
      rw [if_neg Bool.false_ne_true, if_neg Bool.false_ne_true,
        performArms_append, performArms_append]
      apply agreesWhile_performArms
      rw [Statement.performArms, Statement.performArms]
      apply AgreesWhile.bind_right
      intro armHolds
      cases armHolds with
      | true => exact place.agreesWhile_fill
      | false => exact .refl _ _
  | .otherwise condition body elseIfs place => by
    rw [InnerPlace.fill, InnerPlace.fill, InnerPlace.visits, Statement.perform, Statement.perform]
    apply AgreesWhile.bind_right
    intro holds
    cases holds with
    | true => exact .refl _ _
    | false => exact agreesWhile_performArms place.agreesWhile_fill elseIfs
  | .conditionalDo kind condition inner => by
    rw [InnerPlace.fill, InnerPlace.fill, InnerPlace.visits,
      perform_conditionalDo, perform_conditionalDo]
    -- the loop is entered and left alike, and in between it is the rounds that have to agree
    apply AgreesWhile.bind_left
    apply AgreesWhile.bracket
    apply AgreesWhile.iterate
    exact agreesWhile_round inner.agreesWhile_fill kind condition
  | .countedDo counter start stop increment place => by
    rw [InnerPlace.fill, InnerPlace.fill, InnerPlace.visits, Statement.perform, Statement.perform]
    apply AgreesWhile.bind_right
    rintro ⟨_ | last, step⟩
    · exact .refl _ _
    · apply AgreesWhile.iterate
      exact agreesWhile_countedPass place.agreesWhile_fill counter last step
  | .block place => by
    rw [InnerPlace.fill, InnerPlace.fill, InnerPlace.visits, Statement.perform, Statement.perform]
    exact place.agreesWhile_fill
  | .dataStep header place => by
    rw [InnerPlace.fill, InnerPlace.fill, Statement.perform, Statement.perform]
    exact .refl _ _

end

end Replacing

/-! ## The moments of a place -/

namespace Statement

variable {passes limit : Nat} {ι : Type} {f : ι → Statement × Context} {trace : Trace Context ι}

/-- What is told after some arms is told with the arms. -/
theorem told_pastArms {rest : Trace Context (Statement × Context)} (h : Told f trace rest)
    (arms : List (Expr × List Statement)) :
    Told f (pastArms trace arms) (momentsArms passes limit rest arms) := by
  induction arms with
  | nil =>
    rw [pastArms, momentsArms]
    exact h
  | cons arm arms ih =>
    obtain ⟨condition, body⟩ := arm
    rw [pastArms, momentsArms]
    apply Told.follow
    intro holds
    cases holds with
    | true => exact Told.silent
    | false => exact ih

/-- What the first part does not end is told of the second one. -/
theorem told_momentsAll_append {others : List Statement}
    (h : Told f trace (momentsAll passes limit others)) (stmts : List Statement) :
    Told f ((performAll passes limit stmts).follow (thenNext trace))
      (momentsAll passes limit (stmts ++ others)) := by
  induction stmts with
  | nil =>
    rw [performAll]
    exact h
  | cons stmt stmts ih =>
    intro ctx e he
    rw [performAll, Run.follow_bind] at he
    rw [List.cons_append, momentsAll]
    refine List.mem_append_right _ (Told.follow _ (fun flow => ?_) ctx e he)
    cases flow with
    | next => exact ih
    | endOfPass => exact Told.silent

end Statement

section Moments

open Statement (momentsAll momentsArms_append told_pastArms told_momentsAll_append)

variable {passes limit : Nat} {first : Statement} {rest : List Statement}

/-- What a statement tells is told of it and the statements after it. -/
theorem Statement.told_momentsAll_cons {ι : Type} {f : ι → Statement × Context}
    {trace : Trace Context ι} {stmt : Statement} (h : Told f trace (stmt.moments passes limit))
    (others : List Statement) : Told f trace (momentsAll passes limit (stmt :: others)) := by
  intro ctx e he
  rw [momentsAll]
  exact List.mem_append_left _ (h ctx e he)

mutual

/-- **A visit of a place is a moment at which its first statement begins**, if this is one without
parts. -/
theorem Place.told_visits (hfirst : ∀ ctx, first.moments passes limit ctx = [(first, ctx)]) :
    ∀ place : Place, Told (Prod.mk first) (place.visits passes limit (first :: rest))
      (momentsAll passes limit (place.fill (first :: rest)))
  | .here before after => by
    rw [Place.fill, Place.visits, List.cons_append]
    refine told_momentsAll_append (Statement.told_momentsAll_cons (fun ctx e he => ?_) _) before
    rw [hfirst, List.mem_singleton.1 he]
    exact List.mem_singleton_self _
  | .inside before inner after => by
    rw [Place.fill, Place.visits]
    exact told_momentsAll_append
      (Statement.told_momentsAll_cons (inner.told_visits hfirst) after) before

theorem InnerPlace.told_visits (hfirst : ∀ ctx, first.moments passes limit ctx = [(first, ctx)]) :
    ∀ inner : InnerPlace, Told (Prod.mk first) (inner.visits passes limit (first :: rest))
      ((inner.fill (first :: rest)).moments passes limit)
  | .ifThen condition place => by
    rw [InnerPlace.fill, InnerPlace.visits, Statement.moments]
    apply Told.follow
    intro holds
    cases holds with
    | true => exact place.told_visits hfirst
    | false => exact Told.silent
  | .ifChain condition place elseIfs otherwise => by
    rw [InnerPlace.fill, InnerPlace.visits, Statement.moments]
    apply Told.follow
    intro holds
    cases holds with
    | true => exact place.told_visits hfirst
    | false => exact Told.silent
  | .elseIf condition body earlier arm place later otherwise => by
    rw [InnerPlace.fill, InnerPlace.visits, Statement.moments]
    apply Told.follow
    intro holds
    cases holds with
    | true => exact Told.silent
    | false =>
      dsimp only
      rw [momentsArms_append]
      apply told_pastArms
      rw [Statement.momentsArms]
      apply Told.follow
      intro armHolds
      cases armHolds with
      | true => exact place.told_visits hfirst
      | false => exact Told.silent
  | .otherwise condition body elseIfs place => by
    rw [InnerPlace.fill, InnerPlace.visits, Statement.moments]
    apply Told.follow
    intro holds
    cases holds with
    | true => exact Told.silent
    | false => exact told_pastArms (place.told_visits hfirst) elseIfs
  | .conditionalDo kind condition inner => by
    rw [InnerPlace.fill, InnerPlace.visits, Statement.moments]
    have htrace : Told (Prod.mk first)
        ((Statement.bodyLoop passes limit kind condition (inner.fill (first :: rest))).trace
          (inner.visits passes limit (first :: rest)) passes)
        ((Statement.bodyLoop passes limit kind condition (inner.fill (first :: rest))).trace
          ((inner.fill (first :: rest)).moments passes limit) passes) := by
      apply Told.repeated
      apply Told.follow
      intro more
      cases more with
      | true => exact inner.told_visits hfirst
      | false => exact Told.silent
    exact fun ctx => htrace ctx.enterLoop
  | .countedDo counter start stop increment place => by
    rw [InnerPlace.fill, InnerPlace.visits, Statement.moments]
    apply Told.follow
    rintro ⟨_ | last, step⟩
    · exact Told.silent
    · apply Told.repeated
      intro ctx e he
      obtain ⟨hrange, he⟩ := mem_countedTrace_iff.1 he
      exact mem_countedTrace_iff.2 ⟨hrange, place.told_visits hfirst ctx e he⟩
  | .block place => by
    rw [InnerPlace.fill, InnerPlace.visits, Statement.moments]
    exact place.told_visits hfirst
  | .dataStep header place => by
    rw [InnerPlace.visits]
    exact Told.silent

end

end Moments

end DataStep
