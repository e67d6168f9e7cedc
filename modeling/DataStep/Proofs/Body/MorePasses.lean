import DataStep.Proofs.Body

/-!
# More passes

A run with a bound on the passes of its loops either uses them up or comes to what it comes to under
every greater bound (`Run.Approaches`). Main statement: this holds of the statements of a body
(`Statement.performAll_approaches`). So a body that comes to an end under one bound comes to the
same end under every greater one, and where it ends does not depend on the bound.
-/

set_option autoImplicit false

namespace DataStep

/-! ## Runs that use up their passes -/

namespace Run

variable {ε σ α β : Type}

/-- A run uses up its passes, or it comes to what another run comes to. -/
def Approaches (act other : Run ε σ α) : Prop :=
  ∀ s, act.start s = .error .outOfPasses ∨ act.start s = other.start s

namespace Approaches

variable {act other : Run ε σ α}

protected theorem refl (act : Run ε σ α) : Approaches act act := fun _ => .inr rfl

/-- What a run comes to without using up its passes the other run comes to, too. -/
theorem start_eq_of_ok (h : Approaches act other) {s : σ} {result : Except ε α × σ}
    (hstart : act.start s = .ok result) : other.start s = .ok result := by
  rcases h s with hout | hsame
  · rw [hout] at hstart
    cases hstart
  · rw [← hsame, hstart]

/-- **In sequence the passes are used up by one of the parts.** -/
theorem bind {f g : α → Run ε σ β} (hact : Approaches act other)
    (hf : ∀ a, Approaches (f a) (g a)) :
    Approaches (act >>= f) (other >>= g) := by
  intro s
  rw [start_bind, start_bind]
  rcases hact s with hout | hsame
  · rw [hout]
    exact .inl rfl
  · rw [hsame]
    cases other.start s with
    | error halt => exact .inr rfl
    | ok result =>
      obtain ⟨e | a, t⟩ := result
      · exact .inr rfl
      · exact hf a t

protected theorem ite {act' other' : Run ε σ α} (b : Bool) (h : Approaches act other)
    (h' : Approaches act' other') :
    Approaches (if b then act else act') (if b then other else other') := by
  cases b with
  | true => exact h
  | false => exact h'

theorem bracket (h : Approaches act other) (enter leave : σ → σ) :
    Approaches (bracket enter leave act) (bracket enter leave other) := by
  intro s
  rw [start_bracket, start_bracket]
  rcases h (enter s) with hout | hsame
  · rw [hout]
    exact .inl rfl
  · rw [hsame]
    exact .inr rfl

/-- **A repetition has no fewer passes than before.** The induction is on the passes that it has. -/
theorem iterate {step other : Run ε σ (Option α)} (h : Approaches step other)
    {n m : Nat} (hle : n ≤ m) :
    Approaches (iterate step n) (iterate other m) := by
  induction n generalizing m with
  | zero => exact fun _ => .inl rfl
  | succ n ih =>
    obtain ⟨m, rfl⟩ := Nat.exists_eq_succ_of_ne_zero (Nat.ne_zero_of_lt hle)
    rw [iterate_succ, iterate_succ]
    refine h.bind fun
      | some a => .refl _
      | none => ih (Nat.le_of_succ_le_succ hle)

end Approaches

end Run

open Run (Approaches)

/-! ## Statements -/

section Statements

variable {passes more limit : Nat}

theorem countedPass_approaches {body other : ContextM Flow}
    (h : Approaches body other) (counter : String) (last increment : Number) :
    Approaches (countedPass counter last increment body)
      (countedPass counter last increment other) := by
  refine .bind (.refl get) fun ctx => ?_
  cases (Row.value ctx.row counter).toNumber? with
  | none => exact .refl _
  | some current =>
    exact .ite _ (h.bind fun flow => .refl _) (.refl _)

namespace Statement

theorem conditionalDo_approaches (kind : LoopKind) (condition : Option Expr) {body : Statement}
    (hle : passes ≤ more)
    (hbody : Approaches (body.perform passes limit) (body.perform more limit)) :
    Approaches ((conditionalDo kind condition body).perform passes limit)
      ((conditionalDo kind condition body).perform more limit) := by
  have hround : Approaches (bodyLoop passes limit kind condition body).round
      (bodyLoop more limit kind condition body).round := by
    refine .bind (.refl (bodyLoop passes limit kind condition body).hasPass) fun wanted => ?_
    exact .ite wanted (.bind (hbody.bind fun flow => .refl _) fun _ => .refl _) (.refl _)
  rw [perform_conditionalDo, perform_conditionalDo]
  exact .bind ((hround.iterate hle).bracket _ _) fun _ => .refl _

mutual

/-- **A statement of a body uses up its passes, or it comes to what it comes
to with more of them.** -/
theorem perform_approaches (limit : Nat) (hle : passes ≤ more) :
    ∀ stmt : Statement, Approaches (stmt.perform passes limit) (stmt.perform more limit)
  | .ifThen condition body => by
    rw [perform, perform]
    refine .bind (.refl _) fun holds => ?_
    exact .ite holds (performAll_approaches limit hle body) (.refl _)
  | .ifChain condition body elseIfs otherwise => by
    rw [perform, perform]
    refine .bind (.refl _) fun holds => .ite holds (performAll_approaches limit hle body) ?_
    exact performArms_approaches limit hle (performAll_approaches limit hle otherwise) elseIfs
  | .conditionalDo kind condition body =>
    conditionalDo_approaches kind condition hle (perform_approaches limit hle body)
  | .countedDo counter start stop increment body => by
    rw [perform, perform]
    apply Approaches.bind (.refl _)
    rintro ⟨_ | last, step⟩
    · exact .refl _
    · exact (countedPass_approaches
        (performAll_approaches limit hle body) counter last step).iterate hle
  | .block body => by
    rw [perform, perform]
    exact performAll_approaches limit hle body
  | .assign .. => .refl _
  | .output => .refl _
  | .drop _ => .refl _
  | .keep _ => .refl _
  | .retain _ => .refl _
  | .array .. => .refl _
  | .endPass => .refl _
  | .merge .. => .refl _
  | .byVariables .. => .refl _
  | .dataStep .. => .refl _
  | .options .. => .refl _
  | .libname .. => .refl _
  | .title .. => .refl _
  | .proc .. => .refl _

/-- **Statements in order use up their passes, or they come to what they come
to with more of them.** -/
theorem performAll_approaches (limit : Nat) (hle : passes ≤ more) :
    ∀ stmts : List Statement,
      Approaches (performAll passes limit stmts) (performAll more limit stmts)
  | [] => by
    rw [performAll, performAll]
    exact .refl _
  | stmt :: rest => by
    rw [performAll, performAll]
    refine .bind (perform_approaches limit hle stmt) fun flow => ?_
    cases flow with
    | next => exact performAll_approaches limit hle rest
    | endOfPass => exact .refl _

theorem performArms_approaches (limit : Nat) (hle : passes ≤ more) {otherwise other : ContextM Flow}
    (hotherwise : Approaches otherwise other) :
    ∀ arms : List (Expr × List Statement),
      Approaches (performArms passes limit otherwise arms) (performArms more limit other arms)
  | [] => by
    rw [performArms, performArms]
    exact hotherwise
  | (condition, body) :: arms => by
    rw [performArms, performArms]
    refine .bind (.refl _) fun holds => ?_
    exact .ite holds (performAll_approaches limit hle body)
      (performArms_approaches limit hle hotherwise arms)

end

end Statement

end Statements

end DataStep
