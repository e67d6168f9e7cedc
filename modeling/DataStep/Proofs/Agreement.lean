import DataStep.Proofs.Run

/-!
# Runs from related states

Two runs that start in related states agree if they come to the same: both halt alike, or both end
with one result in related states (`Run.Same`, `Run.Agree`). The lemmas build an agreement of two
runs from agreements of their parts, for every way of building a run. Values that the parts hand on
are equal; a state that is read is handed on as one of two related states (`Agree.get_bind`).
-/

set_option autoImplicit false

namespace DataStep.Run

variable {ε ε' σ τ α β : Type}

/-- Both runs halt alike, or both end with one result in related states. -/
inductive Same (R : σ → σ → Prop) :
    Except Halt (Except ε α × σ) → Except Halt (Except ε α × σ) → Prop
  | halts (h : Halt) : Same R (.error h) (.error h)
  | ends (r : Except ε α) {s t : σ} (h : R s t) : Same R (.ok (r, s)) (.ok (r, t))

theorem Same.mono {R Q : σ → σ → Prop} {x y : Except Halt (Except ε α × σ)} (h : Same R x y)
    (hQ : ∀ s t, R s t → Q s t) : Same Q x y := by
  cases h with
  | halts halt => exact .halts halt
  | ends r hR => exact .ends r (hQ _ _ hR)

/-- What one run ends with the other one ends with, too. -/
theorem Same.of_ok {R : σ → σ → Prop} {r : Except ε α} {s : σ} {y : Except Halt (Except ε α × σ)}
    (h : Same R (.ok (r, s)) y) : ∃ t, y = .ok (r, t) ∧ R s t := by
  cases h with
  | ends _ hR => exact ⟨_, rfl, hR⟩

/-- Runs that start in related states come to the same. -/
def Agree (R : σ → σ → Prop) (act other : Run ε σ α) : Prop :=
  ∀ ⦃s t⦄, R s t → Same R (act.start s) (other.start t)

namespace Agree

variable {R : σ → σ → Prop} {act other : Run ε σ α} {f g : α → Run ε σ β}

protected theorem pure (a : α) : Agree R (pure a : Run ε σ α) (pure a) :=
  fun _ _ h => .ends (.ok a) h

protected theorem throw (e : ε) : Agree R (throw e : Run ε σ α) (throw e) :=
  fun _ _ h => .ends (.error e) h

/-- A run comes to the same from one state. -/
protected theorem eq (act : Run ε σ α) : Agree Eq act act := by
  rintro s _ rfl
  cases act.start s with
  | error halt => exact .halts halt
  | ok result => exact .ends result.1 rfl

protected theorem modify {change : σ → σ} (h : ∀ s t, R s t → R (change s) (change t)) :
    Agree R (modify change : Run ε σ PUnit) (modify change) := by
  intro s t hR
  rw [start_modify, start_modify]
  exact .ends _ (h s t hR)

protected theorem result {step : σ → Except ε α × σ}
    (h : ∀ s t, R s t → (step s).1 = (step t).1 ∧ R (step s).2 (step t).2) :
    Agree R (result step) (result step) := by
  intro s t hR
  obtain ⟨hresult, hstates⟩ := h s t hR
  rw [start_result, start_result, ← Prod.eta (step s), ← Prod.eta (step t), hresult]
  exact .ends _ hstates

/-- **Runs in sequence agree if their parts do.** -/
theorem bind (hact : Agree R act other) (hf : ∀ a, Agree R (f a) (g a)) :
    Agree R (act >>= f) (other >>= g) := by
  intro s t hR
  have hsame := hact hR
  rw [start_bind, start_bind]
  generalize act.start s = x at hsame
  generalize other.start t = y at hsame
  cases hsame with
  | halts halt => exact .halts halt
  | ends r h =>
    cases r with
    | error e => exact .ends (.error e) h
    | ok a => exact hf a h

/-- What is read of the state is one of two related states. -/
theorem get_bind {f g : σ → Run ε σ β} (h : ∀ s t, R s t → Agree R (f s) (g t)) :
    Agree R (get >>= f) (get >>= g) := by
  intro s t hR
  rw [start_bind_of_ok (start_get s), start_bind_of_ok (start_get t)]
  exact h s t hR hR

protected theorem ite {act' other' : Run ε σ α} (b : Bool) (h : Agree R act other)
    (h' : Agree R act' other') :
    Agree R (if b then act else act') (if b then other else other') := by
  cases b with
  | true => exact h
  | false => exact h'

theorem forM {each : α → Run ε σ PUnit} (as : List α) (h : ∀ a ∈ as, Agree R (each a) (each a)) :
    Agree R (as.forM each) (as.forM each) := by
  induction as with
  | nil => exact .pure _
  | cons a as ih =>
    exact .bind (h a List.mem_cons_self) fun _ => ih fun b hb => h b (List.mem_cons_of_mem a hb)

theorem mapM {each : α → Run ε σ β} (as : List α) (h : ∀ a ∈ as, Agree R (each a) (each a)) :
    Agree R (as.mapM each) (as.mapM each) := by
  induction as with
  | nil => exact .pure _
  | cons a as ih =>
    rw [List.mapM_cons]
    have hrest := ih fun b hb => h b (List.mem_cons_of_mem a hb)
    exact .bind (h a List.mem_cons_self) fun b => .bind hrest fun bs => .pure _

/-- **Repetitions of runs that agree do.** -/
theorem iterate {step other : Run ε σ (Option α)} (h : Agree R step other) (n : Nat) :
    Agree R (iterate step n) (iterate other n) := by
  induction n with
  | zero => exact fun _ _ _ => .halts .outOfPasses
  | succ n ih =>
    rw [iterate_succ, iterate_succ]
    exact .bind h fun
      | some a => .pure a
      | none => ih

theorem bracket {enter leave : σ → σ} (h : Agree R act other)
    (henter : ∀ s t, R s t → R (enter s) (enter t))
    (hleave : ∀ s t, R s t → R (leave s) (leave t)) :
    Agree R (bracket enter leave act) (bracket enter leave other) := by
  intro s t hR
  have hsame := h (henter s t hR)
  rw [start_bracket, start_bracket]
  generalize act.start (enter s) = x at hsame
  generalize other.start (enter t) = y at hsame
  cases hsame with
  | halts halt => exact .halts halt
  | ends r hinner => exact .ends r (hleave _ _ hinner)

/-- Runs on parts of the state agree if the parts are related and what is put back is. -/
theorem within {Q : τ → τ → Prop} {part : σ → τ} {put : σ → τ → σ} {err : ε → ε'}
    {act other : Run ε τ α} (h : Agree Q act other) (hpart : ∀ s t, R s t → Q (part s) (part t))
    (hput : ∀ s t u v, R s t → Q u v → R (put s u) (put t v)) :
    Agree R (within part put err act) (within part put err other) := by
  intro s t hR
  have hsame := h (hpart s t hR)
  rw [start_within, start_within]
  generalize act.start (part s) = x at hsame
  generalize other.start (part t) = y at hsame
  cases hsame with
  | halts halt => exact .halts halt
  | ends r hinner => exact .ends _ (hput s t _ _ hR hinner)

end Agree

end DataStep.Run
