import DataStep.Run

/-!
# Laws of runs

What a run does when it is started, for every way of building a run, and how runs are told and
judged. A trace tells what happens on the way of a run that starts in a state; `follow` and
`repeated` tell the traces of runs in sequence and of repeated runs. A law is a relation between
the state before, what happens, and the state after, that holds of nothing and of one thing after
another (`Law`). A run obeys a law if it holds of all its results, failures included (`Obeys`),
and the lemmas `Obeys.bind`, `Obeys.iterate` and `Obeys.bracket` lift a law from the parts of a
run to the whole. `Keeps` is the law of a part of the state that stays as it was. `Maintains` is
for properties of states that hold before and after a run, where a value that is handed on may
carry a property of its own.
-/

set_option autoImplicit false

namespace DataStep.Run

variable {ε ε' σ τ ι α β : Type}

/-! ## Starting a run -/

@[simp] theorem start_pure (a : α) (s : σ) : (pure a : Run ε σ α).start s = .ok (.ok a, s) := rfl

@[simp] theorem start_throw (e : ε) (s : σ) :
    (throw e : Run ε σ α).start s = .ok (.error e, s) := rfl

@[simp] theorem start_get (s : σ) : (get : Run ε σ σ).start s = .ok (.ok s, s) := rfl

@[simp] theorem start_modify (f : σ → σ) (s : σ) :
    (modify f : Run ε σ PUnit).start s = .ok (.ok ⟨⟩, f s) := rfl

@[simp] theorem start_of (f : σ → Except Halt (Except ε α × σ)) (s : σ) :
    (of f).start s = f s := rfl

@[simp] theorem start_halt (h : Halt) (s : σ) : (halt h : Run ε σ α).start s = .error h := rfl

@[simp] theorem start_result (f : σ → Except ε α × σ) (s : σ) :
    (result f).start s = .ok (f s) := rfl

theorem start_bind (act : Run ε σ α) (f : α → Run ε σ β) (s : σ) :
    (act >>= f).start s =
      match act.start s with
      | .error h => .error h
      | .ok (.error e, t) => .ok (.error e, t)
      | .ok (.ok a, t) => (f a).start t := by
  change (StateT.bind act (ExceptT.bindCont f)) s = _
  rw [StateT.bind, start]
  cases act s with
  | error h => rfl
  | ok result =>
    obtain ⟨_ | _, t⟩ := result <;> rfl

/-- A run in sequence ends as its first part fails, or as its second part ends after the first. -/
theorem start_bind_eq_ok {act : Run ε σ α} {f : α → Run ε σ β} {s t : σ} {r : Except ε β} :
    (act >>= f).start s = .ok (r, t) ↔
      (∃ e, act.start s = .ok (.error e, t) ∧ r = .error e) ∨
        ∃ a u, act.start s = .ok (.ok a, u) ∧ (f a).start u = .ok (r, t) := by
  rw [start_bind]
  cases act.start s with
  | error h => simp
  | ok result =>
    obtain ⟨e | a, u⟩ := result
    · simp only [Except.ok.injEq, Prod.mk.injEq, Except.error.injEq, reduceCtorEq, false_and,
        exists_false, or_false]
      exact ⟨fun ⟨hr, ht⟩ => ⟨e, ⟨rfl, ht⟩, hr.symm⟩, fun ⟨e', ⟨he, ht⟩, hr⟩ => ⟨he ▸ hr.symm, ht⟩⟩
    · constructor
      · intro h
        exact .inr ⟨a, u, rfl, h⟩
      · rintro (⟨e, he, -⟩ | ⟨a', u', ha, h⟩)
        · cases he
        · cases ha
          exact h

/-- A run in sequence halts where its first part halts, or where its second part
does after the first. -/
theorem start_bind_eq_error {act : Run ε σ α} {f : α → Run ε σ β} {s : σ} {h : Halt} :
    (act >>= f).start s = .error h ↔
      act.start s = .error h ∨ ∃ a t, act.start s = .ok (.ok a, t) ∧ (f a).start t = .error h := by
  rw [start_bind]
  cases act.start s with
  | error h' => simp
  | ok result =>
    obtain ⟨e | a, t⟩ := result
    · simp
    · refine ⟨fun hf => .inr ⟨a, t, rfl, hf⟩, ?_⟩
      rintro (ha | ⟨a', t', ha, hf⟩)
      · cases ha
      · cases ha
        exact hf

theorem start_bind_of_ok {act : Run ε σ α} {f : α → Run ε σ β} {s u : σ} {a : α}
    (h : act.start s = .ok (.ok a, u)) : (act >>= f).start s = (f a).start u := by
  rw [start_bind, h]

theorem start_bind_of_error {act : Run ε σ α} {f : α → Run ε σ β} {s u : σ} {e : ε}
    (h : act.start s = .ok (.error e, u)) : (act >>= f).start s = .ok (.error e, u) := by
  rw [start_bind, h]

/-- A run of which something is known at its end comes to an end. -/
theorem exists_start_eq_ok {act : Run ε σ α} {s : σ} {f : Except ε α × σ → Option β} {b : β}
    (h : (act.start s).toOption.bind f = some b) :
    ∃ r t, act.start s = .ok (r, t) ∧ f (r, t) = some b := by
  cases hstart : act.start s with
  | error halt => rw [hstart] at h; cases h
  | ok result =>
    rw [hstart] at h
    exact ⟨result.1, result.2, rfl, h⟩

/-- What is known at the end of a run holds of its end. -/
theorem end_eq_some {act : Run ε σ α} {s t : σ} {r : Except ε α}
    {f : Except ε α × σ → Option β} {b : β}
    (h : (act.start s).toOption.bind f = some b) (hstart : act.start s = .ok (r, t)) :
    f (r, t) = some b := by
  rw [hstart] at h
  exact h

/-- A run gives the value that is known of it. -/
theorem exists_start_eq_value {act : Run ε σ α} {s : σ} {a : α}
    (h : (act.start s).toOption.bind (fun result => result.1.toOption) = some a) :
    ∃ t, act.start s = .ok (.ok a, t) := by
  obtain ⟨r, t, hstart, hr⟩ := exists_start_eq_ok h
  cases r with
  | error e => cases hr
  | ok b => exact ⟨t, Option.some.inj hr ▸ hstart⟩

theorem start_within (part : σ → τ) (put : σ → τ → σ) (err : ε → ε') (act : Run ε τ α) (s : σ) :
    (within part put err act).start s =
      (act.start (part s)).map fun result => (result.1.mapError err, put s result.2) := by
  rw [within, start_of]
  cases act.start (part s) with
  | error h => rfl
  | ok result => rfl

@[simp] theorem start_tryCatch (act : Run ε σ α) (handle : ε → Run ε σ α) (s : σ) :
    (tryCatch act handle).start s =
      match act.start s with
      | .error h => .error h
      | .ok (.error e, t) => (handle e).start t
      | .ok (.ok a, t) => .ok (.ok a, t) := by
  change (StateT.bind act fun r => match r with
    | .ok a => pure (.ok a)
    | .error e => handle e) s = _
  rw [StateT.bind, start]
  cases act s with
  | error h => rfl
  | ok result => obtain ⟨_ | _, t⟩ := result <;> rfl

theorem start_bracket (enter leave : σ → σ) (act : Run ε σ α) (s : σ) :
    (bracket enter leave act).start s =
      (act.start (enter s)).map fun result => (result.1, leave result.2) := by
  rw [bracket, start_of]
  cases act.start (enter s) with
  | error h => rfl
  | ok result => rfl

theorem iterate_succ (step : Run ε σ (Option α)) (n : Nat) :
    iterate step (n + 1) = step >>= fun
      | some a => pure a
      | none => iterate step n := rfl

/-! ## Traces -/

/-- What happens on the way of a run, by the state in which it starts. -/
abbrev Trace (σ ι : Type) := σ → List ι

/-- The trace on which nothing happens. -/
def silent : Trace σ ι := fun _ => []

/-- What happens after a run, if it gives a value. -/
def follow (act : Run ε σ α) (next : α → Trace σ ι) : Trace σ ι := fun s =>
  match act.start s with
  | .ok (.ok a, t) => next a t
  | _ => []

/-- What happens on the way of a step that is repeated until it gives a value. -/
def repeated (step : Run ε σ (Option α)) (trace : Trace σ ι) : Nat → Trace σ ι
  | 0 => silent
  | n + 1 => fun s => trace s ++ step.follow (fun
    | some _ => silent
    | none => repeated step trace n) s

theorem follow_of_ok {act : Run ε σ α} {next : α → Trace σ ι} {s t : σ} {a : α}
    (h : act.start s = .ok (.ok a, t)) : act.follow next s = next a t := by
  rw [follow, h]

theorem follow_of_error {act : Run ε σ α} {next : α → Trace σ ι} {s t : σ} {e : ε}
    (h : act.start s = .ok (.error e, t)) : act.follow next s = [] := by
  rw [follow, h]

/-! ## Laws -/

/-- A relation between the state before, what happens, and the state after, that holds of nothing
and of one thing after another. -/
structure Law (R : σ → List ι → σ → Prop) : Prop where
  refl : ∀ s, R s [] s
  trans : ∀ {s t u l m}, R s l t → R t m u → R s (l ++ m) u

/-- A law holds of everything in which a run may end. -/
def Obeys (R : σ → List ι → σ → Prop) (act : Run ε σ α) (trace : Trace σ ι) : Prop :=
  ∀ ⦃s r t⦄, act.start s = .ok (r, t) → R s (trace s) t

namespace Obeys

variable {R : σ → List ι → σ → Prop} {act : Run ε σ α} {f : α → Run ε σ β}
  {trace : Trace σ ι} {next : α → Trace σ ι}

protected theorem pure (law : Law R) (a : α) : Obeys R (pure a : Run ε σ α) silent := by
  intro s r t h
  cases h
  exact law.refl s

protected theorem throw (law : Law R) (e : ε) : Obeys R (throw e : Run ε σ α) silent := by
  intro s r t h
  cases h
  exact law.refl s

protected theorem get (law : Law R) : Obeys R (get : Run ε σ σ) silent := by
  intro s r t h
  cases h
  exact law.refl s

protected theorem modify {g : σ → σ} (h : ∀ s, R s (trace s) (g s)) :
    Obeys R (modify g : Run ε σ PUnit) trace := by
  intro s r t hs
  cases hs
  exact h s

protected theorem result {g : σ → Except ε α × σ} (h : ∀ s, R s (trace s) (g s).2) :
    Obeys R (result g) trace := by
  intro s r t hs
  have hg : g s = (r, t) := Except.ok.inj hs
  have hR := h s
  rwa [hg] at hR

/-- **A law of both parts is a law of the sequence.** -/
theorem bind (law : Law R) (hact : Obeys R act trace) (hf : ∀ a, Obeys R (f a) (next a)) :
    Obeys R (act >>= f) fun s => trace s ++ act.follow next s := by
  intro s r t h
  change R s (trace s ++ act.follow next s) t
  rcases start_bind_eq_ok.1 h with ⟨e, he, -⟩ | ⟨a, u, ha, hr⟩
  · rw [follow_of_error he, List.append_nil]
    exact hact he
  · rw [follow_of_ok ha]
    exact law.trans (hact ha) (hf a hr)

/-- Nothing happens on the way of the first part. -/
theorem bind_silent (law : Law R) (hact : Obeys R act silent) (hf : ∀ a, Obeys R (f a) (next a)) :
    Obeys R (act >>= f) (act.follow next) := bind law hact hf

/-- Nothing happens on the way of the second part. -/
theorem bind_then_silent (law : Law R) (hact : Obeys R act trace)
    (hf : ∀ a, Obeys R (f a) silent) : Obeys R (act >>= f) trace := by
  intro s r t h
  have hR : R s (trace s ++ act.follow (fun _ => silent) s) t := bind law hact hf h
  have hnil : act.follow (fun _ => (silent : Trace σ ι)) s = [] := by
    unfold follow
    split <;> rfl
  rwa [hnil, List.append_nil] at hR

/-- **A law of a step is a law of its repetitions.** -/
theorem iterate {step : Run ε σ (Option α)} (law : Law R) (h : Obeys R step trace) (n : Nat) :
    Obeys R (iterate step n) (repeated step trace n) := by
  induction n with
  | zero =>
    intro s r t hs
    cases hs
  | succ n ih =>
    rw [iterate_succ]
    refine bind law h fun
      | some a => Obeys.pure law a
      | none => ih

/-- A law that survives entering and leaving is a law of what is enclosed. -/
theorem bracket {enter leave : σ → σ} {Q : σ → List ι → σ → Prop} (h : Obeys Q act trace)
    (hR : ∀ ⦃s l t⦄, Q (enter s) l t → R s l (leave t)) :
    Obeys R (bracket enter leave act) fun s => trace (enter s) := by
  intro s r t hs
  rw [start_bracket] at hs
  cases hact : act.start (enter s) with
  | error e => rw [hact] at hs; cases hs
  | ok result =>
    rw [hact] at hs
    cases hs
    exact hR (h hact)

end Obeys

/-! ## Parts of the state that stay -/

/-- A run leaves what a function reads of the state as it was. -/
abbrev Keeps (f : σ → β) (act : Run ε σ α) : Prop :=
  Obeys (fun s (_ : List Empty) t => f t = f s) act silent

namespace Keeps

variable {f : σ → ι} {act : Run ε σ α}

theorem law : Law fun s (_ : List Empty) t => f t = f s :=
  ⟨fun _ => rfl, fun hst htu => htu.trans hst⟩

protected theorem pure (a : α) : Keeps f (pure a : Run ε σ α) := Obeys.pure law a

protected theorem throw (e : ε) : Keeps f (throw e : Run ε σ α) := Obeys.throw law e

protected theorem get : Keeps f (get : Run ε σ σ) := Obeys.get law

protected theorem modify {g : σ → σ} (h : ∀ s, f (g s) = f s) :
    Keeps f (modify g : Run ε σ PUnit) := Obeys.modify h

protected theorem result {g : σ → Except ε α × σ} (h : ∀ s, f (g s).2 = f s) :
    Keeps f (result g) := Obeys.result h

theorem bind {next : α → Run ε σ β} (hact : Keeps f act) (hnext : ∀ a, Keeps f (next a)) :
    Keeps f (act >>= next) := Obeys.bind_then_silent law hact hnext

protected theorem ite {other : Run ε σ α} (b : Bool) (hact : Keeps f act) (hother : Keeps f other) :
    Keeps f (if b then act else other) := by
  cases b with
  | true => exact hact
  | false => exact hother

theorem forM {each : α → Run ε σ PUnit} (h : ∀ a, Keeps f (each a)) (as : List α) :
    Keeps f (as.forM each) := by
  induction as with
  | nil => exact .pure _
  | cons a as ih => exact .bind (h a) fun _ => ih

theorem mapM {each : α → Run ε σ β} (h : ∀ a, Keeps f (each a)) (as : List α) :
    Keeps f (as.mapM each) := by
  induction as with
  | nil => exact .pure _
  | cons a as ih =>
    rw [List.mapM_cons]
    exact .bind (h a) fun b => .bind ih fun bs => .pure _

end Keeps

/-! ## Properties of states -/

/-- A run that starts in a state with a property ends in one, and a value that it gives has
a property of its own. -/
def Maintains (I : σ → Prop) (Q : α → Prop) (act : Run ε σ α) : Prop :=
  ∀ ⦃s r t⦄, I s → act.start s = .ok (r, t) → I t ∧ ∀ a, r = .ok a → Q a

/-- A run keeps a property of states. -/
abbrev Preserves (I : σ → Prop) (act : Run ε σ α) : Prop := Maintains I (fun _ => True) act

namespace Maintains

variable {I : σ → Prop} {P Q : α → Prop} {S : β → Prop} {act : Run ε σ α}

protected theorem pure {a : α} (h : Q a) : Maintains I Q (pure a : Run ε σ α) := by
  intro s r t hI hs
  cases hs
  exact ⟨hI, fun b hb => Except.ok.inj hb ▸ h⟩

protected theorem throw (e : ε) : Maintains I Q (throw e : Run ε σ α) := by
  intro s r t hI hs
  cases hs
  exact ⟨hI, fun a ha => nomatch ha⟩

protected theorem get : Maintains I I (get : Run ε σ σ) := by
  intro s r t hI hs
  cases hs
  exact ⟨hI, fun a ha => Except.ok.inj ha ▸ hI⟩

protected theorem modify {g : σ → σ} (h : ∀ s, I s → I (g s)) :
    Preserves I (modify g : Run ε σ PUnit) := by
  intro s r t hI hs
  cases hs
  exact ⟨h s hI, fun _ _ => trivial⟩

/-- **What the second part may rely on is what the first part says of its value.** -/
theorem bind {next : α → Run ε σ β} (hact : Maintains I P act)
    (hnext : ∀ a, P a → Maintains I S (next a)) : Maintains I S (act >>= next) := by
  intro s r t hI hs
  rcases start_bind_eq_ok.1 hs with ⟨e, he, rfl⟩ | ⟨a, u, hu, hr⟩
  · exact ⟨(hact hI he).1, fun b hb => nomatch hb⟩
  · obtain ⟨hIu, hP⟩ := hact hI hu
    exact hnext a (hP a rfl) hIu hr

protected theorem ite {other : Run ε σ α} (b : Bool) (hact : Maintains I Q act)
    (hother : Maintains I Q other) : Maintains I Q (if b then act else other) := by
  cases b with
  | true => exact hact
  | false => exact hother

theorem forM {each : α → Run ε σ PUnit} (h : ∀ a, Preserves I (each a)) (as : List α) :
    Preserves I (as.forM each) := by
  induction as with
  | nil => exact .pure trivial
  | cons a as ih => exact .bind (h a) fun _ _ => ih

theorem mapM {each : α → Run ε σ β} (h : ∀ a, Preserves I (each a)) (as : List α) :
    Preserves I (as.mapM each) := by
  induction as with
  | nil => exact .pure trivial
  | cons a as ih =>
    rw [List.mapM_cons]
    exact .bind (h a) fun b _ => .bind ih fun bs _ => .pure trivial

theorem tryCatch {handle : ε → Run ε σ α} (hact : Maintains I Q act)
    (hhandle : ∀ e, Maintains I Q (handle e)) : Maintains I Q (tryCatch act handle) := by
  intro s r t hI hs
  rw [start_tryCatch] at hs
  cases hrun : act.start s with
  | error halt => rw [hrun] at hs; cases hs
  | ok result =>
    obtain ⟨e | a, u⟩ := result
    · rw [hrun] at hs
      exact hhandle e (hact hI hrun).1 hs
    · rw [hrun] at hs
      cases hs
      exact hact hI hrun

/-- A run on a part of the state that the property does not read. -/
theorem within {ε' : Type} {part : σ → τ} {put : σ → τ → σ} {err : ε' → ε} {inner : Run ε' τ α}
    (h : ∀ s t, I s → I (put s t)) : Preserves I (Run.within part put err inner) := by
  intro s r t hI hs
  rw [start_within] at hs
  cases hinner : inner.start (part s) with
  | error halt => rw [hinner] at hs; cases hs
  | ok result =>
    rw [hinner] at hs
    cases hs
    exact ⟨h s result.2 hI, fun _ _ => trivial⟩

/-- A property of states as a law of runs. -/
theorem obeys {trace : Trace σ ι} (h : Preserves I act) :
    Obeys (fun s (_ : List ι) t => I s → I t) act trace := fun _ _ _ hs hI => (h hI hs).1

end Maintains

end DataStep.Run
