import DataStep.Proofs.Run

/-!
# Repeated steps, round by round

A step that is repeated goes on as long as it gives no value. `Run.afterRounds` is the
state after a number of such rounds. A repetition goes on from there as if it began
there (`iterate_start_of_afterRounds`) and ends in the first round that fails or gives
a value (`iterate_start_eq_ok_iff`); what happens on its way happens in one of its
rounds (`mem_repeated_iff`).
-/

set_option autoImplicit false

namespace DataStep.Run

variable {ε σ ι α β : Type}

/-- The state after a number of rounds, if none of them failed or gave a value. -/
def afterRounds (step : Run ε σ (Option α)) : Nat → σ → Option σ
  | 0, s => some s
  | k + 1, s =>
    match step.start s with
    | .ok (.ok none, t) => afterRounds step k t
    | _ => none

section Rounds

variable {step : Run ε σ (Option α)} {s t u : σ} {k n : Nat}

theorem afterRounds_succ_eq_some_iff : afterRounds step (k + 1) s = some u ↔
    ∃ t, step.start s = .ok (.ok none, t) ∧ afterRounds step k t = some u := by
  rw [afterRounds]
  constructor
  · intro h
    split at h
    · rename_i t ht
      exact ⟨t, ht, h⟩
    · cases h
  · rintro ⟨t, ht, hu⟩
    rw [ht]
    exact hu

/-- What a round leaves alone is as it was after any number of rounds. -/
theorem Keeps.afterRounds {f : σ → β} (h : Keeps f step) (hu : afterRounds step k s = some u) :
    f u = f s := by
  induction k generalizing s with
  | zero =>
    cases hu
    rfl
  | succ k ih =>
    obtain ⟨t, ht, hu⟩ := afterRounds_succ_eq_some_iff.1 hu
    exact (ih hu).trans (h ht)

theorem iterate_start_of_afterRounds (h : afterRounds step k s = some u) :
    (iterate step (k + n)).start s = (iterate step n).start u := by
  induction k generalizing s with
  | zero =>
    cases h
    rw [Nat.zero_add]
  | succ k ih =>
    obtain ⟨t, ht, hu⟩ := afterRounds_succ_eq_some_iff.1 h
    rw [Nat.add_right_comm, iterate_succ, start_bind_of_ok ht]
    exact ih hu

/-- **A repetition ends in the first round that fails or gives a value.** -/
theorem iterate_start_eq_ok_iff {r : Except ε α} : (iterate step n).start s = .ok (r, t) ↔
    ∃ k < n, ∃ u, afterRounds step k s = some u ∧ step.start u = .ok (r.map some, t) := by
  constructor
  · intro h
    induction n generalizing s with
    | zero => cases h
    | succ n ih =>
      rw [iterate_succ] at h
      rcases start_bind_eq_ok.1 h with ⟨e, he, rfl⟩ | ⟨a, v, hv, hr⟩
      · exact ⟨0, Nat.zero_lt_succ n, s, rfl, he⟩
      · cases a with
        | some a =>
          cases hr
          exact ⟨0, Nat.zero_lt_succ n, s, rfl, hv⟩
        | none =>
          obtain ⟨k, hk, u, hu, hround⟩ := ih hr
          exact ⟨k + 1, Nat.succ_lt_succ hk, u, afterRounds_succ_eq_some_iff.2 ⟨v, hv, hu⟩, hround⟩
  · rintro ⟨k, hk, u, hu, hround⟩
    obtain ⟨m, rfl⟩ := Nat.exists_eq_add_of_lt hk
    rw [Nat.add_assoc, iterate_start_of_afterRounds hu, iterate_succ]
    cases r with
    | error e => exact start_bind_of_error hround
    | ok a => exact start_bind_of_ok hround

variable {trace : Trace σ ι}

/-- What happens on the way of a repetition happens in one of its rounds. -/
theorem mem_repeated_iff {e : ι} : e ∈ repeated step trace n s ↔
    ∃ k < n, ∃ u, afterRounds step k s = some u ∧ e ∈ trace u := by
  constructor
  · intro h
    induction n generalizing s with
    | zero => cases h
    | succ n ih =>
      rcases List.mem_append.1 h with h | h
      · exact ⟨0, Nat.zero_lt_succ n, s, rfl, h⟩
      · unfold follow at h
        split at h
        · rename_i a t ht
          cases a with
          | some a => cases h
          | none =>
            obtain ⟨k, hk, u, hu, he⟩ := ih h
            exact ⟨k + 1, Nat.succ_lt_succ hk, u, afterRounds_succ_eq_some_iff.2 ⟨t, ht, hu⟩, he⟩
        · cases h
  · rintro ⟨k, hk, u, hu, he⟩
    induction k generalizing s n with
    | zero =>
      cases hu
      obtain ⟨m, rfl⟩ := Nat.exists_eq_add_of_lt hk
      exact List.mem_append_left _ he
    | succ k ih =>
      obtain ⟨t, ht, hu⟩ := afterRounds_succ_eq_some_iff.1 hu
      cases n with
      | zero => exact absurd hk (Nat.not_lt_zero _)
      | succ n =>
        refine List.mem_append_right _ ?_
        rw [follow_of_ok ht]
        exact ih (Nat.lt_of_succ_lt_succ hk) hu

/-- After a number of rounds what is still to happen is what happens from there. -/
theorem repeated_of_afterRounds (h : afterRounds step k s = some u) :
    ∃ before, repeated step trace (k + n) s = before ++ repeated step trace n u := by
  induction k generalizing s with
  | zero =>
    cases h
    exact ⟨[], by rw [Nat.zero_add, List.nil_append]⟩
  | succ k ih =>
    obtain ⟨t, ht, hu⟩ := afterRounds_succ_eq_some_iff.1 h
    obtain ⟨before, hbefore⟩ := ih hu
    refine ⟨trace s ++ before, ?_⟩
    rw [Nat.add_right_comm, List.append_assoc, ← hbefore]
    exact congrArg (trace s ++ ·) (follow_of_ok ht)

end Rounds

end DataStep.Run
