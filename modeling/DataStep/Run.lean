import DataStep.Error

/-!
# Runs

A run works on a state and ends with a value or with an error; it keeps its state in both cases.
Or it halts, and then nothing is left. `Run.iterate` repeats a step until the step gives a value, at
most as often as it is told; it halts when the passes are used up.
-/

set_option autoImplicit false

namespace DataStep

/-- A computation on a state that may fail, keeping the state, or halt. -/
abbrev Run (ε σ : Type) := ExceptT ε (StateT σ (Except Halt))

namespace Run

variable {ε ε' σ τ α : Type}

/-- Starts a run on a state. -/
def start (act : Run ε σ α) (s : σ) : Except Halt (Except ε α × σ) := act s

/-- A run from its function on states. -/
def of (f : σ → Except Halt (Except ε α × σ)) : Run ε σ α := f

/-- Stops for good. -/
def halt (h : Halt) : Run ε σ α := of fun _ => .error h

/-- A result that is known, with the state that belongs to it. -/
def result (f : σ → Except ε α × σ) : Run ε σ α := of fun s => .ok (f s)

/-- Runs on a part of the state and widens its errors. -/
def within (part : σ → τ) (put : σ → τ → σ) (err : ε → ε') (act : Run ε τ α) : Run ε' σ α :=
  of fun s =>
    match act.start (part s) with
    | .error h => .error h
    | .ok (r, t) => .ok (r.mapError err, put s t)

/-- Changes the state before a run and again after it, whether the run fails or not. -/
def bracket (enter leave : σ → σ) (act : Run ε σ α) : Run ε σ α :=
  of fun s =>
    match act.start (enter s) with
    | .error h => .error h
    | .ok (r, t) => .ok (r, leave t)

/-- Repeats a step until it gives a value, at most as often as told. -/
def iterate (step : Run ε σ (Option α)) : Nat → Run ε σ α
  | 0 => halt .outOfPasses
  | n + 1 => do
    match ← step with
    | some a => pure a
    | none => iterate step n

end Run

end DataStep
