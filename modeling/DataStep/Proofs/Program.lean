import DataStep.Proofs.Output

/-!
# Programs

A program attempts its statements one after another. An attempt that fails ends where its statement
failed, with the message of its error behind the log, and the next attempt begins there. Main
statement: the end of a program is the end of a chain with one attempt for each statement, in order,
and along every chain log and listing only grow and a DATA step or a procedure that fails lists
nothing (`runProgram_start_eq_ok_iff`).
-/

set_option autoImplicit false

namespace DataStep

namespace Session

/-! ## Attempts -/

/-- One execution of a statement of a program. -/
structure Attempt where
  statement : Statement
  /-- The session in which it begins. -/
  before : Session
  /-- The error with which it fails, if it does. -/
  result : Except RunError Unit
  /-- The session in which the statement ends or fails. -/
  after : Session

namespace Attempt

/-- The statement is executed as the attempt tells. -/
def Ran (passes : Nat) (a : Attempt) : Prop :=
  (run passes a.statement).start a.before = .ok (a.result, a.after)

/-- The session in which the next statement begins: if the statement failed, its
error is behind the log. -/
def close (a : Attempt) : Session :=
  match a.result with
  | .ok () => a.after
  | .error e => a.after.mapContext (Context.mapLog (Log.error · e.message))

theorem appends_close (a : Attempt) : a.after.Appends a.close := by
  unfold close
  cases a.result with
  | ok u => exact Appends.refl _
  | error e => exact ⟨⟨[⟨.error, e.message⟩], by simp [mapContext, Context.mapLog, Log.error]⟩,
      List.prefix_rfl⟩

theorem Ran.appends {passes : Nat} {a : Attempt} (h : a.Ran passes) : a.before.Appends a.close :=
  (appends_run h).trans a.appends_close

/-- **One statement of a program is attempted once**, and it ends where its attempt closes. -/
theorem runLogged_start_eq_ok_iff {passes : Nat} {stmt : Statement} {s t : Session}
    {r : Except RunError Unit} :
    (runLogged passes stmt).start s = .ok (r, t) ↔
      r = .ok () ∧ ∃ a : Attempt, a.statement = stmt ∧ a.before = s ∧
        a.Ran passes ∧ a.close = t := by
  rw [runLogged, Run.start_tryCatch]
  constructor
  · intro h
    cases hrun : (run passes stmt).start s with
    | error halt => rw [hrun] at h; cases h
    | ok result =>
      obtain ⟨e | ⟨⟩, u⟩ := result
      · rw [hrun] at h
        cases h
        exact ⟨rfl, ⟨stmt, s, .error e, u⟩, rfl, rfl, hrun, rfl⟩
      · rw [hrun] at h
        cases h
        exact ⟨rfl, ⟨stmt, s, .ok (), _⟩, rfl, rfl, hrun, rfl⟩
  · rintro ⟨rfl, ⟨_, _, result, u⟩, rfl, rfl, hran, rfl⟩
    unfold Ran at hran
    rw [hran]
    cases result with
    | error e => rfl
    | ok v => rfl

end Attempt

/-! ## Chains -/

/-- Attempts of which each begins where the one before it closes. -/
inductive Chain (passes : Nat) : Session → List Attempt → Session → Prop
  | nil (s : Session) : Chain passes s [] s
  | cons (a : Attempt) {rest : List Attempt} {t : Session} (hran : a.Ran passes)
    (hrest : Chain passes a.close rest t) : Chain passes a.before (a :: rest) t

namespace Chain

variable {passes : Nat} {attempts : List Attempt} {s t : Session}

/-- **Log and listing only grow along a chain.** -/
theorem appends (h : Chain passes s attempts t) : s.Appends t := by
  induction h with
  | nil s => exact Appends.refl s
  | cons a hran _ ih => exact hran.appends.trans ih

theorem ran (h : Chain passes s attempts t) {a : Attempt} (ha : a ∈ attempts) : a.Ran passes := by
  induction h with
  | nil s => cases ha
  | cons b hran _ ih =>
    rcases List.mem_cons.1 ha with rfl | ha
    · exact hran
    · exact ih ha

end Chain

/-- The execution of a program as a chain with one attempt for each statement. -/
structure Execution (passes : Nat) (program : Program) (s : Session) (attempts : List Attempt)
    (t : Session) : Prop where
  statements_eq : attempts.map (·.statement) = program.statements
  chain : Chain passes s attempts t

/-- What every execution of a program satisfies. -/
structure Execution.Bounded (s : Session) (attempts : List Attempt) (t : Session) : Prop where
  /-- What was in the log and in the listing is still in front. -/
  appends : s.Appends t
  /-- So it is during the program. -/
  attempt_appends : ∀ a ∈ attempts, a.before.Appends a.after
  /-- A statement that succeeds leaves the session to the next one as it ends. -/
  close_of_ok : ∀ a ∈ attempts, a.result = .ok () → a.close = a.after
  /-- One that fails leaves its message behind the log, and nothing else is added. -/
  close_of_error : ∀ a ∈ attempts, ∀ e, a.result = .error e → a.close = { a.after with
    context := { a.after.context with log := a.after.context.log.push ⟨.error, e.message⟩ } }
  /-- A DATA step or a procedure that fails lists nothing. -/
  listing_eq : ∀ a ∈ attempts, isStep a.statement = true → ∀ e, a.result = .error e →
    a.after.listing = a.before.listing

theorem Execution.bounded {passes : Nat} {program : Program} {s t : Session}
    {attempts : List Attempt}
    (h : Execution passes program s attempts t) : Execution.Bounded s attempts t where
  appends := h.chain.appends
  attempt_appends a ha := appends_run (h.chain.ran ha)
  close_of_ok a ha hok := by rw [Attempt.close, hok]
  close_of_error a ha e he := by
    rw [Attempt.close, he]
    rfl
  listing_eq a ha hstep e he := by
    have hran := h.chain.ran ha
    rw [Attempt.Ran, he] at hran
    exact listing_of_run_eq_error hstep hran

theorem forM_runLogged_start_eq_ok_iff {passes : Nat} {stmts : List Statement} {s t : Session}
    {r : Except RunError Unit} : (stmts.forM (runLogged passes)).start s = .ok (r, t) ↔
      r = .ok () ∧ ∃ attempts, attempts.map (·.statement) = stmts ∧ Chain passes s attempts t := by
  induction stmts generalizing s with
  | nil =>
    constructor
    · intro h
      cases h
      exact ⟨rfl, [], rfl, .nil _⟩
    · rintro ⟨rfl, attempts, hnil, hchain⟩
      rw [List.map_eq_nil_iff.1 hnil] at hchain
      cases hchain
      rfl
  | cons stmt stmts ih =>
    have hcons : (stmt :: stmts).forM (runLogged passes) =
        (runLogged passes stmt >>= fun _ => stmts.forM (runLogged passes)) := rfl
    rw [hcons]
    constructor
    · intro h
      rcases Run.start_bind_eq_ok.1 h with ⟨e, he, -⟩ | ⟨u, mid, hfirst, hrest⟩
      · cases (Attempt.runLogged_start_eq_ok_iff.1 he).1
      · obtain ⟨-, a, rfl, rfl, hran, rfl⟩ := Attempt.runLogged_start_eq_ok_iff.1 hfirst
        obtain ⟨rfl, attempts, rfl, hchain⟩ := ih.1 hrest
        exact ⟨rfl, a :: attempts, rfl, .cons a hran hchain⟩
    · rintro ⟨rfl, attempts, hattempts, hchain⟩
      cases hchain with
      | nil => cases hattempts
      | cons a hran hrest =>
        obtain ⟨rfl, rfl⟩ := List.cons.inj hattempts
        have hfirst : (runLogged passes a.statement).start a.before = .ok (.ok (), a.close) :=
          Attempt.runLogged_start_eq_ok_iff.2 ⟨rfl, a, rfl, rfl, hran, rfl⟩
        rw [Run.start_bind_of_ok hfirst]
        exact ih.2 ⟨rfl, _, rfl, hrest⟩

/-- **A program attempts each of its statements once and in order, whatever fails before, and
never fails itself.** -/
theorem runProgram_start_eq_ok_iff {passes : Nat} {program : Program} {s t : Session}
    {r : Except RunError Unit} : (runProgram passes program).start s = .ok (r, t) ↔
      r = .ok () ∧ ∃ attempts, Execution passes program s attempts t ∧
        Execution.Bounded s attempts t := by
  rw [runProgram, forM_runLogged_start_eq_ok_iff]
  constructor
  · rintro ⟨hr, attempts, hstatements, hchain⟩
    have hexecution : Execution passes program s attempts t := ⟨hstatements, hchain⟩
    exact ⟨hr, attempts, hexecution, hexecution.bounded⟩
  · rintro ⟨hr, attempts, hexecution, -⟩
    exact ⟨hr, attempts, hexecution.statements_eq, hexecution.chain⟩

/-- The error of a procedure that does not exist is in the log, and the title behind it is set. -/
example : ((runProgram 1 ⟨[.proc (.other "freq"), .title "t"]⟩).start
      (new .standard .empty 0)).toOption.map
      (fun result => (result.2.title, result.2.context.log.toList.map (·.severity))) =
    some (some "t", [.error, .note]) := by
  decide +kernel

end Session

end DataStep
