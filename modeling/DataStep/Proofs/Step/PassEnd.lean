import DataStep.Proofs.Body.PassEnd
import DataStep.Proofs.Step.Driver
import DataStep.Proofs.Step.Retained

/-!
# END in a DATA step

No loop is running when the pass over an input row begins. So the pass never ends before the
statements of the body do (`rowPass_of_comesTo`): an END outside of all conditional loops is an
error, and END elsewhere ends a pass of the loop around it. Main statement:
`endPass_ends_innermost_pass`.
-/

set_option autoImplicit false

namespace DataStep.Session

open Run (Keeps)

variable {passes : Nat} {header : StepHeader} {body : List Statement} {s t : Session} {row : Row}

/-! ## The loops of a step -/

/-- A DATA step comes to its pass over a row: it is opened, begins, and completes the passes
over the rows before. -/
def ComesTo (passes : Nat) (header : StepHeader) (body : List Statement) (s : Session) (row : Row)
    (t : Session) : Prop :=
  ∃ libref name opened first before after,
    s.config.splitName header.output = (libref, name) ∧
    opening header (body.any isMerge) s = (.ok (before ++ row :: after), opened) ∧
    (beginStep libref name body).start { s with catalog := opened } = .ok (.ok (), first) ∧
    (before.forM (passRow passes libref name body)).start first = .ok (.ok (), t)

theorem ComesTo.config_eq (h : ComesTo passes header body s row t) : t.config = s.config := by
  obtain ⟨libref, name, opened, first, before, after, -, -, hbegin, hbefore⟩ := h
  have hrows : t.config = first.config :=
    Keeps.forM (keepsConfig_passRow passes libref name body) before hbefore
  have hfirst : first.config = ({ s with catalog := opened } : Session).config :=
    keepsConfig_beginStep libref name body hbegin
  exact hrows.trans hfirst

theorem ComesTo.loops_eq (h : ComesTo passes header body s row t) : t.context.loops = [] := by
  obtain ⟨libref, name, opened, first, before, after, -, -, hbegin, hbefore⟩ := h
  have hrows : t.context.loops = first.context.loops :=
    Keeps.forM (keepsLoops_passRow passes libref name body) before hbefore
  exact hrows.trans (beginStep_context Context.blind_loops hbegin)

/-- A step fails in the pass that it comes to as the body does. -/
theorem ComesTo.dataStep_start_of_error {e : RunError} {v : Context}
    (h : ComesTo passes header body s row t)
    (hbody : (Statement.performAll passes s.config.maxPasses body).start (t.context.beginPass row) =
      .ok (.error e, v)) :
    (dataStep passes header body).start s = .ok (.error e, { t with context := v }) := by
  rw [← h.config_eq] at hbody
  obtain ⟨libref, name, opened, first, before, after, hname, hopen, hbegin, hbefore⟩ := h
  rw [dataStep_start_of_completed hname hopen hbegin hbefore, runPasses]
  apply Run.start_bind_of_error
  change (passRow passes libref name body row >>= fun _ =>
    after.forM (passRow passes libref name body)).start t = _
  exact Run.start_bind_of_error (passRow_start_of_error hbody)

/-! ## The pass over a row -/

/-- **What END comes to in the pass of a step over a row.** -/
structure RowPass (passes : Nat) (header : StepHeader) (body : List Statement)
    (s : Session) (row : Row) (t : Session) : Prop where
  /-- No loop is running when the pass begins. -/
  loops_eq : (t.context.beginPass row).loops = []
  /-- A pass that is completed has executed the statements of the body one after another,
  each of them to its end. -/
  runs_through : ∀ ⦃libref name u⦄,
    (passRow passes libref name body row).start t = .ok (.ok (), u) →
    ∃ e, Statement.RunsThrough passes s.config.maxPasses body (t.context.beginPass row) e ∧
      u.context = e.finishPass
  /-- The step fails in an END outside of all conditional loops. -/
  unmatched : ∀ ⦃v⦄,
    v ∈ Statement.passEndsAll passes s.config.maxPasses body (t.context.beginPass row) →
      (dataStep passes header body).start s = .ok (.error .unmatchedEnd, { t with context := v })

theorem rowPass_of_comesTo (h : ComesTo passes header body s row t) :
    RowPass passes header body s row t where
  loops_eq := h.loops_eq
  runs_through libref name u hpass := by
    obtain ⟨flow, e, hbody, hcontext, -⟩ := exists_body_of_passRow hpass
    rw [h.config_eq] at hbody
    cases flow with
    | next => exact ⟨e, Statement.performAll_start_eq_next_iff.1 hbody, hcontext⟩
    | endOfPass =>
      -- the driver does not look at the end of a pass, but it cannot come here without a loop
      obtain ⟨hrunning, -⟩ :=
        (Statement.perform_endsPass passes s.config.maxPasses (.block body)).endOfPass_iff.1 hbody
      exact absurd h.loops_eq hrunning
  unmatched v hv := h.dataStep_start_of_error
    ((Statement.perform_endsPass passes s.config.maxPasses (.block body)).unmatched h.loops_eq hv)

/-- **END ends the pass of the innermost conditional loop around it and nothing else.** Every
statement leaves the counters of the loops around it, and ends a pass only for a loop that is
running; a conditional loop goes on after an END in its body; and no pass of a DATA step over a row
leaves out a statement. -/
theorem endPass_ends_innermost_pass (passes : Nat) :
    (∀ limit stmt, Statement.EndsPass passes limit stmt) ∧
    (∀ limit kind condition body, Statement.GoesOn passes limit kind condition body) ∧
    ∀ header body s row t, ComesTo passes header body s row t →
      RowPass passes header body s row t :=
  ⟨Statement.perform_endsPass passes, Statement.conditionalDo_goesOn passes,
    fun _ _ _ _ _ h => rowPass_of_comesTo h⟩

/-- A counted loop that assigns its counter to `x` until an END in its second pass. -/
def leftEarly : Statement :=
  .countedDo "i" (.number (.ofNat 1)) (.number (.ofNat 3)) none
    [.ifThen (.binary "==" (.variable "i") (.number (.ofNat 2))) [.endPass],
      .assign (.variable "x") (.variable "i")]

/-- Control: an END in a condition in a counted loop leaves the conditional loop around
them, which is over, and the statement after it is executed. Without the conditional loop
the END fails a DATA step. -/
theorem endPass_ends_innermost_pass_leftEarly :
    (∃ t : Context, (Statement.performAll 3 3 [.conditionalDo .whileTrue none leftEarly,
        .assign (.variable "y") (.variable "i")]).start (.initial 0) = .ok (.ok .next, t) ∧
      t.row = .ofList [("i", .number (.ofNat 2)), ("x", .number (.ofNat 1)),
        ("y", .number (.ofNat 2))]) ∧
    ∃ t, (dataStep 3 ⟨"b", none, [], []⟩ [leftEarly]).start (.new .standard .empty 0) =
      .ok (.error .unmatchedEnd, t) := by
  obtain ⟨-, hloops, hsteps⟩ := endPass_ends_innermost_pass 3
  constructor
  · let start : Context := .initial 0
    have hgoes := hloops 3 .whileTrue none leftEarly
    have hends : (leftEarly.passEnds 3 3 start.enterLoop).map (fun v => v.row) =
        [.ofList [("i", .number (.ofNat 2)), ("x", .number (.ofNat 1))]] := by
      decide +kernel
    obtain ⟨⟨row, saved, step, loops, arrays, log, currentDay⟩, hv, hrow⟩ :=
      List.mem_map.1 (hends ▸ List.mem_singleton_self _)
    subst hrow
    have hbegins : (Statement.bodyLoop 3 3 .whileTrue none leftEarly).Begins start.enterLoop 0
        start.enterLoop := ⟨start.enterLoop, rfl, rfl⟩
    have hloop := hgoes.of_no_condition rfl (by decide) hbegins hv
    exact ⟨_, (hgoes.rest _ hloop).trans rfl, rfl⟩
  · let s : Session := .new .standard .empty 0
    let first : Session := { s with
      catalog := (opening ⟨"b", none, [], []⟩ false s).2
      context := resetContext s.context }
    have hpass := hsteps ⟨"b", none, [], []⟩ [leftEarly] s .empty first
      ⟨"", "b", first.catalog, first, [], [], rfl, rfl, rfl, rfl⟩
    have hends : (Statement.passEndsAll 3 s.config.maxPasses [leftEarly]
        (first.context.beginPass .empty)).length = 1 := by
      decide +kernel
    obtain ⟨v, hv⟩ := List.length_eq_one_iff.1 hends
    exact ⟨_, hpass.unmatched (hv ▸ List.mem_singleton_self v)⟩

end DataStep.Session
