import DataStep.Pass
import DataStep.Proofs.Body

/-!
# Passes over input rows

`Context.passAll` goes over input rows one after another, from context to context, and records each
completed pass with the context at the end of its body, the statements that it executed and its
final row, until the rows are used up or a pass fails. A pass puts out a row exactly if it executed
OUTPUT, and the row is the final one (`pass_start_of_ok`).
-/

set_option autoImplicit false

namespace DataStep

/-! ## Passes -/

/-- A pass over a body that was completed. -/
structure CompletedPass where
  /-- The context at the end of the body. -/
  ended : Context
  /-- The statements without parts that were executed. -/
  executed : List Statement
  /-- The row at the end of the pass. -/
  row : Row

/-- Whether a statement is an OUTPUT. -/
def Statement.isOutput : Statement → Bool
  | .output => true
  | _ => false

/-- Whether OUTPUT was executed. -/
def CompletedPass.putsOut (pass : CompletedPass) : Bool := pass.executed.any Statement.isOutput

/-- The passes over a list of rows. -/
structure Passes where
  /-- The completed passes in order. -/
  completed : List CompletedPass
  /-- The error of the pass that failed, if one did. -/
  result : Except RunError Unit
  /-- The context in which the passes end. -/
  context : Context

/-- The final rows of the passes that executed OUTPUT. -/
def Passes.emitted (p : Passes) : List Row :=
  (p.completed.filter CompletedPass.putsOut).map CompletedPass.row

theorem Passes.emitted_cons (pass : CompletedPass) (p : Passes) :
    { p with completed := pass :: p.completed : Passes }.emitted =
      if pass.putsOut then pass.row :: p.emitted else p.emitted := by
  rw [emitted, List.filter_cons]
  cases pass.putsOut <;> rfl

/-- Goes over rows one after another until a pass fails. -/
def Context.passAll (passes limit : Nat) (body : List Statement) :
    List Row → Context → Except Halt Passes
  | [], ctx => .ok ⟨[], .ok (), ctx⟩
  | row :: rows, ctx =>
    match (Statement.performAll passes limit body).start (ctx.beginPass row) with
    | .error h => .error h
    | .ok (.error e, t) => .ok ⟨[], .error e, t⟩
    | .ok (.ok _, t) =>
      let executed := Statement.performedAll passes limit body (ctx.beginPass row)
      (passAll passes limit body rows t.finishPass).map fun p =>
        { p with completed := ⟨t, executed, t.finishPass.row⟩ :: p.completed }

namespace StepState

/-- The flag of a pass is set exactly if OUTPUT was executed. -/
theorem output_foldl_after (step : StepState) (stmts : List Statement) :
    (stmts.foldl after step).output = (step.output || stmts.any Statement.isOutput) := by
  induction stmts generalizing step with
  | nil => simp
  | cons stmt stmts ih =>
    have hstep : (step.after stmt).output = (step.output || stmt.isOutput) := by
      cases stmt <;> simp [after, Statement.isOutput]
    rw [List.foldl_cons, ih, hstep, List.any_cons, Bool.or_assoc]

end StepState

namespace Context

variable {passes limit : Nat} {body : List Statement}

theorem exists_saveOrRestore_eq (ctx : Context) (name : String) :
    ∃ row saved, ctx.saveOrRestore name = { ctx with row, saved } := by
  unfold saveOrRestore
  cases ctx.row.get? name with
  | some v => exact ⟨ctx.row, ctx.saved.insert name v, rfl⟩
  | none =>
    dsimp only
    split
    · exact ⟨ctx.row, ctx.saved, rfl⟩
    · exact ⟨restore ctx.saved ctx.row [name], ctx.saved, rfl⟩

/-- The end of a pass changes the row and the saved values and nothing else. -/
theorem exists_finishPass_eq (ctx : Context) :
    ∃ row saved, ctx.finishPass = { ctx with row, saved } := by
  have hfold : ∀ (names : List String) (c : Context),
      ∃ row saved, names.foldl saveOrRestore c = { c with row, saved } := by
    intro names
    induction names with
    | nil => exact fun c => ⟨c.row, c.saved, rfl⟩
    | cons name names ih =>
      intro c
      obtain ⟨row, saved, hname⟩ := exists_saveOrRestore_eq c name
      obtain ⟨row', saved', hnames⟩ := ih (c.saveOrRestore name)
      exact ⟨row', saved', by rw [List.foldl_cons, hnames, hname]⟩
  obtain ⟨row, saved, h⟩ := hfold ctx.step.retain
    { ctx with row := ctx.row.filterKeys fun name => !ctx.step.excludes name }
  exact ⟨row, saved, h⟩

/-- **A pass puts out its final row exactly if it executed OUTPUT.** -/
theorem pass_start_of_ok {row : Row} {ctx t : Context} {flow : Flow}
    (h : (Statement.performAll passes limit body).start (ctx.beginPass row) = .ok (.ok flow, t)) :
    (pass passes limit body row).start ctx = .ok (.ok
      (if (Statement.performedAll passes limit body (ctx.beginPass row)).any Statement.isOutput
        then some t.finishPass.row else none), t.finishPass) := by
  have heffect := Statement.performAll_effect passes limit body h
  have houtput : t.finishPass.step.output =
      (Statement.performedAll passes limit body (ctx.beginPass row)).any Statement.isOutput := by
    obtain ⟨row', saved, hfinish⟩ := exists_finishPass_eq t
    rw [hfinish]
    exact (congrArg StepState.output heffect.step_eq).trans (StepState.output_foldl_after _ _)
  rw [pass, Run.start_bind_of_ok (Run.start_modify (beginPass row) ctx), Run.start_bind_of_ok h,
    Run.start_bind_of_ok (Run.start_modify finishPass t),
    Run.start_bind_of_ok (Run.start_get t.finishPass), Run.start_pure, houtput]

theorem pass_start_of_error {row : Row} {ctx t : Context} {e : RunError}
    (h : (Statement.performAll passes limit body).start (ctx.beginPass row) = .ok (.error e, t)) :
    (pass passes limit body row).start ctx = .ok (.error e, t) := by
  rw [pass, Run.start_bind_of_ok (Run.start_modify (beginPass row) ctx), Run.start_bind_of_error h]

/-- A pass that is completed has completed its body. -/
theorem exists_body_of_pass {row : Row} {ctx t : Context} {out : Option Row}
    (h : (pass passes limit body row).start ctx = .ok (.ok out, t)) :
    ∃ flow e, (Statement.performAll passes limit body).start (ctx.beginPass row) =
      .ok (.ok flow, e) ∧ t = e.finishPass := by
  cases hbody : (Statement.performAll passes limit body).start (ctx.beginPass row) with
  | error halt =>
    rw [pass, Run.start_bind_of_ok (Run.start_modify _ _), Run.start_bind, hbody] at h
    cases h
  | ok result =>
    obtain ⟨e | flow, u⟩ := result
    · rw [pass_start_of_error hbody] at h
      cases h
    · rw [pass_start_of_ok hbody] at h
      cases h
      exact ⟨flow, u, rfl, rfl⟩

/-- The passes fail exactly if they end before the rows do. -/
theorem length_completed {rows : List Row} {ctx : Context} {p : Passes}
    (h : passAll passes limit body rows ctx = .ok p) :
    match p.result with
    | .ok () => p.completed.length = rows.length
    | .error _ => p.completed.length < rows.length := by
  induction rows generalizing ctx p with
  | nil =>
    cases h
    rfl
  | cons row rows ih =>
    rw [passAll] at h
    split at h
    · cases h
    · cases h
      exact Nat.succ_pos _
    · rename_i t hbody
      cases hrest : passAll passes limit body rows t.finishPass with
      | error halt => rw [hrest] at h; cases h
      | ok rest =>
        rw [hrest] at h
        cases h
        have hlength := ih hrest
        cases hresult : rest.result with
        | ok u =>
          rw [hresult] at hlength
          simpa [hresult] using hlength
        | error e =>
          rw [hresult] at hlength
          simpa [hresult] using hlength

/-- Passes add no note to the log. -/
theorem log_passAll {rows : List Row} {ctx : Context} {p : Passes}
    (h : passAll passes limit body rows ctx = .ok p) : Log.Unnoted ctx.log p.context.log := by
  induction rows generalizing ctx p with
  | nil =>
    cases h
    exact Log.Extends.refl _
  | cons row rows ih =>
    rw [passAll] at h
    split at h
    · cases h
    · rename_i e t hbody
      cases h
      exact (Statement.performAll_effect passes limit body hbody).log_unnoted
    · rename_i flow t hbody
      cases hrest : passAll passes limit body rows t.finishPass with
      | error halt => rw [hrest] at h; cases h
      | ok rest =>
        rw [hrest] at h
        cases h
        have hlog := (Statement.performAll_effect passes limit body hbody).log_unnoted
        obtain ⟨row', saved, hfinish⟩ := exists_finishPass_eq t
        have hrestlog := ih hrest
        rw [hfinish] at hrestlog
        exact hlog.trans hrestlog

end Context

end DataStep

