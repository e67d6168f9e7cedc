import DataStep.Proofs.Execution
import DataStep.Proofs.Frame
import DataStep.Proofs.Pass

/-!
# The limit on the passes of a conditional loop

The counter of a conditional loop stands on top of the counters of the running loops. Statements of
a body leave these counters as they are, so in a body every loop keeps to the limit. At the top
level a DATA step that starts forgets all running loops, and with them the counters of the loops
around it: from then on such a loop finds no counter, and the limit means nothing to it.

Main statement: in a body a loop always keeps to its limit, and at the top level exactly if no pass
starts a DATA step before the limit is needed (`conditionalDo_capped_iff`). It need not keep to it
there (`not_capped_twoStage`).
-/

set_option autoImplicit false

namespace DataStep

open Run (Keeps Law Obeys)

/-! ## The counters of the running loops -/

/-- Whether a statement is a DATA step that is opened in its session. -/
def startsStep : Statement × Session → Bool
  | (.dataStep header body, s) => (Session.opening header (body.any Session.isMerge) s).1.isOk
  | _ => false

/-- The counters of the running loops are those before, or none once a DATA step was started. -/
def LoopsForgotten (s : Session) (executed : List (Statement × Session)) (t : Session) : Prop :=
  t.context.loops = if executed.any startsStep then [] else s.context.loops

theorem Context.blind_loops : Context.Blind Context.loops := fun _ _ _ => rfl

theorem Context.keeps_loops_pass (passes limit : Nat) (body : List Statement) (row : Row) :
    Keeps Context.loops (Context.pass passes limit body row) := by
  have hbegin : Keeps Context.loops (modify (Context.beginPass row) : ContextM PUnit) := by
    apply Keeps.modify
    intro ctx
    rfl
  have hbody : Keeps Context.loops (Statement.performAll passes limit body) := by
    intro s r t h
    exact (Statement.performAll_effect passes limit body h).loops_eq
  have hfinish : Keeps Context.loops (modify Context.finishPass : ContextM PUnit) := by
    apply Keeps.modify
    intro ctx
    obtain ⟨row, saved, h⟩ := Context.exists_finishPass_eq ctx
    rw [h]
  apply Keeps.bind hbegin
  intro _
  apply Keeps.bind hbody
  intro flow
  apply Keeps.bind hfinish
  intro _
  apply Keeps.bind Keeps.get
  intro ctx
  exact Keeps.pure _

namespace Session

theorem keepsLoops_passRow (passes : Nat) (libref name : String)
    (body : List Statement) (row : Row) :
    KeepsContext Context.loops (passRow passes libref name body row) :=
  keeps_passRow (fun _ _ => rfl)
    (fun limit => keepsContext_onContext
      (Context.keeps_loops_pass passes limit body row)) libref name

/-- A DATA step that is opened leaves no running loop. -/
theorem runOpened_loops {passes : Nat} {header : StepHeader} {body : List Statement}
    {rows : List Row} {s t : Session} {r : Except RunError Unit}
    (h : (runOpened passes header body rows).start s = .ok (r, t)) : t.context.loops = [] := by
  unfold runOpened at h
  rw [Run.start_bind_of_ok (splitName_start _ _)] at h
  dsimp only at h
  rw [Run.start_bind_of_ok (Run.start_modify _ s)] at h
  have hpasses : KeepsContext Context.loops (do
      rows.forM (passRow passes (s.config.splitName header.output).1
        (s.config.splitName header.output).2 body)
      reportOutput (s.config.splitName header.output).1 (s.config.splitName header.output).2) := by
    apply Keeps.bind
    · apply Keeps.forM
      intro row
      exact keepsLoops_passRow passes _ _ body row
    · intro _
      exact keepsContext_reportOutput Context.blind_loops _ _
  refine Keeps.ite (f := fun s : Session => s.context.loops) (body.any isMerge) ?_ hpasses h
  refine Keeps.bind (keeps_mergeIntoOutput (blind_context Context.blind_loops) _ _ _) ?_
  intro _
  exact hpasses

/-- A DATA step forgets the running loops exactly if it is opened. -/
theorem dataStep_loops {passes : Nat} {header : StepHeader} {body : List Statement} {s t : Session}
    {r : Except RunError Unit} (h : (dataStep passes header body).start s = .ok (r, t)) :
    t.context.loops =
      if (opening header (body.any isMerge) s).1.isOk then [] else s.context.loops := by
  rw [dataStep_start] at h
  generalize opening header (body.any isMerge) s = opened at h
  obtain ⟨e | rows, cat⟩ := opened
  · have hrefuse : KeepsContext Context.loops (refuse header e) :=
      keepsContext_writeLog Context.blind_loops _
    have hloops : t.context.loops = ({ s with catalog := cat } : Session).context.loops := hrefuse h
    exact hloops
  · exact runOpened_loops h

end Session

namespace Statement

open Session (KeepsContext keepsContext_onContext)

variable {passes : Nat}

theorem keepsLoops_endPass : Keeps Context.loops Context.endPass := by
  intro s r t h
  exact (Context.endPass_effect h).loops_eq

theorem keepsLoops_declareArray (name : String) (size : Nat) (vars : List String) :
    Keeps Context.loops (Context.declareArray name size vars) := by
  intro s r t h
  exact (Context.declareArray_effect name size vars h).loops_eq

/-- A statement without parts that is no DATA step leaves the running loops. -/
theorem keepsLoops_execute {stmt : Statement} (hplain : stmt.isPlain = true)
    (hstep : ∀ header body, stmt ≠ .dataStep header body) :
    KeepsContext Context.loops (stmt.execute passes) := by
  have hthen : ∀ act : SessionM Unit, KeepsContext Context.loops act →
      KeepsContext Context.loops (act >>= fun _ => pure Flow.next) := by
    intro act h
    apply Keeps.bind h
    intro _
    exact Keeps.pure _
  cases stmt with
  | dataStep header body => exact absurd rfl (hstep header body)
  | ifChain condition body elseIfs otherwise => cases hplain
  | conditionalDo kind condition body => cases hplain
  | proc p => exact hthen _ (Session.keepsContext_procedure Context.blind_loops p)
  | options settings => exact hthen _ (Session.keepsContext_setOptions Context.blind_loops settings)
  | libname libref path =>
    exact hthen _ (Session.keepsContext_assignLibrary Context.blind_loops libref path)
  | title text => exact hthen _ (Session.keepsContext_setTitle Context.blind_loops text)
  | array name size vars =>
    exact hthen _ (keepsContext_onContext (keepsLoops_declareArray name size vars))
  | endPass => exact keepsContext_onContext keepsLoops_endPass
  | merge datasets =>
    exact hthen _ (Session.keeps_mergeCurrent (Session.blind_context Context.blind_loops) datasets)
  | byVariables vars => exact hthen _ (Keeps.modify fun _ => rfl)
  | _ => exact Keeps.throw _

end Statement

/-- **The running loops are forgotten exactly if a DATA step is started.** -/
theorem loopsForgotten_law (passes : Nat) : ExecutionLaw passes LoopsForgotten where
  refl s := rfl
  trans := by
    intro s t u l m hst htu
    unfold LoopsForgotten at *
    rw [htu, hst, List.any_append]
    cases l.any startsStep <;> cases m.any startsStep <;> rfl
  plain := by
    intro stmt hplain s r t h
    unfold LoopsForgotten
    rw [List.any_cons, List.any_nil, Bool.or_false]
    by_cases hstep : ∃ header body, stmt = .dataStep header body
    · obtain ⟨header, body, rfl⟩ := hstep
      rw [Statement.execute] at h
      rcases Run.start_bind_eq_ok.1 h with ⟨e, he, -⟩ | ⟨a, u, hu, hr⟩
      · exact Session.dataStep_loops he
      · cases hr
        exact Session.dataStep_loops hu
    · have hstarts : startsStep (stmt, s) = false := by
        cases stmt <;> first | rfl | exact absurd ⟨_, _, rfl⟩ hstep
      rw [hstarts]
      exact Statement.keepsLoops_execute hplain (fun header body he => hstep ⟨header, body, he⟩) h
  log := fun _ _ _ => rfl
  leave := by
    intro s l t h
    unfold LoopsForgotten at *
    change t.context.loops.tail = if l.any startsStep then [] else s.context.loops.tail
    rw [h]
    cases l.any startsStep <;> rfl

/-! ## The counter of a loop -/

namespace Statement

variable {passes limit : Nat} {kind : LoopKind} {condition : Option Expr} {body : Statement}

theorem countPass_loops {ctx : Context} {k : Nat} {outer : List Nat} (h : ctx.loops = k :: outer) :
    ctx.countPass.loops = (k + 1) :: outer := by
  rw [Context.countPass, h]

theorem countPass_loops_nil {ctx : Context} (h : ctx.loops = []) : ctx.countPass.loops = [] := by
  rw [Context.countPass, h]
  exact h

/-- In a body the counter of a loop counts its completed passes. -/
theorem bodyLoop_counter {ctx t : Context} {k : Nat}
    (h : (bodyLoop passes limit kind condition body).after ctx.enterLoop k = some t) :
    t.loops = k :: ctx.loops := by
  induction k generalizing t with
  | zero =>
    cases h
    rfl
  | succ k ih =>
    obtain ⟨u, v, hu, hv, hpass, -⟩ := Loop.after_succ_eq_some_iff.1 h
    obtain ⟨flow, w, hw, rfl⟩ := Loop.pass_start_of_ok hpass
    have hlook : v.loops = k :: ctx.loops := (Loop.hasPass_loops hv).trans (ih hu)
    have hbody : w.loops = v.loops := (perform_effect passes limit body hw).loops_eq
    exact countPass_loops (hbody.trans hlook)

/-- At the top level the counter counts the passes until one of them starts a DATA step. -/
theorem topLoop_counter {s t : Session} {k : Nat}
    (h : (topLoop passes limit kind condition body).after
      (s.mapContext Context.enterLoop) k = some t) :
    (t.context.loops = k :: s.context.loops ∧
      ∀ j < k, ∀ u, (topLoop passes limit kind condition body).Begins
        (s.mapContext Context.enterLoop) j u → (body.executed passes u).any startsStep = false) ∨
    (t.context.loops = [] ∧
      ∃ j < k, ∃ u, (topLoop passes limit kind condition body).Begins
        (s.mapContext Context.enterLoop) j u ∧ (body.executed passes u).any startsStep = true) := by
  induction k generalizing t with
  | zero =>
    cases h
    exact .inl ⟨rfl, fun j hj => absurd hj (Nat.not_lt_zero j)⟩
  | succ k ih =>
    obtain ⟨u, v, hu, hv, hpass, -⟩ := Loop.after_succ_eq_some_iff.1 h
    have hbegins : (topLoop passes limit kind condition body).Begins
        (s.mapContext Context.enterLoop) k v := ⟨u, hu, hv⟩
    obtain ⟨flow, w, hw, rfl⟩ := Loop.pass_start_of_ok hpass
    have hlook : v.context.loops = u.context.loops := Loop.hasPass_loops hv
    have hbody : LoopsForgotten v (body.executed passes v) w :=
      execute_obeys (loopsForgotten_law passes) body hw
    unfold LoopsForgotten at hbody
    rw [hlook] at hbody
    cases hstarts : (body.executed passes v).any startsStep with
    | true =>
      rw [hstarts, if_pos rfl] at hbody
      exact .inr ⟨countPass_loops_nil hbody, k, Nat.lt_succ_self k, v, hbegins, hstarts⟩
    | false =>
      rw [hstarts, if_neg Bool.false_ne_true] at hbody
      rcases ih hu with ⟨hcounter, hbefore⟩ | ⟨hnone, j, hj, x, hx, hxstarts⟩
      · refine .inl ⟨countPass_loops (hbody.trans hcounter), fun j hj x hx => ?_⟩
        rcases Nat.lt_succ_iff_lt_or_eq.1 hj with hlt | rfl
        · exact hbefore j hlt x hx
        · cases Loop.Begins.unique hx hbegins
          exact hstarts
      · have hbefore : j < k + 1 := Nat.lt_succ_of_lt hj
        exact .inr ⟨countPass_loops_nil (hbody.trans hnone), j, hbefore, x, hx, hxstarts⟩

/-! ## The limit -/

theorem perform_conditionalDo_of_ok {ctx t : Context}
    (h : (Run.iterate (bodyLoop passes limit kind condition body).round passes).start
      ctx.enterLoop = .ok (.ok (), t)) :
    ((conditionalDo kind condition body).perform passes limit).start ctx =
      .ok (.ok .next, t.leaveLoop) := by
  have hbracket : (Run.bracket Context.enterLoop Context.leaveLoop
      (Run.iterate (bodyLoop passes limit kind condition body).round passes)).start ctx =
        .ok (.ok (), t.leaveLoop) := by
    rw [Run.start_bracket, h]
    rfl
  rw [perform_conditionalDo, Run.start_bind_of_ok hbracket]
  rfl

theorem execute_conditionalDo_of_ok {s t : Session}
    (h : (Run.iterate (topLoop passes s.config.maxPasses kind condition body).round passes).start
      (s.mapContext Context.enterLoop) = .ok (.ok (), t)) :
    ((conditionalDo kind condition body).execute passes).start s =
      .ok (.ok .next, t.mapContext Context.leaveLoop) := by
  have hbracket : (Run.bracket (Session.mapContext Context.enterLoop)
      (Session.mapContext Context.leaveLoop)
      (Run.iterate (topLoop passes s.config.maxPasses kind condition body).round passes)).start s =
        .ok (.ok (), t.mapContext Context.leaveLoop) := by
    rw [Run.start_bracket, h]
    rfl
  rw [execute_conditionalDo, Run.start_bind_of_ok (Run.start_get s)]
  exact Run.start_bind_of_ok hbracket

/-- A loop at the top level asks for a pass beyond its limit, and a pass up to there
has started a DATA step. -/
def ForgetsLimit (passes : Nat) (kind : LoopKind) (condition : Option Expr) (body : Statement)
    (s : Session) : Prop :=
  let loop := topLoop passes s.config.maxPasses kind condition body
  ∃ t u, loop.after (loop.enter s) loop.limit = some t ∧ loop.wants.start t = .ok (.ok true, u) ∧
    ∃ k < loop.limit, ∃ v, loop.Begins (loop.enter s) k v ∧
      (body.executed passes v).any startsStep = true

/-- **In a body a conditional loop keeps to its limit. At the top level it does so exactly if no
pass starts a DATA step before the limit is needed.** -/
theorem conditionalDo_capped_iff (kind : LoopKind) (condition : Option Expr) (body : Statement) :
    (∀ passes limit ctx, (bodyLoop passes limit kind condition body).Capped
      ((conditionalDo kind condition body).perform passes limit) passes ctx) ∧
    ∀ passes s, (topLoop passes s.config.maxPasses kind condition body).Capped
        ((conditionalDo kind condition body).execute passes) passes s ↔
      ¬ ForgetsLimit passes kind condition body s := by
  constructor
  · intro passes limit ctx
    refine (Loop.capped_iff fun v hv => perform_conditionalDo_of_ok hv).2 fun t u ht _ => ?_
    have hcounter : t.loops = limit :: ctx.loops := bodyLoop_counter ht
    change limit ≤ t.loops.headD 0
    rw [hcounter]
    exact Nat.le_refl limit
  · intro passes s
    refine (Loop.capped_iff fun v hv => execute_conditionalDo_of_ok hv).trans ?_
    constructor
    · rintro h ⟨t, u, ht, hu, k, hk, v, hv, hstarts⟩
      have hlimit : s.config.maxPasses ≤ t.context.loops.headD 0 := h t u ht hu
      rcases topLoop_counter ht with ⟨-, hbefore⟩ | ⟨hnone, -⟩
      · exact Bool.false_ne_true ((hbefore k hk v hv).symm.trans hstarts)
      · rw [hnone] at hlimit
        exact absurd hk (Nat.not_lt_of_le (Nat.le_trans hlimit (Nat.zero_le k)))
    · intro h t u ht hu
      change s.config.maxPasses ≤ t.context.loops.headD 0
      rcases topLoop_counter ht with ⟨hcounter, -⟩ | ⟨-, started⟩
      · rw [hcounter]
        exact Nat.le_refl _
      · exact absurd ⟨t, u, ht, hu, started⟩ h

/-! ## A loop beyond its limit -/

/-- A DATA step that needs two passes to give `q` a value. -/
def twoStage : Statement :=
  .dataStep ⟨"a", some "a", [], []⟩
    [.ifThen (.variable "p") [.assign (.variable "q") (.number (.ofNat 1))],
      .assign (.variable "p") (.number (.ofNat 1)), .output]

/-- A session with a limit of one pass and a data set of one row. -/
def limitOne : Session :=
  .holding { Config.standard with maxPasses := 1 } "a" [.ofList [("x", .number (.ofNat 1))]]

/-- Control: a loop around a DATA step makes a second pass under a limit of one. -/
theorem not_capped_twoStage : ¬ (topLoop 2 limitOne.config.maxPasses .untilTrue
    (some (.variable "q")) twoStage).Capped
      ((conditionalDo .untilTrue (some (.variable "q")) twoStage).execute 2) 2 limitOne := by
  intro h
  exact Nat.lt_irrefl 1 (h.begins_lt 1 _ ⟨_, rfl, rfl⟩)

end Statement

end DataStep
