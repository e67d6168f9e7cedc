import DataStep.Proofs.Body.Failure

/-!
# What a body leaves alone

The effect of a body is that of the statements without parts that it executes, so what one of them
leaves alone the body does (`StepState.Grows.foldl_after`). Statements of the top level fail in a
body, wherever they stand, and MERGE and BY statements do nothing there. Main statement: whatever a
body comes to, the session is as before it but for the row in the making, the arrays, the entries at
the end of the log and the flag and lists of the pass, which only grow (`performAll_frame`).
-/

set_option autoImplicit false

namespace DataStep

/-! ## The flag and lists of a pass -/

namespace StepState

/-- A list of retained variables with others behind it that it does not have, none of them twice. -/
def Adds (names more : List String) : Prop :=
  ∃ added, more = names ++ added ∧ added.Nodup ∧ ∀ name ∈ added, name ∉ names

namespace Adds

variable {a b c : List String}

theorem refl (names : List String) : Adds names names :=
  ⟨[], (List.append_nil names).symm, List.nodup_nil, fun _ h => nomatch h⟩

theorem trans (hab : Adds a b) (hbc : Adds b c) : Adds a c := by
  obtain ⟨first, rfl, hfirst, hnew⟩ := hab
  obtain ⟨second, rfl, hsecond, hnewer⟩ := hbc
  refine ⟨first ++ second, List.append_assoc .., ?_, ?_⟩
  · refine List.nodup_append.2 ⟨hfirst, hsecond, ?_⟩
    rintro x hx y hy rfl
    exact hnewer x hy (List.mem_append_right a hx)
  · intro name hname
    rcases List.mem_append.1 hname with h | h
    · exact hnew name h
    · exact fun ha => hnewer name h (List.mem_append_left first ha)

theorem addRetained (names : List String) (item : RetainItem) :
    Adds names (addRetained names item) := by
  rw [StepState.addRetained]
  split
  · exact refl names
  · rename_i hnew
    refine ⟨[item.name], rfl, by simp, fun name hname => ?_⟩
    rw [List.mem_singleton.1 hname]
    simpa using hnew

theorem foldl_addRetained (items : List RetainItem) (names : List String) :
    Adds names (items.foldl StepState.addRetained names) := by
  induction items generalizing names with
  | nil => exact refl names
  | cons item items ih => exact (addRetained names item).trans (ih _)

end Adds

/-- A DROP or KEEP list as it was, or with variables of further statements behind it. -/
def Extended (list more : Option (List String)) : Prop :=
  more = list ∨ ∃ vars, more = extend list vars

theorem Extended.trans {a b c : Option (List String)} (hab : Extended a b) (hbc : Extended b c) :
    Extended a c := by
  rcases hab with rfl | ⟨vars, rfl⟩
  · exact hbc
  · rcases hbc with rfl | ⟨others, rfl⟩
    · exact .inr ⟨vars, rfl⟩
    · refine .inr ⟨vars ++ others, ?_⟩
      simp [extend]

/-- **How the bookkeeping of a pass grows.** -/
structure Grows (a b : StepState) : Prop where
  output : a.output = true → b.output = true
  drop : Extended a.drop b.drop
  keep : Extended a.keep b.keep
  retain : Adds a.retain b.retain
  previousRetain_eq : b.previousRetain = a.previousRetain

namespace Grows

variable {a b c : StepState}

theorem refl (step : StepState) : Grows step step := ⟨id, .inl rfl, .inl rfl, .refl _, rfl⟩

theorem trans (hab : Grows a b) (hbc : Grows b c) : Grows a c where
  output h := hbc.output (hab.output h)
  drop := hab.drop.trans hbc.drop
  keep := hab.keep.trans hbc.keep
  retain := hab.retain.trans hbc.retain
  previousRetain_eq := hbc.previousRetain_eq.trans hab.previousRetain_eq

/-- The bookkeeping grows with every statement. -/
theorem after (step : StepState) (stmt : Statement) : Grows step (step.after stmt) := by
  cases stmt with
  | output => exact ⟨fun _ => rfl, .inl rfl, .inl rfl, .refl _, rfl⟩
  | drop vars => exact ⟨id, .inr ⟨vars, rfl⟩, .inl rfl, .refl _, rfl⟩
  | keep vars => exact ⟨id, .inl rfl, .inr ⟨vars, rfl⟩, .refl _, rfl⟩
  | retain items => exact ⟨id, .inl rfl, .inl rfl, Adds.foldl_addRetained items step.retain, rfl⟩
  | _ => exact refl step

theorem foldl_after (stmts : List Statement) (step : StepState) :
    Grows step (stmts.foldl StepState.after step) := by
  induction stmts generalizing step with
  | nil => exact refl step
  | cons stmt stmts ih => exact (after step stmt).trans (ih _)

end Grows

end StepState

/-! ## Statements without effect in a body -/

namespace Statement

variable {passes limit : Nat}

/-- Whether a statement may only stand at the top level. -/
def isTopOnly : Statement → Bool
  | .dataStep .. | .proc .. | .options .. | .libname .. | .title .. => true
  | _ => false

/-- A statement of the top level fails in a body and changes nothing. -/
theorem perform_topOnly {stmt : Statement} (h : stmt.isTopOnly = true) (ctx : Context) :
    (stmt.perform passes limit).start ctx =
      .ok (.error (.unsupportedStatement stmt.keyword "in DATA step"), ctx) := by
  cases stmt with
  | dataStep | proc | options | libname | title =>
    rw [perform]
    rfl
  | _ => cases h

/-- Whether a statement is a MERGE or a BY. -/
def isMerging : Statement → Bool
  | .merge _ | .byVariables _ => true
  | _ => false

theorem perform_merging {stmt : Statement} (h : stmt.isMerging = true) :
    stmt.perform passes limit = pure .next := by
  cases stmt with
  | merge | byVariables => rw [perform]
  | _ => cases h

mutual

/-- A statement without the MERGE and BY statements among its parts. -/
def withoutMerging : Statement → Statement
  | .ifThen condition body => .ifThen condition (withoutMergingAll body)
  | .ifChain condition body elseIfs otherwise =>
    .ifChain condition (withoutMergingAll body) (withoutMergingArms elseIfs)
      (withoutMergingAll otherwise)
  | .conditionalDo kind condition body => .conditionalDo kind condition body.withoutMerging
  | .countedDo counter start stop increment body =>
    .countedDo counter start stop increment (withoutMergingAll body)
  | .block body => .block (withoutMergingAll body)
  -- as the only statement of a loop
  | .merge _ => .block []
  | .byVariables _ => .block []
  | stmt => stmt

/-- Statements without the MERGE and BY statements among them and their parts. -/
def withoutMergingAll : List Statement → List Statement
  | [] => []
  | stmt :: rest =>
    if stmt.isMerging then withoutMergingAll rest else stmt.withoutMerging :: withoutMergingAll rest

/-- Arms of a condition without the MERGE and BY statements in them. -/
def withoutMergingArms : List (Expr × List Statement) → List (Expr × List Statement)
  | [] => []
  | (condition, body) :: arms => (condition, withoutMergingAll body) :: withoutMergingArms arms

end

mutual

theorem perform_withoutMerging (passes limit : Nat) :
    ∀ stmt : Statement, stmt.withoutMerging.perform passes limit = stmt.perform passes limit
  | .ifThen condition body => by
    rw [withoutMerging, perform, perform, performAll_withoutMerging passes limit body]
  | .ifChain condition body elseIfs otherwise => by
    rw [withoutMerging, perform, perform, performAll_withoutMerging passes limit body,
      performAll_withoutMerging passes limit otherwise,
      performArms_withoutMerging passes limit _ elseIfs]
  | .conditionalDo kind condition body => by
    rw [withoutMerging, perform, perform, perform_withoutMerging passes limit body]
  | .countedDo counter start stop increment body => by
    rw [withoutMerging, perform, perform, performAll_withoutMerging passes limit body]
  | .block body => by
    rw [withoutMerging, perform, perform, performAll_withoutMerging passes limit body]
  | .merge _ => by
    rw [withoutMerging, perform, perform, performAll]
  | .byVariables _ => by
    rw [withoutMerging, perform, perform, performAll]
  | .assign .. => rfl
  | .output => rfl
  | .drop .. => rfl
  | .keep .. => rfl
  | .retain .. => rfl
  | .array .. => rfl
  | .endPass => rfl
  | .dataStep .. => rfl
  | .options .. => rfl
  | .libname .. => rfl
  | .title .. => rfl
  | .proc .. => rfl

/-- A body does the same without its MERGE and BY statements. -/
theorem performAll_withoutMerging (passes limit : Nat) :
    ∀ stmts : List Statement,
      performAll passes limit (withoutMergingAll stmts) = performAll passes limit stmts
  | [] => by rw [withoutMergingAll]
  | stmt :: rest => by
    rw [withoutMergingAll]
    split
    · rename_i hmerging
      rw [performAll, perform_merging hmerging, performAll_withoutMerging passes limit rest]
      rfl
    · rw [performAll, performAll, perform_withoutMerging passes limit stmt,
        performAll_withoutMerging passes limit rest]

theorem performArms_withoutMerging (passes limit : Nat) (otherwise : ContextM Flow) :
    ∀ arms : List (Expr × List Statement),
      performArms passes limit otherwise (withoutMergingArms arms) =
        performArms passes limit otherwise arms
  | [] => by rw [withoutMergingArms]
  | (condition, body) :: arms => by
    rw [withoutMergingArms, performArms, performArms, performAll_withoutMerging passes limit body,
      performArms_withoutMerging passes limit otherwise arms]

end

end Statement

/-! ## The session -/

namespace Session

/-- **What a body leaves alone in a session.** -/
structure Frame (s t : Session) : Prop where
  /-- The settings, the catalog, the BY variables, the title, the options and the listing stay. -/
  rest : t = { s with context := t.context }
  saved_eq : t.context.saved = s.context.saved
  /-- Entries come at the end of the log, and none of them is a note. -/
  log : Log.Unnoted s.context.log t.context.log
  step : s.context.step.Grows t.context.step

theorem frame_of_effect {s : Session} {stmts : List Statement} {ctx : Context}
    (h : Effect s.context stmts ctx) : Frame s { s with context := ctx } where
  rest := rfl
  saved_eq := h.saved_eq
  log := h.log_unnoted
  step := h.step_eq ▸ StepState.Grows.foldl_after stmts s.context.step

/-- **Whatever a body comes to, it leaves the session but for the row, the arrays, entries at the
end of the log and bookkeeping that grows.** A statement of the top level ends the body where it
stands, and changes nothing; MERGE and BY statements may as well not be there. -/
theorem performAll_frame (passes limit : Nat) (body : List Statement) :
    (∀ s r t, (onContext (Statement.performAll passes limit body)).start s = .ok (r, t) →
      Frame s t) ∧
    (∀ s stmt moment, (stmt, moment) ∈ Statement.momentsAll passes limit body s.context →
      stmt.isTopOnly = true → (onContext (Statement.performAll passes limit body)).start s =
        .ok (.error (.unsupportedStatement stmt.keyword "in DATA step"),
          { s with context := { moment with loops := s.context.loops } })) ∧
    Statement.performAll passes limit (Statement.withoutMergingAll body) =
      Statement.performAll passes limit body := by
  refine ⟨?_, ?_, Statement.performAll_withoutMerging passes limit body⟩
  · intro s r t h
    obtain ⟨ctx, hctx, rfl⟩ := onContext_start_eq_ok.1 h
    exact frame_of_effect (Statement.performAll_effect passes limit body hctx)
  · intro s stmt moment hmem htop
    -- the loops around the statement are left, so their counters are not those of its moment
    obtain ⟨loops, hstart, hloops⟩ := Statement.performAll_fails passes limit body hmem
      (Statement.perform_topOnly htop moment)
    have hrestored : loops = s.context.loops := hloops
    exact onContext_start_eq_ok.2 ⟨_, hstart, by rw [hrestored]⟩

/-- A body with a TITLE statement in a condition in a loop in a loop. -/
def titling : List Statement :=
  [.retain [⟨"x", none⟩, ⟨"x", none⟩],
    .conditionalDo .whileTrue none (.countedDo "i" (.number (.ofNat 1)) (.number (.ofNat 2)) none
      [.ifThen (.variable "i") [.output, .title "Totals"]])]

/-- Control: the TITLE statement ends the body after the OUTPUT before it and sets no title. -/
theorem performAll_frame_titling : ∃ t,
    (onContext (Statement.performAll 3 3 titling)).start (Session.new .standard .empty 0) =
        .ok (.error (.unsupportedStatement "TITLE" "in DATA step"), t) ∧
      Frame (Session.new .standard .empty 0) t ∧ t.title = none ∧
        t.context.step = ⟨true, none, none, ["x"], []⟩ := by
  let s := Session.new .standard .empty 0
  obtain ⟨hframe, htop, -⟩ := performAll_frame 3 3 titling
  have hlast : (Statement.momentsAll 3 3 titling s.context)[2]?.map
      (fun e => (e.1.keyword, e.1.isTopOnly, e.2.step)) =
        some ("TITLE", true, ⟨true, none, none, ["x"], []⟩) := by
    decide +kernel
  obtain ⟨⟨stmt, moment⟩, hmoment, hvalues⟩ := Option.map_eq_some_iff.1 hlast
  obtain ⟨hkeyword, hstmt, hstep⟩ : stmt.keyword = "TITLE" ∧ stmt.isTopOnly = true ∧
      moment.step = ⟨true, none, none, ["x"], []⟩ := by
    simpa using hvalues
  have hstart := htop s stmt moment (List.mem_of_getElem? hmoment) hstmt
  rw [hkeyword] at hstart
  exact ⟨_, hstart, hframe s _ _ hstart, rfl, hstep⟩

end Session

end DataStep
