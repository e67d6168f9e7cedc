import DataStep.Proofs.Body.Place
import DataStep.Proofs.Step.FinalRow
import DataStep.Proofs.Step.Merging
import Mathlib.Data.List.Basic

/-!
# Joining the lists of consecutive statements

Two DROP statements in a row take out of the row what one with both lists takes out, and two KEEP
statements extend the list of the pass as one with both lists does. But a KEEP takes the columns
that it does not name out of the row at once, so of two in a row the second finds only what the
first has left: they do what one with both lists does exactly in a row without a column that only
one of them names (`Context.keep_keep_eq_iff`).

Main statement: at every place of the body of a DATA step two DROP statements may be joined, and two
KEEP statements may be joined where all rows in which the place is reached are of that kind
(`dataStep_joins`). In other rows the KEEP statements may not be joined
(`not_keep_joined_of_assigned`).
-/

set_option autoImplicit false

namespace DataStep

open Run (Trace AgreesWhile follow silent)

/-! ## Two lists in a row -/

/-- The columns of the row in the making are named by both of two lists or by neither. -/
def Context.NamedAlike (vars others : List String) (ctx : Context) : Prop :=
  ∀ name ∈ ctx.row.keys, name ∈ vars ↔ name ∈ others

instance (vars others : List String) (ctx : Context) : Decidable (ctx.NamedAlike vars others) :=
  inferInstanceAs (Decidable (∀ name ∈ ctx.row.keys, name ∈ vars ↔ name ∈ others))

namespace StepState

theorem extend_extend (list : Option (List String)) (vars others : List String) :
    extend (extend list vars) others = extend list (vars ++ others) := by
  rw [extend, extend, extend, Option.getD_some, List.append_assoc]

end StepState

namespace Context

/-- **Two DROP statements do what one with both lists does.** -/
theorem drop_drop (vars others : List String) (ctx : Context) :
    drop others (drop vars ctx) = drop (vars ++ others) ctx := by
  simp only [drop, List.foldl_append, StepState.extend_extend]

/-- **Two KEEP statements do what one with both lists does exactly where no column is named
by only one of them.** -/
theorem keep_keep_eq_iff (vars others : List String) (ctx : Context) :
    keep others (keep vars ctx) = keep (vars ++ others) ctx ↔ ctx.NamedAlike vars others := by
  have hrows : keep others (keep vars ctx) = keep (vars ++ others) ctx ↔
      (ctx.row.filterKeys vars.contains).filterKeys others.contains =
        ctx.row.filterKeys (vars ++ others).contains := by
    simp [keep, StepState.extend_extend]
  rw [hrows]
  constructor
  · intro h name hname
    have hkeys := congrArg OrderedMap.keys h
    rw [OrderedMap.keys_filterKeys, OrderedMap.keys_filterKeys, OrderedMap.keys_filterKeys] at hkeys
    -- a column that one of the lists names is left by the joined one, so it is left by both
    have hleft : name ∈ others ∧ name ∈ vars ↔ name ∈ vars ∨ name ∈ others := by
      have hmem := congrArg (name ∈ ·) hkeys
      simpa [hname] using hmem
    exact ⟨fun hvars => (hleft.2 (.inl hvars)).1, fun hothers => (hleft.2 (.inr hothers)).2⟩
  · intro h
    apply OrderedMap.ext
    simp only [OrderedMap.filterKeys, List.filter_filter]
    apply List.filter_congr
    intro e he
    have halike := h e.1 (List.mem_map_of_mem he)
    by_cases hvars : e.1 ∈ vars
    · simp [hvars, halike.1 hvars]
    · have hothers : e.1 ∉ others := fun hothers => hvars (halike.2 hothers)
      simp [hvars, hothers]

end Context

namespace Statement

variable {passes limit : Nat}

/-- Two statements that change the context do what one does whose change is theirs in a row. -/
theorem sameIn_of_changes {first second joined : Statement}
    {f g both : Context → Context} {ctx : Context}
    (hfirst : first.perform passes limit = do modify f; pure .next)
    (hsecond : second.perform passes limit = do modify g; pure .next)
    (hjoined : joined.perform passes limit = do modify both; pure .next)
    (h : g (f ctx) = both ctx) :
    SameIn passes limit [first, second] [joined] ctx := by
  simp only [SameIn, performAll, hfirst, hsecond, hjoined, bind_assoc, pure_bind, Run.start_bind,
    Run.start_modify, Run.start_pure, h]

theorem sameIn_drop (vars others : List String) (ctx : Context) :
    SameIn passes limit [.drop vars, .drop others] [.drop (vars ++ others)] ctx :=
  sameIn_of_changes (by rw [perform]) (by rw [perform]) (by rw [perform])
    (Context.drop_drop vars others ctx)

theorem sameIn_keep {vars others : List String} {ctx : Context} (h : ctx.NamedAlike vars others) :
    SameIn passes limit [.keep vars, .keep others] [.keep (vars ++ others)] ctx :=
  sameIn_of_changes (by rw [perform]) (by rw [perform]) (by rw [perform])
    ((Context.keep_keep_eq_iff vars others ctx).2 h)

end Statement

/-! ## The BY and MERGE statements around a place -/

open Statement (SameIn participants? mergesOf byAfter byInForce)

/-- A statement is neither a BY statement nor a MERGE. -/
def Statement.Plain (stmt : Statement) : Prop :=
  stmt.participants? = none ∧ ∀ vars, byAfter vars stmt = vars

theorem InnerPlace.plain_fill (stmts : List Statement) (inner : InnerPlace) :
    (inner.fill stmts).Plain := by
  cases inner <;> exact ⟨rfl, fun _ => rfl⟩

namespace Place

variable {stmts others : List Statement}

/-- The MERGE statements of a body do not depend on plain statements in a place. -/
theorem mergesOf_fill (hstmts : ∀ stmt ∈ stmts, stmt.Plain) (hothers : ∀ stmt ∈ others, stmt.Plain)
    (place : Place) : mergesOf (place.fill stmts) = mergesOf (place.fill others) := by
  have hnone : ∀ {plain : List Statement}, (∀ stmt ∈ plain, stmt.Plain) →
      plain.filterMap participants? = [] := by
    intro plain h
    exact List.filterMap_eq_nil_iff.2 fun stmt hstmt => (h stmt hstmt).1
  cases place with
  | here before after =>
    simp only [fill, mergesOf, List.filterMap_append, hnone hstmts, hnone hothers]
  | inside before inner after =>
    simp only [fill, mergesOf, List.filterMap_append,
      List.filterMap_cons_none (inner.plain_fill _).1]

/-- Nor do the BY variables in force after it. -/
theorem byInForce_fill (hstmts : ∀ stmt ∈ stmts, stmt.Plain) (hothers : ∀ stmt ∈ others, stmt.Plain)
    (vars : List String) (place : Place) :
    byInForce vars (place.fill stmts) = byInForce vars (place.fill others) := by
  have hplain : ∀ {plain : List Statement}, (∀ stmt ∈ plain, stmt.Plain) → ∀ vars : List String,
      plain.foldl byAfter vars = vars := by
    intro plain h vars
    induction plain with
    | nil => rfl
    | cons stmt plain ih =>
      rw [List.foldl_cons, (h stmt List.mem_cons_self).2]
      exact ih fun other hother => h other (List.mem_cons_of_mem _ hother)
  cases place with
  | here before after =>
    simp only [fill, byInForce, List.foldl_append, hplain hstmts, hplain hothers]
  | inside before inner after =>
    simp only [fill, byInForce, List.foldl_append, List.foldl_cons, (inner.plain_fill _).2]

end Place

namespace Session

variable {body other : List Statement}

theorem any_isMerge_eq (body : List Statement) : body.any isMerge = !(mergesOf body).isEmpty := by
  induction body with
  | nil => rfl
  | cons stmt body ih =>
    rw [List.any_cons, isMerge_eq, ih, mergesOf, mergesOf]
    cases hstmt : stmt.participants? with
    | none => rw [List.filterMap_cons_none hstmt]; rfl
    | some datasets => rw [List.filterMap_cons_some hstmt]; rfl

/-- The beginning of a step depends on the body only through its BY and MERGE statements. -/
theorem beginStep_start_congr (libref name : String) (hmerges : mergesOf body = mergesOf other)
    (hby : ∀ vars, byInForce vars body = byInForce vars other) (s : Session) :
    (beginStep libref name body).start s = (beginStep libref name other).start s := by
  have hinto : ∀ t, (mergeIntoOutput libref name body).start t =
      (mergeIntoOutput libref name other).start t := by
    intro t
    rw [mergeIntoOutput_eq, mergeIntoOutput_eq, Run.start_bind_of_ok (forM_applyBy_start body t),
      Run.start_bind_of_ok (forM_applyBy_start other t),
      forM_applyMerge_start, forM_applyMerge_start, hmerges, hby]
  rw [beginStep, beginStep, Run.start_bind_of_ok (Run.start_modify _ s),
    Run.start_bind_of_ok (Run.start_modify _ s), any_isMerge_eq, any_isMerge_eq, hmerges]
  cases (mergesOf other).isEmpty with
  | true => rfl
  | false => exact hinto _

end Session

/-! ## Places in a step -/

namespace Place

/-- The contexts in which statements in a place begin, in the passes over some rows. -/
def visitsOfRows (passes : Nat) (libref name : String) (stmts : List Statement) (place : Place) :
    List Row → Trace Session Context
  | [] => silent
  | row :: rows => fun s =>
    place.visits passes s.config.maxPasses stmts (s.context.beginPass row) ++
      (Session.passRow passes libref name (place.fill stmts) row).follow
        (fun _ => visitsOfRows passes libref name stmts place rows) s

/-- The contexts in which statements in a place begin, in a DATA step. -/
def visitsOfStep (passes : Nat) (header : StepHeader) (stmts : List Statement) (place : Place) :
    Trace Session Context := fun s =>
  match Session.opening header ((place.fill stmts).any Session.isMerge) s with
  | (.error _, _) => []
  | (.ok rows, cat) =>
    let (libref, name) := s.config.splitName header.output
    (Session.beginStep libref name (place.fill stmts)).follow
      (fun _ => place.visitsOfRows passes libref name stmts rows) { s with catalog := cat }

end Place

namespace Session

variable {passes : Nat} {stmts others : List Statement} {place : Place}

/-- Passes over a row agree if the statements do the same in all contexts in which their place is
reached. -/
theorem agreesWhile_passRow (good : Context → Prop)
    (h : ∀ limit ctx, good ctx → SameIn passes limit stmts others ctx)
    (libref name : String) (row : Row) :
    AgreesWhile good
      (fun s => place.visits passes s.config.maxPasses stmts (s.context.beginPass row))
      (passRow passes libref name (place.fill stmts) row)
      (passRow passes libref name (place.fill others) row) := by
  intro s hgood
  rw [passRow, passRow, Run.start_bind_of_ok (Run.start_get s),
    Run.start_bind_of_ok (Run.start_get s)]
  have hbody : (Statement.performAll passes s.config.maxPasses (place.fill stmts)).start
        (s.context.beginPass row) =
      (Statement.performAll passes s.config.maxPasses (place.fill others)).start
        (s.context.beginPass row) :=
    place.agreesWhile_fill passes _ stmts others _ fun ctx hctx => h _ ctx (hgood ctx hctx)
  have hpass : (Context.pass passes s.config.maxPasses (place.fill stmts) row).start s.context =
      (Context.pass passes s.config.maxPasses (place.fill others) row).start s.context := by
    rw [Context.pass, Context.pass, Run.start_bind_of_ok (Run.start_modify _ _),
      Run.start_bind_of_ok (Run.start_modify _ _), Run.start_bind, Run.start_bind, hbody]
  have hon : (onContext (Context.pass passes s.config.maxPasses (place.fill stmts) row)).start s =
      (onContext (Context.pass passes s.config.maxPasses (place.fill others) row)).start s := by
    rw [onContext, onContext, Run.start_within, Run.start_within, hpass]
  rw [Run.start_bind, Run.start_bind, hon]

/-- So do the passes over rows one after another. -/
theorem agreesWhile_forM_passRow (good : Context → Prop)
    (h : ∀ limit ctx, good ctx → SameIn passes limit stmts others ctx) (libref name : String)
    (rows : List Row) :
    AgreesWhile good (place.visitsOfRows passes libref name stmts rows)
      (rows.forM (passRow passes libref name (place.fill stmts)))
      (rows.forM (passRow passes libref name (place.fill others))) := by
  induction rows with
  | nil => exact .refl _ _
  | cons row rows ih => exact .bind (agreesWhile_passRow good h libref name row) fun _ => ih

/-- **Plain statements at a place of a step may be replaced by others that do the same in all
contexts in which the place is reached.** -/
theorem dataStep_replace (header : StepHeader) {s : Session} (good : Context → Prop)
    (hplain : ∀ stmt ∈ stmts ++ others, stmt.Plain)
    (h : ∀ limit ctx, good ctx → SameIn passes limit stmts others ctx)
    (hgood : ∀ ctx ∈ place.visitsOfStep passes header stmts s, good ctx) :
    (dataStep passes header (place.fill stmts)).start s =
      (dataStep passes header (place.fill others)).start s := by
  have hstmts : ∀ stmt ∈ stmts, stmt.Plain :=
    fun stmt hmem => hplain stmt (List.mem_append_left _ hmem)
  have hothers : ∀ stmt ∈ others, stmt.Plain :=
    fun stmt hmem => hplain stmt (List.mem_append_right _ hmem)
  have hmerges := place.mergesOf_fill hstmts hothers
  have hany : (place.fill stmts).any isMerge = (place.fill others).any isMerge := by
    rw [any_isMerge_eq, any_isMerge_eq, hmerges]
  generalize hname : s.config.splitName header.output = qualified
  obtain ⟨libref, name⟩ := qualified
  rw [Place.visitsOfStep, hname] at hgood
  cases hopen : opening header ((place.fill stmts).any isMerge) s with
  | mk found opened =>
    have hopenOther : opening header ((place.fill others).any isMerge) s = (found, opened) :=
      hany ▸ hopen
    rw [hopen] at hgood
    cases found with
    | error e => rw [dataStep_start, dataStep_start, hopen, hopenOther]
    | ok rows =>
      rw [dataStep_start_of_opening_eq_ok hname hopen,
        dataStep_start_of_opening_eq_ok hname hopenOther]
      have hbegin := beginStep_start_congr libref name hmerges
        (fun vars => place.byInForce_fill hstmts hothers vars) { s with catalog := opened }
      rw [Run.start_bind, Run.start_bind, ← hbegin]
      cases hfirst : (beginStep libref name (place.fill stmts)).start { s with
        catalog := opened } with
      | error halt => rfl
      | ok result =>
        obtain ⟨e | u, first⟩ := result
        · rfl
        · dsimp only at hgood ⊢
          rw [Run.follow_of_ok hfirst] at hgood
          rw [runPasses, runPasses]
          exact AgreesWhile.bind_left
            (agreesWhile_forM_passRow good h libref name rows) _ first hgood

/-- **Two DROP statements in a row may be joined at every place of a DATA step, and so may
two KEEP statements where no row in which the place is reached has a column that only one of
them names.** The step comes to the same: to the same session, with the same rows in its
output, or to the same halt. -/
theorem dataStep_joins (passes : Nat) (header : StepHeader) (place : Place)
    (vars more : List String) (s : Session) :
    (dataStep passes header (place.fill [.drop vars, .drop more])).start s =
        (dataStep passes header (place.fill [.drop (vars ++ more)])).start s ∧
      ((∀ ctx ∈ place.visitsOfStep passes header [.keep vars, .keep more] s,
          ctx.NamedAlike vars more) →
        (dataStep passes header (place.fill [.keep vars, .keep more])).start s =
          (dataStep passes header (place.fill [.keep (vars ++ more)])).start s) := by
  constructor
  · refine dataStep_replace header (fun _ => True) ?_
      (fun _ ctx _ => Statement.sameIn_drop vars more ctx) fun _ _ => trivial
    simp [Statement.Plain, participants?, byAfter]
  · intro halike
    refine dataStep_replace header (Context.NamedAlike vars more) ?_
      (fun _ ctx hctx => Statement.sameIn_keep hctx) halike
    simp [Statement.Plain, participants?, byAfter]

/-- The rows of the data set that a step writes, when it has ended. -/
def rowsWritten (passes : Nat) (header : StepHeader) (body : List Statement) (s : Session) :
    Option (List Row) :=
  let (libref, name) := s.config.splitName header.output
  ((dataStep passes header body).start s).toOption.bind fun result =>
    (result.2.catalog.named? libref name).map (·.rows)

/-- A place in an IF-THEN that late rows reach. -/
def ifLate : Place := .inside [] (.ifThen (.variable "late") (.here [] [])) [.output]

/-- Control: the lists differ in `total`, which is a column of the first row only, and the place is
reached with the second. -/
theorem dataStep_joins_named_alike :
    let header : StepHeader := ⟨"b", some "a", [], []⟩
    (ifLate.visitsOfStep 1 header [.keep ["k", "late"], .keep ["late", "total", "k"]] lateRow).map
        (·.row.keys) = [["k", "late"]] ∧
      (dataStep 1 header
          (ifLate.fill [.keep ["k", "late"], .keep ["late", "total", "k"]])).start lateRow =
        (dataStep 1 header
          (ifLate.fill [.keep ["k", "late", "late", "total", "k"]])).start lateRow ∧
      rowsWritten 1 header (ifLate.fill [.keep ["k", "late", "late", "total", "k"]]) lateRow = some
        [.ofList [("k", .number (.ofNat 1)), ("total", .number (.ofNat 9))],
          .ofList [("k", .number (.ofNat 2)), ("late", .number (.ofNat 1))]] := by
  intro header
  have halike : ∀ ctx ∈ ifLate.visitsOfStep 1 header
      [.keep ["k", "late"], .keep ["late", "total", "k"]] lateRow,
      ctx.NamedAlike ["k", "late"] ["late", "total", "k"] := by
    decide +kernel
  exact ⟨by decide +kernel,
    (dataStep_joins 1 header ifLate _ _ lateRow).2 halike, by decide +kernel⟩

/-- A place after two assignments. -/
def afterAssignments : Place :=
  .here [.assign (.variable "a") (.number (.ofNat 1)),
    .assign (.variable "b") (.number (.ofNat 2))] [.output]

/-- Control: of two columns that were assigned the first KEEP leaves only its own, and
the second takes it out. -/
theorem not_keep_joined_of_assigned :
    let header : StepHeader := ⟨"o", none, [], []⟩
    let s : Session := .new .standard .empty 0
    rowsWritten 1 header (afterAssignments.fill [.keep ["a"], .keep ["b"]]) s = some [.empty] ∧
      rowsWritten 1 header (afterAssignments.fill [.keep (["a"] ++ ["b"])]) s = some
        [.ofList [("a", .number (.ofNat 1)), ("b", .number (.ofNat 2))]] := by
  decide +kernel

end Session

end DataStep
