import DataStep.Proofs.Moments
import DataStep.Proofs.Pass
import DataStep.Proofs.Frame
import DataStep.Proofs.Step.Opening
import Mathlib.Data.List.Basic

/-!
# Retained values across passes

A pass saves a value of a variable if the variable is retained at the end of its body and has a
value in the row that DROP and KEEP leave (`Context.saves`). `Context.bodies` goes over rows and
records the contexts in which the bodies end, so the saved values of a step are what these contexts
say: of each variable the latest value (`Context.saved_of_bodies`). Main statement: a pass begins
with the latest saved value of each variable that the pass before retained, and with the value of
the input row for all others; a RETAIN statement gives an initial value only where the variable has
no value in the row and no pass of the step has saved one (`dataStep_retains`).
-/

set_option autoImplicit false

namespace DataStep

open Run (Keeps)

namespace Context

variable {passes limit : Nat} {body : List Statement} {ctx final : Context} {row : Row}
  {rows : List Row} {ends : List Context} {name : String} {x : Value}

/-! ## What a pass saves -/

/-- The row that DROP and KEEP leave at the end of a body. -/
def kept (ctx : Context) : Row := ctx.row.filterKeys fun name => !ctx.step.excludes name

/-- The value of a variable that the pass saves whose body ends in a context. -/
def saves (ctx : Context) (name : String) : Option Value :=
  if name ∈ ctx.step.retain then ctx.kept.get? name else none

theorem get?_restore (saved : OrderedMap Value) (row : Row) (names : List String) (name : String) :
    (restore saved row names).get? name =
      if name ∈ names then (saved.get? name).or (row.get? name) else row.get? name := by
  induction names generalizing row with
  | nil => rfl
  | cons first names ih =>
    have hfirst : restore saved row (first :: names) =
        restore saved (restore saved row [first]) names := rfl
    have hone : (restore saved row [first]).get? name =
        if first = name then (saved.get? name).or (row.get? name) else row.get? name := by
      simp only [restore, List.foldl_cons, List.foldl_nil]
      by_cases h : first = name
      · subst h
        cases saved.get? first with
        | none => simp
        | some v => simp
      · cases saved.get? first with
        | none => simp [h]
        | some v => simp [OrderedMap.get?_insert, h]
    rw [hfirst, ih, hone]
    by_cases h : first = name
    · subst h
      cases saved.get? first <;> simp
    · simp [h, Ne.symm h]

/-- A pass begins with the saved values of the variables that the pass before retained, whatever the
input row says. -/
theorem get?_beginPass (row : Row) (ctx : Context) (name : String) :
    (ctx.beginPass row).row.get? name =
      if name ∈ ctx.step.retain then (ctx.saved.get? name).or (row.get? name)
      else row.get? name := get?_restore ctx.saved row ctx.step.retain name

theorem saveOrRestore_self (ctx : Context) (name : String) :
    (ctx.saveOrRestore name).saved.get? name = (ctx.row.get? name).or (ctx.saved.get? name) ∧
      (ctx.saveOrRestore name).saved.get? name =
        ((ctx.saveOrRestore name).row.get? name).or ((ctx.saveOrRestore name).saved.get? name) := by
  unfold saveOrRestore
  cases hrow : ctx.row.get? name with
  | some v => simp [hrow]
  | none =>
    dsimp only
    split
    · simp [hrow]
    · simp only [get?_restore, hrow]
      cases ctx.saved.get? name <;> simp

theorem saveOrRestore_other (ctx : Context) {other : String} (h : other ≠ name) :
    (ctx.saveOrRestore other).saved.get? name = ctx.saved.get? name ∧
      (ctx.saveOrRestore other).row.get? name = ctx.row.get? name := by
  unfold saveOrRestore
  cases ctx.row.get? other with
  | some v => exact ⟨OrderedMap.get?_insert .. ▸ if_neg h, rfl⟩
  | none =>
    dsimp only
    split
    · exact ⟨rfl, rfl⟩
    · exact ⟨rfl, by simp [get?_restore, h.symm]⟩

/-- Saving or restoring names saves the values that they have in the row. -/
theorem saved_foldl_saveOrRestore (names : List String) (ctx : Context) (name : String) :
    (names.foldl saveOrRestore ctx).saved.get? name =
      if name ∈ names then
        (ctx.row.get? name).or (ctx.saved.get? name) else ctx.saved.get? name := by
  induction names generalizing ctx with
  | nil => rfl
  | cons first names ih =>
    rw [List.foldl_cons, ih]
    by_cases h : first = name
    · subst h
      obtain ⟨hsaved, hagain⟩ := ctx.saveOrRestore_self first
      rw [← hagain, ite_self, hsaved, if_pos List.mem_cons_self]
    · obtain ⟨hsaved, hrow⟩ := ctx.saveOrRestore_other h
      simp only [hsaved, hrow, List.mem_cons, Ne.symm h, false_or]

/-- The end of a pass saves what `saves` says and keeps what was saved before. -/
theorem saved_finishPass (ctx : Context) (name : String) :
    ctx.finishPass.saved.get? name = (ctx.saves name).or (ctx.saved.get? name) := by
  rw [finishPass, saved_foldl_saveOrRestore, saves]
  split <;> rfl

/-! ## The bodies of passes -/

/-- Goes over rows as long as the bodies are completed, and records the
contexts in which they end. -/
def bodies (passes limit : Nat) (body : List Statement) :
    List Row → Context → Option (List Context × Context)
  | [], ctx => some ([], ctx)
  | row :: rows, ctx =>
    match (Statement.performAll passes limit body).start (ctx.beginPass row) with
    | .ok (.ok _, t) =>
      (bodies passes limit body rows t.finishPass).map fun (ends, final) => (t :: ends, final)
    | _ => none

theorem bodies_cons_eq_some_iff :
    bodies passes limit body (row :: rows) ctx = some (ends, final) ↔ ∃ flow t rest,
      (Statement.performAll passes limit body).start (ctx.beginPass row) = .ok (.ok flow, t) ∧
        bodies passes limit body rows t.finishPass = some (rest, final) ∧ ends = t :: rest := by
  rw [bodies]
  constructor
  · intro h
    split at h
    · rename_i flow t hbody
      obtain ⟨⟨rest, final'⟩, hrest, heq⟩ := Option.map_eq_some_iff.1 h
      cases heq
      exact ⟨flow, t, rest, hbody, hrest, rfl⟩
    · cases h
  · rintro ⟨flow, t, rest, hbody, hrest, rfl⟩
    simp [hbody, hrest]

/-- The latest value of a variable that passes saved. -/
def latestSaved (ends : List Context) (name : String) : Option Value :=
  ends.reverse.findSome? fun ctx => ctx.saves name

theorem latestSaved_cons (ctx : Context) (ends : List Context) (name : String) :
    latestSaved (ctx :: ends) name = (latestSaved ends name).or (ctx.saves name) := by
  rw [latestSaved, latestSaved, List.reverse_cons, List.findSome?_append, List.findSome?_cons,
    List.findSome?_nil]
  cases ctx.saves name <;> rfl

/-- **The saved values are the latest ones that the passes saved, or those before the passes.** -/
theorem saved_of_bodies (h : bodies passes limit body rows ctx = some (ends, final))
    (name : String) :
    final.saved.get? name = (latestSaved ends name).or (ctx.saved.get? name) := by
  induction rows generalizing ctx ends with
  | nil =>
    cases h
    rfl
  | cons row rows ih =>
    obtain ⟨flow, t, rest, hbody, hrest, rfl⟩ := bodies_cons_eq_some_iff.1 h
    -- the body itself saves nothing
    have hsaved : t.saved = ctx.saved :=
      (Statement.performAll_effect passes limit body hbody).saved_eq
    rw [ih hrest, saved_finishPass, hsaved, latestSaved_cons, Option.or_assoc]

/-- The retained variables with which the next pass begins. -/
def retained (ends : List Context) : List String := (ends.getLast?.map (·.step.retain)).getD []

/-- The retained variables after passes are those of the last one. -/
theorem retain_of_bodies (h : bodies passes limit body rows ctx = some (ends, final))
    (hfresh : ctx.step.retain = []) : final.step.retain = retained ends := by
  -- the induction needs any start: after no pass, the retained variables are those of the start
  have hgeneral : ∀ {rows : List Row} {ctx : Context} {ends : List Context},
      bodies passes limit body rows ctx = some (ends, final) →
        final.step.retain = (ends.getLast?.map (·.step.retain)).getD ctx.step.retain := by
    intro rows
    induction rows with
    | nil =>
      intro ctx ends h
      cases h
      rfl
    | cons row rows ih =>
      intro ctx ends h
      obtain ⟨flow, t, rest, hbody, hrest, rfl⟩ := bodies_cons_eq_some_iff.1 h
      obtain ⟨row', saved, hfinish⟩ := exists_finishPass_eq t
      rw [ih hrest, List.getLast?_cons, hfinish]
      cases rest.getLast? <;> rfl
  rw [hgeneral h, hfresh, retained]

/-- The latest value that passes saved for a variable is that of the last pass that saved one. -/
def LatestSave (ends : List Context) (name : String) (x : Value) : Prop :=
  ∃ earlier ctx later, ends = earlier ++ ctx :: later ∧ ctx.saves name = some x ∧
    ∀ after ∈ later, after.saves name = none

theorem latestSaved_eq_some_iff : latestSaved ends name = some x ↔ LatestSave ends name x := by
  rw [latestSaved, List.findSome?_eq_some_iff]
  constructor
  · rintro ⟨later, ctx, earlier, hends, hsaves, hlater⟩
    refine ⟨earlier.reverse, ctx, later.reverse, ?_, hsaves, fun after h => ?_⟩
    · rw [← List.reverse_reverse ends, hends]
      simp
    · exact hlater after (List.mem_reverse.1 h)
  · rintro ⟨earlier, ctx, later, rfl, hsaves, hlater⟩
    exact ⟨later.reverse, ctx, earlier.reverse, by simp, hsaves,
      fun after h => hlater after (List.mem_reverse.1 h)⟩

theorem latestSaved_eq_none_iff : latestSaved ends name = none ↔
    ∀ ctx ∈ ends, ctx.saves name = none := by
  simp [latestSaved]

/-! ## The beginning of a pass -/

/-- **What a pass begins with**, after passes whose bodies ended in some contexts. -/
structure BeginsWith (ends : List Context) (row : Row) (start : Context) : Prop where
  /-- A variable that the pass before retained has the latest value that a pass saved for it. -/
  of_saved : ∀ name x, name ∈ retained ends → LatestSave ends name x →
    start.row.get? name = some x
  /-- All others have the value of the input row, or none. -/
  of_input : ∀ name, (name ∉ retained ends ∨ ∀ ctx ∈ ends, ctx.saves name = none) →
    start.row.get? name = row.get? name

/-- **What a RETAIN statement does that begins in a context**, after passes whose bodies ended in
some contexts: an initial value is assigned exactly where at that moment the variable has no value
in the row and none of the passes saved one. -/
def InitializesUnset (ends : List Context) (ctx : Context) (items : List RetainItem) : Prop :=
  ∀ done item rest, items = done ++ item :: rest →
    let now := done.foldl retainItem ctx
    (now.retainItem item).row = match item.initial with
      | none => now.row
      | some v =>
        if now.row.contains item.name ∨ ∃ saver ∈ ends, (saver.saves item.name).isSome then now.row
        else now.row.insert item.name v

theorem saved_foldl_retainItem (items : List RetainItem) (ctx : Context) :
    (items.foldl retainItem ctx).saved = ctx.saved := by
  obtain ⟨row, h⟩ := foldl_retainItem items ctx
  rw [h]

theorem initializesUnset_of_saved {items : List RetainItem}
    (hsaved : ∀ name, ctx.saved.get? name = latestSaved ends name) :
    InitializesUnset ends ctx items := by
  intro done item rest hitems now
  -- a RETAIN statement saves nothing itself, so the saved values are those of the passes before
  have hnow : now.saved.contains item.name = true ↔
      ∃ saver ∈ ends, (saver.saves item.name).isSome := by
    have hcontains : now.saved.contains item.name = (latestSaved ends item.name).isSome := by
      rw [OrderedMap.contains, saved_foldl_retainItem, hsaved]
    rw [hcontains, Option.isSome_iff_ne_none, ne_eq, latestSaved_eq_none_iff]
    simp [Option.isSome_iff_ne_none]
  rw [retainItem]
  cases item.initial with
  | none => rfl
  | some v =>
    dsimp only
    simp only [Bool.or_eq_true, hnow]

section Bodies

variable (hfresh : ctx.step.retain = []) (hnone : ctx.saved = .empty)
  (h : bodies passes limit body rows ctx = some (ends, final))

include hnone h in
theorem saved_eq_latestSaved (name : String) : final.saved.get? name = latestSaved ends name := by
  rw [saved_of_bodies h, hnone, OrderedMap.get?_empty, Option.or_none]

include hfresh hnone h in
/-- A pass begins as the passes before it say. -/
theorem beginsWith_of_bodies (row : Row) : BeginsWith ends row (final.beginPass row) where
  of_saved name x hname hx := by
    rw [get?_beginPass, retain_of_bodies h hfresh, if_pos hname, saved_eq_latestSaved hnone h,
      latestSaved_eq_some_iff.2 hx, Option.some_or]
  of_input name hname := by
    rw [get?_beginPass, retain_of_bodies h hfresh]
    rcases hname with hname | hsaves
    · rw [if_neg hname]
    · rw [saved_eq_latestSaved hnone h, latestSaved_eq_none_iff.2 hsaves, Option.none_or, ite_self]

include hnone h in
/-- At every moment of a body its RETAIN statements initialize what was not set. -/
theorem initializesUnset_of_moment {items : List RetainItem} {moment : Context}
    (hmoment : (.retain items, moment) ∈
      Statement.momentsAll passes limit body (final.beginPass row)) :
    InitializesUnset ends moment items := by
  apply initializesUnset_of_saved
  intro name
  have hsaved : moment.saved = (final.beginPass row).saved :=
    Statement.throughout_momentsAll passes limit body _ _ hmoment
  rw [hsaved]
  exact saved_eq_latestSaved hnone h name

end Bodies

end Context

namespace Session

variable {passes : Nat} {header : StepHeader} {body : List Statement} {libref name : String}
  {s first t : Session} {before after : List Row} {row : Row} {opened : Catalog}

/-! ## The beginning of a step -/

/-- A step begins with its settings. -/
theorem keepsConfig_beginStep (libref name : String) (body : List Statement) :
    Keeps Session.config (beginStep libref name body) := by
  apply Keeps.bind
  · apply Keeps.modify
    intro s
    rfl
  intro _
  exact Keeps.ite _ (keeps_mergeIntoOutput blind_config libref name body) (Keeps.pure _)

/-- Beginning a step leaves what is read of the context but for what the step resets. -/
theorem beginStep_context {β : Type} {g : Context → β} (hg : Context.Blind g)
    {r : Except RunError Unit} (h : (beginStep libref name body).start s = .ok (r, first)) :
    g first.context = g (resetContext s.context) := by
  rw [beginStep, Run.start_bind_of_ok (Run.start_modify _ s)] at h
  have hkeeps : KeepsContext g
      (if body.any isMerge then mergeIntoOutput libref name body else pure ()) :=
    Keeps.ite _ (keeps_mergeIntoOutput (blind_context hg) libref name body) (Keeps.pure _)
  exact hkeeps h

/-- A step begins without saved values and without retained variables. -/
theorem beginStep_fresh (h : (beginStep libref name body).start s = .ok (.ok (), first)) :
    first.context.saved = .empty ∧ first.context.step.retain = [] := by
  have heq : (first.context.saved, first.context.step) = (OrderedMap.empty, StepState.empty) :=
    beginStep_context (g := fun ctx => (ctx.saved, ctx.step)) (fun _ _ _ => rfl) h
  exact ⟨congrArg Prod.fst heq, congrArg (fun p => p.2.retain) heq⟩

/-! ## Passes in a session -/

/-- A pass leaves the settings. -/
theorem keepsConfig_passRow (passes : Nat) (libref name : String)
    (body : List Statement) (row : Row) :
    Keeps Session.config (passRow passes libref name body row) :=
  keeps_passRow (fun _ _ => rfl) (fun _ => keeps_onContext (fun _ _ => rfl) _) libref name

/-- A pass that is completed in a session completes its body. -/
theorem exists_body_of_passRow
    (h : (passRow passes libref name body row).start s = .ok (.ok (), t)) :
    ∃ flow e, (Statement.performAll passes s.config.maxPasses body).start
      (s.context.beginPass row) =
      .ok (.ok flow, e) ∧ t.context = e.finishPass ∧ t.config = s.config := by
  have hconfig : t.config = s.config := keepsConfig_passRow passes libref name body row h
  rw [passRow, Run.start_bind_of_ok (Run.start_get s)] at h
  rcases Run.start_bind_eq_ok.1 h with ⟨e, -, he⟩ | ⟨out, u, hpass, hput⟩
  · cases he
  · obtain ⟨ctx, hctx, rfl⟩ := onContext_start_eq_ok.1 hpass
    have hcontext : t.context = ctx := by
      cases out with
      | none =>
        cases hput
        rfl
      | some out =>
        rcases Run.start_bind_eq_ok.1 hput with ⟨e, -, he⟩ | ⟨ds, v, hcatalog, hpure⟩
        · cases he
        · cases hpure
          exact keepsContext_onCatalog (g := id) _ hcatalog
    obtain ⟨flow, e, hbody, rfl⟩ := Context.exists_body_of_pass hctx
    exact ⟨flow, e, hbody, hcontext, hconfig⟩

/-- Passes that are completed in a session complete their bodies. -/
theorem exists_bodies_of_forM
    (h : (before.forM (passRow passes libref name body)).start first = .ok (.ok (), t)) :
    ∃ ends, Context.bodies passes first.config.maxPasses body before first.context =
      some (ends, t.context) := by
  induction before generalizing first with
  | nil =>
    cases h
    exact ⟨[], rfl⟩
  | cons row before ih =>
    change (passRow passes libref name body row >>= fun _ =>
      before.forM (passRow passes libref name body)).start first = _ at h
    rcases Run.start_bind_eq_ok.1 h with ⟨e, -, he⟩ | ⟨_, u, hrow, hrest⟩
    · cases he
    · obtain ⟨flow, e, hbody, hcontext, hconfig⟩ := exists_body_of_passRow hrow
      obtain ⟨ends, hends⟩ := ih hrest
      rw [hcontext, hconfig] at hends
      exact ⟨e :: ends, Context.bodies_cons_eq_some_iff.2 ⟨flow, e, ends, hbody, hends, rfl⟩⟩

/-- Rows that come one after another take their passes one after another. -/
theorem forM_append_start_of_ok {each : Row → SessionM Unit}
    (h : (before.forM each).start first = .ok (.ok (), t)) :
    ((before ++ after).forM each).start first = (after.forM each).start t := by
  induction before generalizing first with
  | nil =>
    cases h
    rfl
  | cons row before ih =>
    change (each row >>= fun _ => before.forM each).start first = _ at h
    change (each row >>= fun _ => (before ++ after).forM each).start first = _
    rcases Run.start_bind_eq_ok.1 h with ⟨e, -, he⟩ | ⟨_, u, hrow, hrest⟩
    · cases he
    · rw [Run.start_bind_of_ok hrow]
      exact ih hrest

/-- A step whose passes over its first rows are completed goes on with the rows that are left. -/
theorem dataStep_start_of_completed (hname : s.config.splitName header.output = (libref, name))
    (hopen : opening header (body.any isMerge) s = (.ok (before ++ after), opened))
    (hbegin : (beginStep libref name body).start { s with catalog := opened } = .ok (.ok (), first))
    (hbefore : (before.forM (passRow passes libref name body)).start first = .ok (.ok (), t)) :
    (dataStep passes header body).start s = (runPasses passes libref name body after).start t := by
  rw [dataStep_start_of_opening_eq_ok hname hopen,
    Run.start_bind_of_ok hbegin, runPasses, runPasses,
    Run.start_bind, Run.start_bind, forM_append_start_of_ok hbefore]

/-- **Each pass of a DATA step begins with the latest saved values of the variables that the pass
before retained, and its RETAIN statements initialize only what is not set.** The pass over `row` is
reached from the opened step through its beginning and the passes over the rows before. -/
theorem dataStep_retains (hname : s.config.splitName header.output = (libref, name))
    (hopen : opening header (body.any isMerge) s = (.ok (before ++ row :: after), opened))
    (hbegin : (beginStep libref name body).start { s with catalog := opened } = .ok (.ok (), first))
    (hbefore : (before.forM (passRow passes libref name body)).start first = .ok (.ok (), t)) :
    (dataStep passes header body).start s =
        (runPasses passes libref name body (row :: after)).start t ∧
      ∃ ends, Context.bodies passes s.config.maxPasses body before first.context =
          some (ends, t.context) ∧
        Context.BeginsWith ends row (t.context.beginPass row) ∧
        ∀ items moment, (.retain items, moment) ∈
          Statement.momentsAll passes s.config.maxPasses body
            (t.context.beginPass row) → Context.InitializesUnset ends moment items := by
  have hconfig : first.config = ({ s with catalog := opened } : Session).config :=
    keepsConfig_beginStep libref name body hbegin
  obtain ⟨hsaved, hretain⟩ := beginStep_fresh hbegin
  obtain ⟨ends, hends⟩ := exists_bodies_of_forM hbefore
  rw [hconfig] at hends
  exact ⟨dataStep_start_of_completed hname hopen hbegin hbefore, ends, hends,
    Context.beginsWith_of_bodies hretain hsaved hends row,
    fun items moment hmoment => Context.initializesUnset_of_moment hsaved hends hmoment⟩

/-- A session with a data set of two rows, the second of which has a column `total`. -/
def withTotal : Session := .holding .standard "a"
  [.ofList [("k", .number (.ofNat 1))],
    .ofList [("k", .number (.ofNat 2)), ("total", .number (.ofNat 9))]]

/-- A body that retains `total` and adds `k` to it. -/
def totalling : List Statement :=
  [.retain [⟨"total", some (.number (.ofNat 0))⟩],
    .assign (.variable "total") (.binary "+" (.variable "total") (.variable "k")), .output]

/-- Control: the second pass begins with the total of the first one, not with
that of its input row. -/
theorem dataStep_retains_total : ∃ t : Session,
    (dataStep 1 ⟨"b", some "a", [], []⟩ totalling).start withTotal =
        (runPasses 1 "" "b" totalling
          [.ofList [("k", .number (.ofNat 2)), ("total", .number (.ofNat 9))]]).start t ∧
      (t.context.beginPass
        (.ofList [("k", .number (.ofNat 2)), ("total", .number (.ofNat 9))])).row.get?
        "total" = some (.number (.ofNat 1)) := by
  let opened := (opening ⟨"b", some "a", [], []⟩ false withTotal).2
  let first : Session :=
    { withTotal with catalog := opened, context := resetContext withTotal.context }
  have hopen : opening ⟨"b", some "a", [], []⟩ (totalling.any isMerge) withTotal =
      (.ok ([.ofList [("k", .number (.ofNat 1))]] ++
        [.ofList [("k", .number (.ofNat 2)), ("total", .number (.ofNat 9))]]), opened) :=
    Prod.ext (by decide +kernel) rfl
  have hbegin : (beginStep "" "b" totalling).start { withTotal with catalog := opened } =
      .ok (.ok (), first) := rfl
  obtain ⟨t, hbefore⟩ : ∃ t, (([.ofList [("k", .number (.ofNat 1))]] : List Row).forM
      (passRow 1 "" "b" totalling)).start first = .ok (.ok (), t) :=
    Run.exists_start_eq_value (by decide +kernel)
  obtain ⟨hrest, ends, hends, hbegins, -⟩ := dataStep_retains rfl hopen hbegin hbefore
  have hsaved : (Context.bodies 1 withTotal.config.maxPasses totalling
      [.ofList [("k", .number (.ofNat 1))]] first.context).map (fun result =>
        (Context.retained result.1, Context.latestSaved result.1 "total")) =
      some (["total"], some (.number (.ofNat 1))) := by
    decide +kernel
  rw [hends, Option.map_some, Option.some.injEq, Prod.mk.injEq] at hsaved
  refine ⟨t, hrest, hbegins.of_saved "total" _ ?_ (Context.latestSaved_eq_some_iff.1 hsaved.2)⟩
  rw [hsaved.1]
  exact List.mem_singleton_self _

end Session

end DataStep
