import DataStep.Proofs.Step.Retained

/-!
# The final row of a pass

A pass ends with the row that its body leaves, less the columns that DROP and KEEP exclude, and
with the saved values of retained variables that are not in it. What is excluded is a matter of
the statements that the pass executed (`Excluded`): KEEP statements add up, and so do DROP
statements, which count only where no KEEP was executed. `FinalRow` says what such a row has to do
with the row at the end of the body.

Whatever a body does to its row in between, every pass ends with a final row of the row that its
body leaves and of the values that the passes before it saved: for the passes over a list of rows
this is `Context.finalRow_of_passAll`, for those that a DATA step completes `dataStep_finalRow`.
-/

set_option autoImplicit false

namespace DataStep

open Run (Keeps)

/-! ## What the statements of a pass exclude -/

/-- The variables of a KEEP statement. -/
def Statement.keptBy? : Statement → Option (List String)
  | .keep vars => some vars
  | _ => none

/-- The variables of a DROP statement. -/
def Statement.droppedBy? : Statement → Option (List String)
  | .drop vars => some vars
  | _ => none

/-- A variable is excluded by the DROP and KEEP statements among those that were executed: no KEEP
names it although there is one, or there is none and a DROP names it. -/
def Excluded (executed : List Statement) (name : String) : Prop :=
  if executed.filterMap Statement.keptBy? = [] then
    name ∈ (executed.filterMap Statement.droppedBy?).flatten
  else name ∉ (executed.filterMap Statement.keptBy?).flatten

instance (executed : List Statement) (name : String) : Decidable (Excluded executed name) :=
  inferInstanceAs (Decidable (ite _ _ _))

/-- A variable is retained by one of the statements that were executed. -/
def RetainedBy (executed : List Statement) (name : String) : Prop :=
  ∃ items, Statement.retain items ∈ executed ∧ name ∈ items.map RetainItem.name

namespace StepState

variable {step : StepState} {executed : List Statement} {name : String}

/-- A list in the bookkeeping to which statements add ends as all that they add. -/
theorem foldl_after_list (list : StepState → Option (List String))
    (added? : Statement → Option (List String))
    (hafter : ∀ step stmt, list (after step stmt) =
      (added? stmt).elim (list step) fun vars => extend (list step) vars)
    (step : StepState) (executed : List Statement) : list (executed.foldl after step) =
      if executed.filterMap added? = [] then list step
      else some ((list step).getD [] ++ (executed.filterMap added?).flatten) := by
  induction executed generalizing step with
  | nil => rfl
  | cons stmt executed ih =>
    rw [List.foldl_cons, ih, hafter]
    cases hadded : added? stmt with
    | none => simp only [List.filterMap_cons_none hadded, Option.elim_none]
    | some vars =>
      simp only [List.filterMap_cons_some hadded, Option.elim_some, extend, Option.getD_some,
        List.flatten_cons, List.append_assoc, reduceCtorEq, if_false]
      split
      · rename_i hnil
        rw [hnil, List.flatten_nil, List.append_nil]
      · rfl

/-- **The bookkeeping of a pass excludes what its DROP and KEEP statements exclude.** -/
theorem excludes_foldl_after (step : StepState) (executed : List Statement) (name : String) :
    (executed.foldl after step.next).excludes name = true ↔ Excluded executed name := by
  have hkeep := foldl_after_list keep Statement.keptBy? (fun _ stmt => by cases stmt <;> rfl)
    step.next executed
  have hdrop := foldl_after_list drop Statement.droppedBy? (fun _ stmt => by cases stmt <;> rfl)
    step.next executed
  rw [excludes, hkeep, hdrop, Excluded]
  by_cases hnone : executed.filterMap Statement.keptBy? = []
  · rw [if_pos hnone, if_pos hnone]
    by_cases hnoDrop : executed.filterMap Statement.droppedBy? = []
    · simp [hnoDrop, next]
    · simp [hnoDrop, next]
  · simp [hnone, next]

/-- The retained variables of a pass are those of its RETAIN statements. -/
theorem mem_retain_foldl_after (step : StepState) (executed : List Statement) (name : String) :
    name ∈ (executed.foldl after step).retain ↔ name ∈ step.retain ∨ RetainedBy executed name := by
  have hadd : ∀ (items : List RetainItem) (names : List String),
      name ∈ items.foldl addRetained names ↔ name ∈ names ∨ name ∈ items.map RetainItem.name := by
    intro items
    induction items with
    | nil => simp
    | cons item items ih =>
      intro names
      have hone : name ∈ addRetained names item ↔ name ∈ names ∨ name = item.name := by
        unfold addRetained
        split
        · rename_i hthere
          exact ⟨.inl, fun h => h.elim id fun heq => heq ▸ List.contains_iff_mem.1 hthere⟩
        · simp
      rw [List.foldl_cons, ih, hone, List.map_cons, List.mem_cons, or_assoc]
  induction executed generalizing step with
  | nil => simp [RetainedBy]
  | cons stmt executed ih =>
    have hstmt : name ∈ (after step stmt).retain ↔
        name ∈ step.retain ∨ ∃ items, stmt = .retain items ∧ name ∈ items.map RetainItem.name := by
      cases stmt with
      | retain items => simp [after, hadd]
      | _ => simp [after]
    rw [List.foldl_cons]
    refine (ih _).trans ?_
    rw [hstmt, or_assoc]
    refine or_congr_right ?_
    constructor
    · rintro (⟨items, rfl, hmem⟩ | ⟨items, hitems, hmem⟩)
      · exact ⟨items, List.mem_cons_self, hmem⟩
      · exact ⟨items, List.mem_cons_of_mem _ hitems, hmem⟩
    · rintro ⟨items, hitems, hmem⟩
      rcases List.mem_cons.1 hitems with heq | hitems
      · exact .inl ⟨items, heq.symm, hmem⟩
      · exact .inr ⟨items, hitems, hmem⟩

end StepState

/-! ## The end of a pass -/

/-- **What a final row has to do with the row at the end of the body**, after the statements that
the pass executed and with the values that were saved before. -/
structure FinalRow (executed : List Statement) (row : Row)
    (saved : String → Value → Prop) (final : Row) :
    Prop where
  /-- No column is excluded, wherever its value comes from. -/
  not_excluded : ∀ name ∈ final.keys, ¬ Excluded executed name
  /-- The columns of the row that are not excluded come first, with their values. -/
  stays : ∃ kept added, final.entries = kept ++ added ∧
    kept.Sublist row.entries ∧ ∀ e ∈ row.entries, e ∈ kept ↔ ¬ Excluded executed e.1
  /-- All others are retained variables that the row does not have, with the
  values saved for them. -/
  added : ∀ name v, row.get? name = none → (final.get? name = some v ↔
    ¬ Excluded executed name ∧ RetainedBy executed name ∧ saved name v)

namespace Context

variable {passes limit : Nat} {body : List Statement} {ctx ended : Context} {name : String}

theorem step_saveOrRestore (ctx : Context) (name : String) :
    (ctx.saveOrRestore name).step = ctx.step := by
  obtain ⟨row, saved, h⟩ := exists_saveOrRestore_eq ctx name
  rw [h]

/-- Restoring a value that is absent from a row adds it at the end. -/
theorem exists_entries_restore {row : Row} (saved : OrderedMap Value) (h : row.get? name = none) :
    ∃ added, (restore saved row [name]).entries = row.entries ++ added := by
  simp only [restore, List.foldl_cons, List.foldl_nil]
  cases saved.get? name with
  | none => exact ⟨[], (List.append_nil _).symm⟩
  | some v => exact ⟨[(name, v)], Entries.insert_of_not_mem v (OrderedMap.get?_eq_none_iff.1 h)⟩

/-- A variable that has no value in the row takes its saved value, unless it is excluded; all others
have the values that they had. -/
theorem row_saveOrRestore (ctx : Context) (other name : String) :
    (ctx.saveOrRestore other).row.get? name = (ctx.row.get? name).or
      (if name = other ∧ ctx.step.excludes name = false then ctx.saved.get? name else none) := by
  by_cases h : name = other
  · subst h
    unfold saveOrRestore
    cases hrow : ctx.row.get? name with
    | some v => rw [hrow, Option.some_or]
    | none =>
      cases hexcluded : ctx.step.excludes name with
      | true => simp [hrow]
      | false => simp [get?_restore, hrow]
  · rw [(ctx.saveOrRestore_other (Ne.symm h)).2, if_neg (fun hname => h hname.1), Option.or_none]

/-- Saving or restoring names adds to the row the saved values of those that it does not have. -/
theorem row_foldl_saveOrRestore (names : List String) (ctx : Context) (name : String) :
    (names.foldl saveOrRestore ctx).row.get? name = (ctx.row.get? name).or
      (if name ∈ names ∧ ctx.step.excludes name = false then ctx.saved.get? name else none) := by
  induction names generalizing ctx with
  | nil => simp
  | cons first names ih =>
    rw [List.foldl_cons, ih, row_saveOrRestore, step_saveOrRestore, Option.or_assoc]
    cases hrow : ctx.row.get? name with
    | some v => rfl
    | none =>
      have hsaved : (ctx.saveOrRestore first).saved.get? name = ctx.saved.get? name := by
        by_cases h : first = name
        · subst h
          rw [(ctx.saveOrRestore_self first).1, hrow, Option.none_or]
        · exact (ctx.saveOrRestore_other h).1
      rw [hsaved, Option.none_or, Option.none_or]
      cases ctx.step.excludes name with
      | true => simp
      | false =>
        by_cases hfirst : name = first
        · -- restored once, it is in the row and stays
          subst hfirst
          cases ctx.saved.get? name <;> simp
        · simp [hfirst]

/-- What is added comes behind what is there. -/
theorem exists_entries_foldl_saveOrRestore (names : List String) (ctx : Context) :
    ∃ added, (names.foldl saveOrRestore ctx).row.entries = ctx.row.entries ++ added := by
  induction names generalizing ctx with
  | nil => exact ⟨[], (List.append_nil _).symm⟩
  | cons first names ih =>
    obtain ⟨more, hmore⟩ := ih (ctx.saveOrRestore first)
    have hone : ∃ added, (ctx.saveOrRestore first).row.entries = ctx.row.entries ++ added := by
      unfold saveOrRestore
      cases hrow : ctx.row.get? first with
      | some v => exact ⟨[], (List.append_nil _).symm⟩
      | none =>
        dsimp only
        split
        · exact ⟨[], (List.append_nil _).symm⟩
        · exact exists_entries_restore ctx.saved hrow
    obtain ⟨added, hadded⟩ := hone
    exact ⟨added ++ more, by rw [List.foldl_cons, hmore, hadded, List.append_assoc]⟩

/-- **The final row of a pass** has no excluded column, the others of the row that the body leaves,
and the saved values of retained variables that are not among these. -/
theorem get?_finishPass (ctx : Context) (name : String) : ctx.finishPass.row.get? name =
    if ctx.step.excludes name then none
    else (ctx.row.get? name).or (if name ∈ ctx.step.retain then ctx.saved.get? name else none) := by
  rw [finishPass, row_foldl_saveOrRestore, OrderedMap.get?_filterKeys]
  cases hexcluded : ctx.step.excludes name <;> simp

/-- **A pass ends with a final row of the row that its body leaves.** -/
theorem finalRow_of_body {row : Row} {flow : Flow}
    (h : (Statement.performAll passes limit body).start (ctx.beginPass row) =
      .ok (.ok flow, ended)) :
    FinalRow (Statement.performedAll passes limit body (ctx.beginPass row)) ended.row
      (fun name v => ctx.saved.get? name = some v) ended.finishPass.row := by
  have heffect := Statement.performAll_effect passes limit body h
  generalize Statement.performedAll passes limit body (ctx.beginPass row) = executed at heffect
  have hstep : ended.step = executed.foldl StepState.after ctx.step.next := heffect.step_eq
  have hsaved : ended.saved = ctx.saved := heffect.saved_eq
  have hexcludes : ∀ name, ended.step.excludes name = true ↔ Excluded executed name := by
    intro name
    rw [hstep]
    exact StepState.excludes_foldl_after ctx.step executed name
  have hretain : ∀ name, name ∈ ended.step.retain ↔ RetainedBy executed name := by
    intro name
    rw [hstep, StepState.mem_retain_foldl_after]
    simp [StepState.next]
  refine ⟨fun name hname hexcluded => ?_, ?_, fun name v hrow => ?_⟩
  · -- an excluded column is neither left nor restored
    rw [← hexcludes] at hexcluded
    have hnone : ended.finishPass.row.get? name = none := by rw [get?_finishPass, if_pos hexcluded]
    exact OrderedMap.get?_eq_none_iff.1 hnone hname
  · obtain ⟨added, hadded⟩ := exists_entries_foldl_saveOrRestore ended.step.retain
      { ended with row := ended.kept }
    refine ⟨ended.kept.entries, added, hadded, List.filter_sublist, fun e he => ?_⟩
    rw [← hexcludes]
    simp [kept, OrderedMap.filterKeys, he]
  · rw [get?_finishPass, hrow, hsaved, Option.none_or, ← hexcludes, ← hretain]
    cases ended.step.excludes name with
    | true => simp
    | false => by_cases hname : name ∈ ended.step.retain <;> simp [hname]

/-- **Each of the passes over rows ends with a final row**, of the row that its body leaves and of
the latest values that the passes before it saved or that were saved before all of them. -/
theorem finalRow_of_passAll {rows : List Row} {p : Passes} {before after : List CompletedPass}
    {pass : CompletedPass} (h : passAll passes limit body rows ctx = .ok p)
    (hcompleted : p.completed = before ++ pass :: after) :
    FinalRow pass.executed pass.ended.row
      (fun name v => (latestSaved (before.map CompletedPass.ended) name).or
        (ctx.saved.get? name) = some v) pass.row := by
  -- by induction on the rows: the pass is the first one, or lies in the passes after the first,
  -- which begin where that one saved its values
  induction rows generalizing ctx p before with
  | nil =>
    cases h
    cases before <;> cases hcompleted
  | cons row rows ih =>
    rw [passAll] at h
    split at h
    · cases h
    · cases h
      cases before <;> cases hcompleted
    · rename_i flow t hbody
      cases hrest : passAll passes limit body rows t.finishPass with
      | error halt => rw [hrest] at h; cases h
      | ok rest =>
        rw [hrest] at h
        cases h
        cases before with
        | nil =>
          obtain ⟨rfl, -⟩ := List.cons.inj hcompleted
          exact finalRow_of_body hbody
        | cons first before =>
          obtain ⟨rfl, htail⟩ := List.cons.inj hcompleted
          have hfinal := ih hrest htail
          -- what the first pass saves comes before what was saved when it began
          have hsaved : t.saved = ctx.saved :=
            (Statement.performAll_effect passes limit body hbody).saved_eq
          simp only [saved_finishPass, hsaved, ← Option.or_assoc, ← latestSaved_cons] at hfinal
          exact hfinal

end Context

namespace Session

variable {passes : Nat} {header : StepHeader} {body : List Statement} {libref name : String}
  {s first t u : Session} {before after : List Row} {row : Row} {opened : Catalog}

/-! ## Passes of a step -/

/-- A pass that is completed in a session is one over its context, and the row that it puts out
is added to the output. -/
theorem exists_pass_of_passRow
    (h : (passRow passes libref name body row).start t = .ok (.ok (), u)) :
    ∃ out, (Context.pass passes t.config.maxPasses body row).start t.context =
      .ok (.ok out, u.context) ∧
      match out with
      | some out => ∃ ds, t.catalog.update libref name (·.addRow out) = (.ok ds, u.catalog)
      | none => u.catalog = t.catalog := by
  rw [passRow, Run.start_bind_of_ok (Run.start_get t)] at h
  rcases Run.start_bind_eq_ok.1 h with ⟨e, -, he⟩ | ⟨out, v, hpass, hput⟩
  · cases he
  · obtain ⟨ctx, hctx, rfl⟩ := onContext_start_eq_ok.1 hpass
    cases out with
    | none =>
      cases hput
      exact ⟨none, hctx, rfl⟩
    | some out =>
      rcases Run.start_bind_eq_ok.1 hput with ⟨e, -, he⟩ | ⟨ds, w, hupdate, hpure⟩
      · cases he
      · cases hpure
        obtain ⟨hcatalog, hsession⟩ := onCatalog_start_eq_ok hupdate
        have hcontext : u.context = ctx := congrArg Session.context hsession
        exact ⟨some out, hcontext ▸ hctx, ds, hcatalog⟩

/-- What a pass adds to the output: its final row, if it executed OUTPUT. -/
def AddsFinalRow (executed : List Statement) (libref name : String)
    (final : Row) (cat cat' : Catalog) :
    Prop :=
  if executed.any Statement.isOutput then
    ∃ ds, cat.update libref name (fun ds => ds.addRow final) = (.ok ds, cat')
  else cat' = cat

/-- **Each pass that a DATA step completes ends with a final row of the row that its body leaves
and of the latest values that the passes before it saved**, and puts out this row if it executed
OUTPUT. The pass over `row` is reached from the opened step through its beginning and the passes
over the rows before. -/
theorem dataStep_finalRow (hname : s.config.splitName header.output = (libref, name))
    (hopen : opening header (body.any isMerge) s = (.ok (before ++ row :: after), opened))
    (hbegin : (beginStep libref name body).start { s with catalog := opened } = .ok (.ok (), first))
    (hbefore : (before.forM (passRow passes libref name body)).start first = .ok (.ok (), t))
    (hpass : (passRow passes libref name body row).start t = .ok (.ok (), u)) :
    (dataStep passes header body).start s = (runPasses passes libref name body after).start u ∧
      ∃ ends flow ended, Context.bodies passes s.config.maxPasses body before first.context =
          some (ends, t.context) ∧
        (Statement.performAll passes s.config.maxPasses body).start (t.context.beginPass row) =
          .ok (.ok flow, ended) ∧
        let executed :=
          Statement.performedAll passes s.config.maxPasses body (t.context.beginPass row)
        FinalRow executed ended.row (Context.LatestSave ends) u.context.row ∧
          AddsFinalRow executed libref name u.context.row t.catalog u.catalog := by
  have hfirst : first.config = ({ s with catalog := opened } : Session).config :=
    keepsConfig_beginStep libref name body hbegin
  obtain ⟨hnone, -⟩ := beginStep_fresh hbegin
  obtain ⟨ends, hends⟩ := exists_bodies_of_forM hbefore
  obtain ⟨flow, ended, hbody, hcontext, -⟩ := exists_body_of_passRow hpass
  obtain ⟨out, hrun, hout⟩ := exists_pass_of_passRow hpass
  have hpasses : t.config = first.config :=
    Keeps.forM (fun row => keepsConfig_passRow passes libref name body row) before hbefore
  have hconfig : t.config = s.config := hpasses.trans hfirst
  rw [hfirst] at hends
  rw [hconfig] at hbody hrun
  refine ⟨?_, ends, flow, ended, hends, hbody, ?_, ?_⟩
  · have hthis : ((before ++ [row]).forM (passRow passes libref name body)).start first =
        .ok (.ok (), u) := by
      rw [forM_append_start_of_ok hbefore]
      exact Run.start_bind_of_ok hpass
    rw [List.append_cons] at hopen
    exact dataStep_start_of_completed hname hopen hbegin hthis
  · -- the saved values with which the pass begins are the latest ones of the passes before
    have hsaved : (fun name v => t.context.saved.get? name = some v) = Context.LatestSave ends := by
      funext name v
      rw [Context.saved_eq_latestSaved hnone hends, Context.latestSaved_eq_some_iff]
    rw [hcontext, ← hsaved]
    exact Context.finalRow_of_body hbody
  · rw [Context.pass_start_of_ok hbody] at hrun
    have hemitted := Except.ok.inj (Prod.mk.inj (Except.ok.inj hrun)).1
    rw [hcontext, AddsFinalRow]
    cases houtput : (Statement.performedAll passes s.config.maxPasses body
        (t.context.beginPass row)).any Statement.isOutput with
    | true =>
      rw [houtput, if_pos rfl] at hemitted
      subst hemitted
      exact hout
    | false =>
      rw [houtput, if_neg Bool.false_ne_true] at hemitted
      subst hemitted
      exact hout

/-- A session with a data set of two rows, of which only the first has `total` and
only the second `late`. -/
def lateRow : Session := .holding .standard "a"
  [.ofList [("k", .number (.ofNat 1)), ("total", .number (.ofNat 9))],
    .ofList [("k", .number (.ofNat 2)), ("late", .number (.ofNat 1))]]

/-- A body that retains `total` and keeps `k` and then `total` of a late row,
which leaves it empty. -/
def keepingTwice : List Statement :=
  [.retain [⟨"total", none⟩], .ifThen (.variable "late") [.keep ["k"], .keep ["total"]], .output]

/-- What is known at the end of a body about a variable: the value in the row, and whether the
statements that were executed exclude it. -/
def atBodyEnd (row : Row) (name : String) (ctx : Context) : Option (Option Value × Bool) :=
  match (Statement.performAll 1 lateRow.config.maxPasses keepingTwice).start
    (ctx.beginPass row) with
  | .ok (.ok _, ended) => some (ended.row.get? name, decide (Excluded
      (Statement.performedAll 1 lateRow.config.maxPasses keepingTwice (ctx.beginPass row)) name))
  | _ => none

/-- Control: the second pass takes `total` out of its row at the first KEEP and has it again at its
end, with the value that the first pass saved. -/
theorem dataStep_finalRow_restored : ∃ t u : Session,
    (passRow 1 "" "b" keepingTwice
      (.ofList [("k", .number (.ofNat 2)), ("late", .number (.ofNat 1))])).start t =
        .ok (.ok (), u) ∧
    (dataStep 1 ⟨"b", some "a", [], []⟩ keepingTwice).start lateRow =
        (runPasses 1 "" "b" keepingTwice []).start u ∧
      u.context.row.get? "total" = some (.number (.ofNat 9)) ∧ "late" ∉ u.context.row.keys := by
  let row₁ : Row := .ofList [("k", .number (.ofNat 1)), ("total", .number (.ofNat 9))]
  let row₂ : Row := .ofList [("k", .number (.ofNat 2)), ("late", .number (.ofNat 1))]
  let opened := (opening ⟨"b", some "a", [], []⟩ false lateRow).2
  let first : Session := { lateRow with catalog := opened, context := resetContext lateRow.context }
  have hopen : opening ⟨"b", some "a", [], []⟩ (keepingTwice.any isMerge) lateRow =
      (.ok ([row₁] ++ row₂ :: []), opened) := Prod.ext (by decide +kernel) rfl
  have hbegin : (beginStep "" "b" keepingTwice).start { lateRow with catalog := opened } =
      .ok (.ok (), first) := rfl
  obtain ⟨u, hboth⟩ : ∃ u, (([row₁] : List Row).forM (passRow 1 "" "b" keepingTwice) >>= fun _ =>
      passRow 1 "" "b" keepingTwice row₂).start first = .ok (.ok (), u) :=
    Run.exists_start_eq_value (by decide +kernel)
  rcases Run.start_bind_eq_ok.1 hboth with ⟨e, -, he⟩ | ⟨_, t, hbefore, hpass⟩
  · cases he
  obtain ⟨hrest, ends, flow, ended, hends, hbody, hfinal, -⟩ :=
    dataStep_finalRow rfl hopen hbegin hbefore hpass
  have hknown : (Context.bodies 1 lateRow.config.maxPasses keepingTwice [row₁] first.context).bind
      (fun result => (atBodyEnd row₂ "total" result.2).map fun found =>
        (Context.latestSaved result.1 "total", found)) =
      some (some (.number (.ofNat 9)), none, false) := by
    decide +kernel
  have hlate : (Context.bodies 1 lateRow.config.maxPasses keepingTwice [row₁] first.context).bind
      (fun result => (atBodyEnd row₂ "late" result.2).map Prod.snd) = some true := by
    decide +kernel
  rw [hends, Option.bind_some, atBodyEnd, hbody] at hknown hlate
  simp only [Option.map_some, Option.some.injEq, Prod.mk.injEq, decide_eq_false_iff_not] at hknown
  obtain ⟨hlatest, hrow, hkept⟩ := hknown
  have hretained : RetainedBy (Statement.performedAll 1 lateRow.config.maxPasses keepingTwice
      (t.context.beginPass row₂)) "total" := by
    refine ⟨[⟨"total", none⟩], ?_, List.mem_singleton_self _⟩
    simp [keepingTwice, Statement.performedAll, Statement.performed]
  refine ⟨t, u, hpass, hrest, ?_, fun hthere => ?_⟩
  · exact (hfinal.added "total" _ hrow).2 ⟨hkept, hretained,
      Context.latestSaved_eq_some_iff.1 hlatest⟩
  · exact hfinal.not_excluded "late" hthere (of_decide_eq_true (Option.some.inj hlate))

end Session

end DataStep
