import DataStep.Proofs.Dataset
import DataStep.Proofs.Pass
import DataStep.Proofs.Step.FinalRow

/-!
# The rows that a DATA step puts out

A DATA step without merges makes the passes of `Context.passAll` over its input rows and adds to its
output what they put out. Main statement: what such a step leaves behind is what the passes record
(`dataStep_passes`): the output holds the final rows of the passes that executed OUTPUT, each with
the columns that the KEEP and DROP statements of its pass leave and the values saved before it, the
columns of the output are in the order of their first appearance, and a step that fails lists and
reports nothing.
-/

set_option autoImplicit false

namespace DataStep

namespace Session

open Catalog (datasetKey)

variable {passes : Nat} {header : StepHeader} {body : List Statement} {libref name : String}

/-! ## Passes in a session -/

/-- A session in the middle of a step whose output is a data set under a name of a catalog. -/
def during (s : Session) (cat : Catalog) (libref name : String) (ds : Dataset) (ctx : Context) :
    Session :=
  { s with catalog := cat.putNamed libref name ds, context := ctx }

variable {s : Session} {cat : Catalog} {ds : Dataset} {ctx t : Context} {row : Row}
  (hlib : (cat.libraries.get? (cat.libraryKey libref)).isSome)

include hlib in
/-- A pass that is completed adds its final row to the output if it executed OUTPUT. -/
theorem passRow_start_of_ok {flow : Flow}
    (h : (Statement.performAll passes s.config.maxPasses body).start (ctx.beginPass row) =
      .ok (.ok flow, t)) :
    (passRow passes libref name body row).start (s.during cat libref name ds ctx) =
      .ok (.ok (), s.during cat libref name
        (if (Statement.performedAll passes s.config.maxPasses body (ctx.beginPass row)).any
            Statement.isOutput then ds.addRow t.finishPass.row else ds) t.finishPass) := by
  have hpass : (onContext (Context.pass passes s.config.maxPasses body row)).start
      (s.during cat libref name ds ctx) = .ok (.ok
        (if (Statement.performedAll passes s.config.maxPasses body (ctx.beginPass row)).any
          Statement.isOutput then some t.finishPass.row else none),
        s.during cat libref name ds t.finishPass) :=
    onContext_start_eq_ok.2 ⟨_, Context.pass_start_of_ok h, rfl⟩
  rw [passRow, Run.start_bind_of_ok (Run.start_get _)]
  refine (Run.start_bind_of_ok hpass).trans ?_
  cases (Statement.performedAll passes s.config.maxPasses body (ctx.beginPass row)).any
      Statement.isOutput with
  | false => rfl
  | true =>
    have hnamed : (cat.putNamed libref name ds).named? libref name = some ds :=
      Catalog.named?_putNamed hlib
    have hupdate := Catalog.update_of_named? hnamed fun ds => ds.addRow t.finishPass.row
    rw [Catalog.putNamed_putNamed] at hupdate
    exact Run.start_bind_of_ok (onCatalog_start_of_ok
      (s := s.during cat libref name ds t.finishPass) hupdate)

/-- A pass fails as its body does. -/
theorem passRow_start_of_error {e : RunError}
    (h : (Statement.performAll passes s.config.maxPasses body).start (s.context.beginPass row) =
      .ok (.error e, t)) :
    (passRow passes libref name body row).start s = .ok (.error e, { s with context := t }) := by
  rw [passRow, Run.start_bind_of_ok (Run.start_get _)]
  exact Run.start_bind_of_error (onContext_start_eq_ok.2 ⟨_, Context.pass_start_of_error h, rfl⟩)

include hlib in
/-- **The passes of a step over its rows add to the output what the passes record.** -/
theorem forM_passRow_start {rows : List Row} {p : Passes}
    (h : Context.passAll passes s.config.maxPasses body rows ctx = .ok p) :
    (rows.forM (passRow passes libref name body)).start (s.during cat libref name ds ctx) =
      .ok (p.result, s.during cat libref name (p.emitted.foldl Dataset.addRow ds) p.context) := by
  induction rows generalizing ctx ds p with
  | nil =>
    cases h
    rfl
  | cons row rows ih =>
    rw [Context.passAll] at h
    change (passRow passes libref name body row >>= fun _ =>
      rows.forM (passRow passes libref name body)).start _ = _
    split at h
    · cases h
    · rename_i e t hbody
      cases h
      exact Run.start_bind_of_error (passRow_start_of_error hbody)
    · rename_i flow t hbody
      cases hrest : Context.passAll passes s.config.maxPasses body rows t.finishPass with
      | error halt => rw [hrest] at h; cases h
      | ok rest =>
        rw [hrest] at h
        cases h
        refine (Run.start_bind_of_ok (passRow_start_of_ok hlib hbody)).trans ((ih hrest).trans ?_)
        rw [Passes.emitted_cons, CompletedPass.putsOut]
        cases (Statement.performedAll passes s.config.maxPasses body (ctx.beginPass row)).any
          Statement.isOutput <;> rfl

/-! ## The step as a whole -/

/-- The note on the output of a step. -/
def completionNote (config : Config) (libref name : String) (ds : Dataset) : String :=
  let library := if libref.isEmpty then Text.upper config.defaultLibrary else Text.upper libref
  let shown := Text.upper name
  s!"The data set {library}.{shown} has {ds.size} observations and " ++
    s!"{ds.columns.length} variables."

include hlib in
theorem reportOutput_start : (reportOutput libref name).start (s.during cat libref name ds ctx) =
    .ok (.ok (), { s.during cat libref name ds
        (ctx.mapLog (Log.note · (completionNote s.config libref name ds))) with
      listing := s.listing ++ ds.render s.title s.config.missingText }) := by
  have hnamed : (cat.putNamed libref name ds).named? libref name = some ds :=
    Catalog.named?_putNamed hlib
  have hfetch : (onCatalog fun cat => cat.fetch libref name).start
      (s.during cat libref name ds ctx) = .ok (.ok ds, s.during cat libref name ds ctx) :=
    onCatalog_start_of_ok (Catalog.fetch_of_named? hnamed)
  exact Run.start_bind_of_ok hfetch

/-- What a step over rows leaves behind: the session `t` and in it the output `out`, given the
session before it, the catalog with the output opened, and the passes. -/
structure Leaves (s : Session) (opened : Catalog) (libref name : String) (rows : List Row)
    (p : Passes) (t : Session) (out : Dataset) : Prop where
  output : t.catalog.named? libref name = some out
  rows_eq : out.rows = p.emitted
  columns_eq : out.columns = (p.emitted.flatMap OrderedMap.keys).eraseDups
  /-- A pass ends with the columns of the row that its body leaves, less those that the executed
  DROP and KEEP statements exclude, and with the latest values that the passes before it saved. -/
  final : ∀ before pass after, p.completed = before ++ pass :: after →
    FinalRow pass.executed pass.ended.row
      (Context.LatestSave (before.map CompletedPass.ended)) pass.row
  others : ∀ l d, l ≠ opened.libraryKey libref ∨ d ≠ datasetKey name →
    t.catalog.find? l d = opened.find? l d
  /-- After the last row the output is listed and reported. -/
  of_ok : p.result = .ok () → p.completed.length = rows.length ∧
    t.listing = s.listing ++ out.render s.title s.config.missingText ∧
      t.context = p.context.mapLog (Log.note · (completionNote s.config libref name out))
  /-- After a pass that fails nothing is. -/
  of_error : ∀ e, p.result = .error e →
    p.completed.length < rows.length ∧ t.listing = s.listing ∧ t.context = p.context
  log : Log.Unnoted s.context.log p.context.log
  rest : t = { s with catalog := t.catalog, context := t.context, listing := t.listing }

/-- **A DATA step without merges puts out the final rows of its passes that executed OUTPUT, in the
order of its input rows, up to the first pass that fails.** The input rows are those that `source`
finds before the step changes anything. -/
theorem dataStep_passes {rows : List Row} {opened : Catalog} {p : Passes}
    (hname : s.config.splitName header.output = (libref, name))
    (hmerge : body.any isMerge = false) (hopen : opening header false s = (.ok rows, opened))
    (hpasses : Context.passAll passes s.config.maxPasses body rows
      (resetContext s.context) = .ok p) :
    ∃ t out, (dataStep passes header body).start s = .ok (p.result, t) ∧
      Leaves s opened libref name rows p t out := by
  obtain ⟨cat, old, rfl, hlib⟩ := exists_of_opening_eq_ok hname hopen
  -- the run is that of the passes, and of the report after them
  have hrun : (dataStep passes header body).start s =
      (do
        (rows.forM (passRow passes libref name body) : SessionM Unit)
        reportOutput libref name).start
          (s.during cat libref name old.clear (resetContext s.context)) := by
    rw [dataStep_start, hmerge, hopen]
    dsimp only
    unfold runOpened
    rw [Run.start_bind_of_ok (splitName_start _ _)]
    dsimp only
    rw [hname, hmerge]
    rfl
  have hforM : (rows.forM (passRow passes libref name body)).start
      (s.during cat libref name old.clear (resetContext s.context)) =
        .ok (p.result, s.during cat libref name
          (p.emitted.foldl Dataset.addRow old.clear) p.context) :=
    forM_passRow_start hlib hpasses
  rw [Dataset.foldl_addRow_clear] at hforM
  generalize hout :
    (⟨old.name, (p.emitted.flatMap OrderedMap.keys).eraseDups, p.emitted⟩ : Dataset) = out at hforM
  have hlength := Context.length_completed hpasses
  have hlog : Log.Unnoted (resetContext s.context).log p.context.log :=
    Context.log_passAll hpasses
  have hfinal : ∀ before pass after, p.completed = before ++ pass :: after →
      FinalRow pass.executed pass.ended.row
        (Context.LatestSave (before.map CompletedPass.ended)) pass.row := by
    intro before pass after hcompleted
    have hfinal := Context.finalRow_of_passAll hpasses hcompleted
    -- nothing is saved when the step begins
    have hnone : (resetContext s.context).saved = .empty := rfl
    simp only [hnone, OrderedMap.get?_empty, Option.or_none,
      Context.latestSaved_eq_some_iff] at hfinal
    exact hfinal
  have houtput : (cat.putNamed libref name out).named? libref name = some out :=
    Catalog.named?_putNamed hlib
  have hothers : ∀ l d, l ≠ (cat.putNamed libref name old.clear).libraryKey libref ∨
      d ≠ datasetKey name → (cat.putNamed libref name out).find? l d =
        (cat.putNamed libref name old.clear).find? l d := by
    intro l d hne
    rw [Catalog.putNamed, Catalog.libraryKey_put] at hne
    rw [Catalog.putNamed, Catalog.putNamed, Catalog.find?_put_of_ne hne,
      Catalog.find?_put_of_ne hne]
  cases hresult : p.result with
  | error e =>
    rw [hresult] at hforM hlength
    refine ⟨_, out, hrun.trans (Run.start_bind_of_error hforM), ?_⟩
    subst hout
    refine ⟨houtput, rfl, rfl, hfinal, hothers, fun hok => ?_,
      fun e' _ => ⟨hlength, rfl, rfl⟩, hlog, rfl⟩
    rw [hresult] at hok
    cases hok
  | ok u =>
    rw [hresult] at hforM hlength
    refine ⟨_, out, hrun.trans ((Run.start_bind_of_ok hforM).trans (reportOutput_start hlib)), ?_⟩
    subst hout
    refine ⟨houtput, rfl, rfl, hfinal, hothers, fun _ => ⟨hlength, rfl, rfl⟩,
      fun e he => ?_, hlog, rfl⟩
    rw [hresult] at he
    cases he

/-- A session with a data set of two rows, the second of which has a column `stop`. -/
def twoRows : Session := .holding .standard "a"
  [.ofList [("k", .text "p")], .ofList [("k", .text "q"), ("stop", .number (.ofNat 1))]]

/-- A body that assigns after OUTPUT and fails where `stop` holds. -/
def stoppingBody : List Statement :=
  [.output, .assign (.variable "y") (.variable "k"), .ifThen (.variable "stop") [.endPass]]

/-- Control: a step that reads the data set it writes and fails in its second pass leaves the final
row of the first one, which has what was assigned after OUTPUT. -/
theorem dataStep_passes_own_input : ∃ t out,
    (dataStep 1 ⟨"a", some "a", [], []⟩ stoppingBody).start twoRows =
      .ok (.error .unmatchedEnd, t) ∧ t.catalog.named? "" "a" = some out ∧
        out.rows = [.ofList [("k", .text "p"), ("y", .text "p")]] ∧ t.listing = #[] := by
  have hname : twoRows.config.splitName "a" = ("", "a") := rfl
  have hmerge : stoppingBody.any isMerge = false := rfl
  have hopen : (opening ⟨"a", some "a", [], []⟩ false twoRows).1 =
      .ok ((twoRows.catalog.named? "" "a").toList.flatMap (·.rows)) := rfl
  obtain ⟨p, hpasses, hresult, hemitted⟩ : ∃ p, Context.passAll 1 twoRows.config.maxPasses
      stoppingBody ((twoRows.catalog.named? "" "a").toList.flatMap (·.rows))
      (resetContext twoRows.context) = .ok p ∧ p.result = .error .unmatchedEnd ∧
        p.emitted = [.ofList [("k", .text "p"), ("y", .text "p")]] := ⟨_, rfl, rfl, rfl⟩
  obtain ⟨t, out, hstart, hleaves⟩ := dataStep_passes hname hmerge (Prod.ext hopen rfl) hpasses
  refine ⟨t, out, hresult ▸ hstart, hleaves.output, hleaves.rows_eq.trans hemitted, ?_⟩
  exact (hleaves.of_error _ hresult).2.1

end Session

end DataStep
