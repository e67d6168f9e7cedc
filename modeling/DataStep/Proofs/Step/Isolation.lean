import DataStep.Proofs.Body.Agreement
import DataStep.Proofs.Step.Agreement
import DataStep.Proofs.Step.Retained

/-!
# DATA steps on sessions with different pasts

A DATA step resets what earlier steps left in the context before it reads it, and each of its
passes begins with a row of its own. So it does the same in two sessions that agree in what it
does read: the settings, the catalog, the title, the BY variables and the arrays. Main
statement: `dataStep_isolated`.
-/

set_option autoImplicit false

namespace DataStep.Session

open Run (Agree Same)
open Context (Twins)

variable {α : Type} {log log' : Log} {listing listing' : Array String}

/-- Two sessions in which a step has done the same since two logs and two listings. -/
def Siblings (log log' : Log) (listing listing' : Array String) (s s' : Session) : Prop :=
  ∃ ctx options lines, Context.Siblings log log' s.context ctx ∧ s.listing = listing ++ lines ∧
    s' = { s with context := ctx, options, listing := listing' ++ lines }

/-! ## Parts of a step -/

/-- A run comes to the same in sessions in which a step has done the same. -/
abbrev Repeats (log log' : Log) (listing listing' : Array String) (act : SessionM α) : Prop :=
  Agree (Siblings log log' listing listing') act act

theorem repeats_onContext {act : ContextM α}
    (h : Agree (Context.Siblings log log') act act) :
    Repeats log log' listing listing' (onContext act) := by
  apply Agree.within h
  · rintro s _ ⟨ctx, options, lines, hctx, hlisting, rfl⟩
    exact hctx
  · rintro s _ u v ⟨ctx, options, lines, hctx, hlisting, rfl⟩ huv
    exact ⟨v, options, lines, huv, hlisting, rfl⟩

theorem repeats_onCatalog (f : Catalog → Except LibraryError α × Catalog) :
    Repeats log log' listing listing' (onCatalog f) := by
  apply Agree.bind
  · apply Agree.result
    rintro s _ ⟨ctx, options, lines, hctx, hlisting, rfl⟩
    exact ⟨rfl, ctx, options, lines, hctx, hlisting, rfl⟩
  · intro r
    cases r with
    | ok a => exact .pure a
    | error e => exact .throw _

theorem repeats_note (message : String) : Repeats log log' listing listing' (note message) := by
  apply Agree.modify
  rintro s _ ⟨ctx, options, lines, ⟨row, hctx⟩, hlisting, rfl⟩
  have hpush : Twins log log' _ _ := hctx.push ⟨.note, message⟩
  exact ⟨ctx.mapLog (Log.note · message), options, lines, ⟨row, hpush⟩, hlisting, rfl⟩

theorem repeats_writeListing (more : List String) :
    Repeats log log' listing listing' (writeListing more) := by
  apply Agree.modify
  rintro s _ ⟨ctx, options, lines, hctx, hlisting, rfl⟩
  have hmore : ∀ before : Array String, before ++ lines ++ more = before ++ (lines ++ more) := by
    intro before
    apply Array.ext'
    simp
  refine ⟨ctx, options, lines ++ more, hctx, ?_, ?_⟩
  · change s.listing ++ more = _
    rw [hlisting, hmore]
  · rw [← hmore]

/-- What a step does it does in both sessions, whatever data sets it asks for. -/
theorem siblings_stepRelation :
    StepRelation (Siblings log log' listing listing') (fun _ => True) fun _ _ => True where
  config_eq := by
    rintro s _ ⟨ctx, options, lines, hctx, hlisting, rfl⟩
    rfl
  title_eq := by
    rintro s _ ⟨ctx, options, lines, hctx, hlisting, rfl⟩
    rfl
  byVariables_eq := by
    rintro s _ ⟨ctx, options, lines, hctx, hlisting, rfl⟩
    rfl
  named _ _ _ := trivial
  note := repeats_note
  list := repeats_writeListing
  setBy vars := by
    apply Agree.modify
    rintro s _ ⟨ctx, options, lines, hctx, hlisting, rfl⟩
    exact ⟨ctx, options, lines, hctx, hlisting, rfl⟩
  fetch _ := repeats_onCatalog _
  update _ _ := repeats_onCatalog _

/-! ## The step -/

/-- What a DATA step reads of a session that it did not write itself. -/
structure SameGround (s s' : Session) : Prop where
  config_eq : s'.config = s.config
  /-- The catalog with its files. -/
  catalog_eq : s'.catalog = s.catalog
  title_eq : s'.title = s.title
  byVariables_eq : s'.byVariables = s.byVariables
  arrays_eq : s'.context.arrays = s.context.arrays

/-- What a step did in two sessions is the same: it leaves one catalog, and has added the same
entries to their logs and the same lines to their listings. -/
structure SameWork (s s' t t' : Session) : Prop where
  catalog_eq : t'.catalog = t.catalog
  log_eq : ∃ entries : Log, t.context.log = s.context.log ++ entries ∧
    t'.context.log = s'.context.log ++ entries
  listing_eq : ∃ lines : Array String, t.listing = s.listing ++ lines ∧
    t'.listing = s'.listing ++ lines

variable {passes : Nat} {header : StepHeader} {body : List Statement} {s s' t t' : Session}

theorem Siblings.sameWork (h : Siblings s.context.log s'.context.log s.listing s'.listing t t') :
    SameWork s s' t t' := by
  obtain ⟨ctx, options, lines, ⟨row, entries, day, hlog, hctx⟩, hlisting, rfl⟩ := h
  have hlog' := congrArg Context.log hctx
  exact ⟨rfl, ⟨entries, hlog, hlog'⟩, ⟨lines, hlisting, rfl⟩⟩

/-- A step looks up its input and its output in what the sessions share. -/
theorem SameGround.opening_eq (h : SameGround s s') (merges : Bool) :
    opening header merges s' = opening header merges s := by
  unfold opening source
  rw [h.config_eq, h.catalog_eq]

/-- A step that is refused in both sessions has done the same. -/
theorem refuse_same (s s' : Session) (cat : Catalog) (e : LibraryError) :
    Same (SameWork s s') ((refuse header e).start { s with catalog := cat })
      ((refuse header e).start { s' with catalog := cat }) := by
  refine .ends (.ok ()) ⟨rfl, ⟨#[⟨.error, _⟩], rfl, rfl⟩, ⟨#[], ?_, ?_⟩⟩
  · exact (Array.append_empty).symm
  · exact (Array.append_empty).symm

/-- Once the context is reset, sessions on the same ground differ in nothing that a step reads. -/
theorem SameGround.siblings_reset (h : SameGround s s') (opened : Catalog) :
    Siblings s.context.log s'.context.log s.listing s'.listing
      ({ s with catalog := opened }.mapContext resetContext)
      ({ s' with catalog := opened }.mapContext resetContext) := by
  obtain ⟨hconfig, -, htitle, hvariables, harrays⟩ := h
  -- the rows still differ: a reset keeps the row in the making, and each pass replaces it
  refine ⟨resetContext s'.context, s'.options, #[],
    ⟨s.context.row, #[], s'.context.currentDay, ?_, ?_⟩, (Array.append_empty).symm, ?_⟩
  · exact (Array.append_empty).symm
  · rw [Array.append_empty]
    unfold resetContext
    rw [harrays]
    rfl
  · rw [Array.append_empty]
    unfold mapContext
    rw [hconfig, htitle, hvariables]

/-- An opened step does the same in both sessions. -/
theorem SameGround.runOpened_same (h : SameGround s s')
    (htoday : Statement.anyUsesToday body = false) (opened : Catalog) (rows : List Row) :
    Same (SameWork s s') ((runOpened passes header body rows).start { s with catalog := opened })
      ((runOpened passes header body rows).start { s' with catalog := opened }) := by
  have hrest : ∀ libref name, Repeats s.context.log s'.context.log s.listing s'.listing (do
      if body.any isMerge then mergeIntoOutput libref name body
      rows.forM (passRow passes libref name body)
      reportOutput libref name) := fun _ _ =>
    siblings_stepRelation.afterReset trivial (fun _ _ _ _ => trivial) fun _ row =>
      repeats_onContext (Context.pass_agrees htoday row)
  have hname : s'.config.splitName header.output = s.config.splitName header.output := by
    rw [h.config_eq]
  unfold runOpened
  rw [Run.start_bind_of_ok (splitName_start _ _), Run.start_bind_of_ok (splitName_start _ _)]
  dsimp only
  rw [hname, Run.start_bind_of_ok (Run.start_modify _ _),
    Run.start_bind_of_ok (Run.start_modify _ _)]
  generalize s.config.splitName header.output = qualified
  obtain ⟨libref, name⟩ := qualified
  exact (hrest libref name (h.siblings_reset opened)).mono fun _ _ => Siblings.sameWork

/-- **A DATA step that does not call `today` does the same in all sessions on the same ground**:
whatever rows, retained values, bookkeeping, loops, options, logs and listings earlier steps have
left, it halts alike, or it ends with the same result and has done the same. -/
theorem dataStep_isolated (hground : SameGround s s')
    (htoday : Statement.anyUsesToday body = false) :
    Same (SameWork s s') ((dataStep passes header body).start s)
      ((dataStep passes header body).start s') := by
  -- the step is opened before the context is reset, and that reads only the shared ground
  rw [dataStep_start, dataStep_start, hground.opening_eq]
  generalize opening header (body.any isMerge) s = result
  obtain ⟨e | rows, cat⟩ := result
  · exact refuse_same s s' cat e
  · exact hground.runOpened_same htoday cat rows

/-- A session whose last step failed in a loop in a loop and had retained a total. -/
def afterFailure : Session :=
  { withTotal with
    context := { withTotal.context with
      row := .ofList [("k", .number (.ofNat 7)), ("total", .number (.ofNat 50))]
      saved := .ofList [("total", .number (.ofNat 50))]
      step := ⟨true, some ["k"], none, ["total"], ["total"]⟩
      loops := [2, 1]
      log := #[⟨.error, RunError.unmatchedEnd.message⟩]
      currentDay := 9 }
    options := .ofList [("nodate", "")]
    listing := #["Obs"] }

/-- Control: after the failure a step that totals begins from nothing, as it
does in a new session. -/
theorem dataStep_isolated_afterFailure : ∃ t,
    (dataStep 1 ⟨"b", some "a", [], []⟩ totalling).start afterFailure = .ok (.ok (), t) ∧
      (t.catalog.named? "" "b").map (·.rows) = some
        [.ofList [("k", .number (.ofNat 1)), ("total", .number (.ofNat 1))],
          .ofList [("k", .number (.ofNat 2)), ("total", .number (.ofNat 3))]] := by
  have hnew : ((dataStep 1 ⟨"b", some "a", [], []⟩ totalling).start withTotal).toOption.bind
      (fun result => result.1.toOption.bind fun _ =>
        (result.2.catalog.named? "" "b").map (·.rows)) = some
        [.ofList [("k", .number (.ofNat 1)), ("total", .number (.ofNat 1))],
          .ofList [("k", .number (.ofNat 2)), ("total", .number (.ofNat 3))]] := by
    decide +kernel
  obtain ⟨r, u, hstart, hrows⟩ := Run.exists_start_eq_ok hnew
  have hground : SameGround withTotal afterFailure := ⟨rfl, rfl, rfl, rfl, rfl⟩
  have htoday : Statement.anyUsesToday totalling = false := by decide +kernel
  have hsame : Same (SameWork withTotal afterFailure) (.ok (r, u))
      ((dataStep 1 ⟨"b", some "a", [], []⟩ totalling).start afterFailure) :=
    hstart ▸ dataStep_isolated hground htoday
  obtain ⟨t, ht, hwork⟩ := hsame.of_ok
  cases r with
  | error e => cases hrows
  | ok _ => exact ⟨t, ht, hwork.catalog_eq ▸ hrows⟩

end DataStep.Session
