import DataStep.Proofs.Sort.Procedure
import Mathlib

/-!
# What a sort leaves behind

A sort that succeeds stores the stable sort of the rows that its filter takes, or the first row of
every key text of it, and leaves everything else in memory as it was (`SortOutcome`). A sort of a
data set in place has nothing left to do the second time. Main statement: every sort that succeeds
has this outcome (`sortProc_outcome`).
-/

set_option autoImplicit false

namespace DataStep

/-- Notes go to the end of the log. -/
theorem Log.toList_foldl_note (log : Log) (messages : List String) :
    (messages.foldl Log.note log).toList = log.toList ++ messages.map (⟨.note, ·⟩) := by
  induction messages generalizing log with
  | nil => simp
  | cons message messages ih =>
    rw [List.foldl_cons, ih, Log.note, Array.toList_push, List.append_assoc, List.map_cons]
    rfl

namespace Session

variable {p : SortProc} {s t : Session} {source : Dataset} {rows selected : List Row} {row : Row}
  {ctx ctx' : Context}

/-! ## Selection -/

/-- A row is taken where the filter has a number other than zero or a text that is not empty as its
value, or where there is no filter. -/
def Takes (filter : Option Expr) (ctx : Context) (row : Row) : Prop :=
  ∀ e, filter = some e → ∃ v, e.value? (ctx.rowScope row) = some v ∧
    ((∃ n : Number, v = .number n ∧ n.isZero = false) ∨ ∃ text, v = .text text ∧ text ≠ "")

/-- Whether a sort takes a row. -/
def taken (p : SortProc) (ctx : Context) (row : Row) : Bool :=
  p.filter.all fun filter => isSelected filter ctx row

theorem taken_iff : taken p ctx row = true ↔ Takes p.filter ctx row := by
  unfold taken Takes
  cases p.filter with
  | none => simp
  | some filter =>
    simp only [Option.all_some, isSelected, Option.any_eq_true, Option.some.injEq, forall_eq',
      selects_iff]

/-- The selection of a sort. -/
theorem of_selection (h : (selection p rows).start ctx = .ok (.ok selected, ctx')) :
    selected = rows.filter (taken p ctx) ∧ Visited ctx ctx' := by
  unfold selection at h
  unfold taken
  cases hfilter : p.filter with
  | none =>
    rw [hfilter] at h
    cases h
    exact ⟨(List.filter_eq_self.2 fun _ _ => rfl).symm, .refl _⟩
  | some filter =>
    rw [hfilter] at h
    have hselection := selection_of_selectRows h
    exact ⟨hselection.selected_eq, hselection.visited⟩

/-- Rows that a sort takes are selected, all of them. -/
theorem exists_selection_of_taken (h : ∀ row ∈ rows, taken p ctx row = true) :
    ∃ ctx', (selection p rows).start ctx = .ok (.ok rows, ctx') := by
  have hall : rows.filter (taken p ctx) = rows := List.filter_eq_self.2 h
  suffices hselects : ∃ selected ctx', (selection p rows).start ctx = .ok (.ok selected, ctx') by
    obtain ⟨selected, ctx', hselected⟩ := hselects
    have hrows := (of_selection hselected).1
    exact ⟨ctx', by rw [hselected, hrows, hall]⟩
  unfold selection
  unfold taken at h
  cases hfilter : p.filter with
  | none => exact ⟨rows, ctx, rfl⟩
  | some filter =>
    apply exists_selectRows
    intro row hrow
    have htaken := h row hrow
    rw [hfilter, Option.all_some, isSelected, Option.any_eq_true] at htaken
    obtain ⟨v, hv, -⟩ := htaken
    rw [hv]
    rfl

/-! ## The outcome -/

/-- The keys of a qualified name. -/
def keysFor (s : Session) (qualified : String) : String × String :=
  s.catalog.keysOf (s.config.splitName qualified)

/-- What a sort that succeeds leaves behind. -/
structure SortOutcome (p : SortProc) (s t : Session) (source : Dataset)
    (selected sorted unique : List Row) (stored : Dataset) : Prop where
  source_eq :
    (s.catalog.fetch (s.config.splitName p.input).1 (s.config.splitName p.input).2).1 = .ok source
  /-- The rows that are selected are exactly those that the filter takes, unchanged and in order. -/
  selected_eq : ∃ takes : Row → Bool, selected = source.rows.filter takes ∧
    ∀ row ∈ source.rows, takes row = true ↔ Takes p.filter s.context row
  sorts : Row.StablySorts p.keys selected sorted
  firsts : Row.FirstsOf (Row.SameKeyText p.keys) sorted unique
  rows_eq : stored.rows = if p.dropDuplicates then unique else sorted
  /-- Only columns of the rows that the input does not declare are declared behind its own. -/
  columns_eq : ∃ extra, stored.columns = source.columns ++ extra ∧
    ∀ name ∈ extra, name ∉ source.columns ∧ ∃ row ∈ stored.rows, name ∈ row.keys
  target : t.catalog.at? (s.keysFor p.target) = some stored
  log_eq : ∃ warnings : List LogEntry, (∀ e ∈ warnings, e.severity = .warning) ∧
    t.context.log.toList = s.context.log.toList ++ warnings ++
      (p.notes (sorted.length - unique.length) stored.size).map (⟨.note, ·⟩)
  /-- An input in memory is sorted as it is there. -/
  input_read : ∀ ds, s.catalog.at? (s.keysFor p.input) = some ds → source = ds
  input_stays : s.keysFor p.input ≠ s.keysFor p.target →
    t.catalog.at? (s.keysFor p.input) = some source
  /-- Other data sets stay as they are. -/
  others_stay : ∀ k, k ≠ s.keysFor p.target → k ≠ s.keysFor p.input →
    t.catalog.at? k = s.catalog.at? k
  current_eq : t.catalog.current = some (s.keysFor p.target)
  /-- A second sort in place leaves the data set as it is. -/
  again : s.keysFor p.input = s.keysFor p.target → ∃ u, (sortProc p).start t = .ok (.ok (), u) ∧
    u.catalog.at? (s.keysFor p.target) = t.catalog.at? (s.keysFor p.target)

/-! ## Storing the result -/

section Storing

variable {base : Catalog} (hfetch : s.catalog.fetch (s.config.splitName p.input).1
    (s.config.splitName p.input).2 = (.ok source, base))

include hfetch

/-- Looking up the input leaves the libraries as they are. -/
theorem sameSources_of_fetch : Catalog.SameSources s.catalog base := by
  have hputs := s.catalog.puts_fetch (D := fun _ => True) (fun _ _ => trivial)
    (s.config.splitName p.input).1 (s.config.splitName p.input).2
  rw [hfetch] at hputs
  exact hputs.sameSources

theorem keysOf_target : base.keysOf (s.config.splitName p.target) = s.keysFor p.target :=
  (sameSources_of_fetch hfetch).keysOf_eq (s.config.splitName p.target)

/-- What lies under other keys than those of the target was there after the input was looked up. -/
theorem at?_stored_of_ne {ds : Dataset} {k : String × String} (h : k ≠ s.keysFor p.target) :
    (stored base (s.config.splitName p.target).1 (s.config.splitName p.target).2 ds).at? k =
      base.at? k := by
  rw [← keysOf_target hfetch] at h
  exact Catalog.at?_putNamed_of_ne h

theorem at?_stored_target {ds : Dataset}
    (hlib : base.hasLibrary (s.config.splitName p.target).1 = true) :
    (stored base (s.config.splitName p.target).1 (s.config.splitName p.target).2 ds).at?
      (s.keysFor p.target) = some ds := by
  rw [← keysOf_target hfetch]
  exact Catalog.find?_put_self hlib

theorem at?_input : base.at? (s.keysFor p.input) = some source := by
  have hkeys : base.keysOf (s.config.splitName p.input) = s.keysFor p.input :=
    (sameSources_of_fetch hfetch).keysOf_eq (s.config.splitName p.input)
  rw [← hkeys]
  exact Catalog.named?_fetch hfetch

theorem source_eq_of_at? {ds : Dataset}
    (h : s.catalog.at? (s.keysFor p.input) = some ds) : source = ds := by
  rw [Catalog.fetch_of_named? h, Prod.mk.injEq] at hfetch
  exact (Except.ok.inj hfetch.1).symm

/-- A sort of its own result finds nothing to select, to order or to leave out. -/
theorem exists_sortProc_again (hselected : selected = source.rows.filter (taken p s.context))
    (hvisited : Visited s.context ctx)
    (hlib : base.hasLibrary (s.config.splitName p.target).1 = true)
    (hkeys : s.keysFor p.input = s.keysFor p.target)
    (ht : t = { s with
      catalog := stored base (s.config.splitName p.target).1 (s.config.splitName p.target).2
        (p.result selected (s.config.splitName p.target).2 source)
      context :=
        ctx.mapLog ((p.notes (p.repeats selected) (p.kept selected).length).foldl Log.note) }) :
    ∃ u, (sortProc p).start t = .ok (.ok (), u) ∧
      u.catalog.at? (s.keysFor p.target) = t.catalog.at? (s.keysFor p.target) := by
  have hconfig : t.config = s.config := by rw [ht]
  have hcatalog : t.catalog = stored base (s.config.splitName p.target).1
      (s.config.splitName p.target).2
        (p.result selected (s.config.splitName p.target).2 source) := by
    rw [ht]
  have hstored : Catalog.SameSources base t.catalog := by
    rw [hcatalog]
    exact ((Catalog.Puts.refl (D := fun _ => True)).put _ _ trivial).select _ _ |>.sameSources
  have hkeysFor : ∀ qualified, t.keysFor qualified = s.keysFor qualified := by
    intro qualified
    rw [keysFor, keysFor, hstored.keysOf_eq, (sameSources_of_fetch hfetch).keysOf_eq, hconfig]
  have htarget : t.catalog.at? (s.keysFor p.target) =
      some (p.result selected (s.config.splitName p.target).2 source) := by
    rw [hcatalog]
    exact at?_stored_target hfetch hlib
  have hfound : t.catalog.fetch (t.config.splitName p.input).1 (t.config.splitName p.input).2 =
      (.ok (p.result selected (s.config.splitName p.target).2 source), t.catalog) := by
    apply Catalog.fetch_of_named?
    have hinput : t.catalog.at? (t.keysFor p.input) =
        some (p.result selected (s.config.splitName p.target).2 source) := by
      rw [hkeysFor, hkeys, htarget]
    exact hinput
  -- the filter sees what it saw, so it takes all that is left
  have htaken : ∀ row ∈ p.kept selected, taken p t.context row = true := by
    intro row hrow
    have hmem := p.mem_of_mem_kept selected hrow
    rw [hselected] at hmem
    have hsame : taken p t.context row = taken p s.context row := by
      obtain ⟨row', log, rfl, -⟩ := hvisited
      rw [ht]
      rfl
    rw [hsame]
    exact (List.mem_filter.1 hmem).2
  obtain ⟨ctx', hagain⟩ := exists_selection_of_taken htaken
  have hlib' : t.catalog.hasLibrary (t.config.splitName p.target).1 = true := by
    rw [hstored.hasLibrary_eq, hconfig]
    exact hlib
  refine ⟨_, sortProc_start_eq_ok_iff.2 ⟨_, t.catalog, p.kept selected, ctx',
    hfound, hagain, hlib', rfl⟩, ?_⟩
  dsimp only
  rw [htarget, ← hkeysFor, at?_stored_target hfound hlib', hconfig, p.result_result]

end Storing

/-- **A sort that succeeds stores the sorted rows that its filter takes, says how many rows repeat a
key, and leaves the other data sets as they are.** -/
theorem sortProc_outcome (h : (sortProc p).start s = .ok (.ok (), t)) :
    ∃ source selected sorted unique stored,
      SortOutcome p s t source selected sorted unique stored := by
  obtain ⟨source, base, selected, ctx, hfetch, hselection, hlib, rfl⟩ :=
    sortProc_start_eq_ok_iff.1 h
  obtain ⟨hselected, hvisited⟩ := of_selection hselection
  refine ⟨source, selected, p.sorted selected, p.unique selected,
    p.result selected (s.config.splitName p.target).2 source, ?_⟩
  exact
    { source_eq := congrArg Prod.fst hfetch
      selected_eq := ⟨taken p s.context, hselected, fun _ _ => taken_iff⟩
      sorts := Row.stablySorts_sortBy p.keys selected
      firsts := Row.firstsOf_firstOfEachKey p.keys (p.sorted selected)
      rows_eq := rfl
      columns_eq := Dataset.exists_columns_replaceRows _ (p.kept selected)
      target := at?_stored_target hfetch hlib
      log_eq := by
        obtain ⟨row, log, rfl, warnings, hlog, hwarnings⟩ := hvisited
        refine ⟨warnings, hwarnings, ?_⟩
        rw [← hlog, ← Log.toList_foldl_note]
        rfl
      input_read := fun _ => source_eq_of_at? hfetch
      input_stays := fun hne => (at?_stored_of_ne hfetch hne).trans (at?_input hfetch)
      others_stay := fun k htarget hinput =>
        (at?_stored_of_ne hfetch htarget).trans (Catalog.at?_fetch_of_ne hfetch hinput)
      current_eq := congrArg some (keysOf_target hfetch)
      again := fun hkeys => exists_sortProc_again hfetch hselected hvisited hlib hkeys rfl }

/-- A row with a number, and one with a text behind the number one. -/
def numberRow (n : Nat) : Row := .ofList [("x", .number (.ofNat n))]

def textRow (y : String) : Row := .ofList [("x", .number (.ofNat 1)), ("y", .text y)]

/-- A session with four rows, one of them with a zero. -/
def fourRows : Session :=
  holding .standard "a" [numberRow 2, textRow "first", numberRow 0, textRow "second"]

/-- Sorts the rows with a number other than zero into another data set, without repeated keys. -/
def filteredSort : SortProc := ⟨"a", some "b", ["x"], some (.variable "x"), true, true⟩

/-- Control: the filter takes three of four rows, two of these repeat a key, and the
first of the two is stored in front of the third. The log says that one row repeats a
key, and that it was deleted. -/
theorem sortProc_outcome_filtered : ∃ t, (sortProc filteredSort).start fourRows = .ok (.ok (), t) ∧
    ∃ source selected sorted unique stored, stored.rows = [textRow "first", numberRow 2] ∧
      t.context.log.toList.map (·.message) =
        ["1 observations with duplicate key values were found.",
          "1 observations with duplicate key values were deleted.",
          "The data set B has 2 observations."] ∧
      SortOutcome filteredSort fourRows t source selected sorted unique stored := by
  have hend : ((sortProc filteredSort).start fourRows).toOption.bind (fun result =>
      result.1.toOption.bind fun _ => (result.2.catalog.at? ("WORK", "b")).map fun ds =>
        (ds.rows, result.2.context.log.toList.map (·.message))) =
      some ([textRow "first", numberRow 2],
        ["1 observations with duplicate key values were found.",
          "1 observations with duplicate key values were deleted.",
          "The data set B has 2 observations."]) := by cbv
  have hkeys : fourRows.keysFor filteredSort.target = ("WORK", "b") := by cbv
  obtain ⟨r, t, hrun, hstored⟩ := Run.exists_start_eq_ok hend
  cases r with
  | error e => cases hstored
  | ok u =>
    obtain ⟨source, selected, sorted, unique, stored, houtcome⟩ := sortProc_outcome hrun
    have htarget := houtcome.target
    rw [hkeys] at htarget
    simp only [Except.toOption, Option.bind_some, htarget, Option.map_some, Option.some.injEq,
      Prod.mk.injEq] at hstored
    exact ⟨t, hrun, source, selected, sorted, unique, stored, hstored.1, hstored.2, houtcome⟩

end Session

end DataStep
