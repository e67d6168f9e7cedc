import DataStep.Proofs.Sort.Rows
import DataStep.Proofs.Sort.Selection
import DataStep.Proofs.Step.Driver

/-!
# The sort procedure

A sort looks up its input, selects rows, and stores what is left of them under the name of its
target (`finishSort`). Main statement: a sort succeeds exactly if the input is found, the filter has
a value on every row and the library of the target is declared, and it leaves the target and its
notes behind (`sortProc_start_eq_ok_iff`).
-/

set_option autoImplicit false

namespace DataStep

namespace SortProc

variable (p : SortProc) (selected : List Row)

/-- The name of the data set that a sort stores. -/
def target : String := p.output.getD p.input

/-- The selected rows in order. -/
def sorted : List Row := Row.sortBy p.keys selected

/-- The first row of every key text. -/
def unique : List Row := Row.firstOfEachKey p.keys [] (p.sorted selected)

/-- The rows that a sort stores. -/
def kept : List Row := if p.dropDuplicates then p.unique selected else p.sorted selected

/-- How many of the selected rows repeat a key text. -/
def repeats : Nat := (p.sorted selected).length - (p.unique selected).length

/-- The data set that a sort stores. -/
def result (name : String) (source : Dataset) : Dataset :=
  (Dataset.mk name source.columns []).replaceRows (p.kept selected)

/-- The note on what was stored. -/
def storedMessage (count : Nat) : String :=
  let shown := Text.upper p.target
  s!"The data set {shown} has {count} observations."

/-- The notes of a sort in their order: how many rows repeat a key text, and how many are stored. -/
def notes (repeats count : Nat) : List String :=
  (if p.reportDuplicates then
    [s!"{repeats} observations with duplicate key values were found."] else []) ++
  (if p.dropDuplicates then
    [s!"{repeats} observations with duplicate key values were deleted."] else []) ++
  [p.storedMessage count]

theorem mem_of_mem_kept {row : Row} (h : row ∈ p.kept selected) : row ∈ selected := by
  have hsorted : row ∈ p.sorted selected := by
    unfold kept at h
    split at h
    · exact (Row.sublist_firstOfEachKey p.keys [] (p.sorted selected)).subset h
    · exact h
  exact (Row.sortBy_perm p.keys selected).mem_iff.1 hsorted

/-- What a sort stores it would store again. -/
theorem kept_kept : p.kept (p.kept selected) = p.kept selected := by
  unfold kept unique sorted
  cases p.dropDuplicates with
  | false => exact Row.sortBy_sortBy p.keys selected
  | true =>
    rw [if_pos rfl, if_pos rfl, Row.sortBy_firstOfEachKey, Row.firstOfEachKey_firstOfEachKey]

/-- A data set that a sort stored is stored again as it is. -/
theorem result_result (name : String) (source : Dataset) :
    p.result (p.kept selected) name (p.result selected name source) =
      p.result selected name source := by
  rw [result, kept_kept]
  exact Dataset.replaceRows_replaceRows (Dataset.mk name source.columns []) (p.kept selected)

end SortProc

namespace Session

open Catalog (datasetKey)

variable {p : SortProc} {s t : Session} {source : Dataset} {selected : List Row} {ctx : Context}

/-! ## Parts of a sort -/

/-- Asking for the data set of a qualified name. -/
theorem dataset_start (qualified : String) (s : Session) : (dataset qualified).start s =
    .ok ((s.catalog.fetch (s.config.splitName qualified).1
      (s.config.splitName qualified).2).1.mapError .library, { s with catalog :=
          (s.catalog.fetch (s.config.splitName qualified).1
            (s.config.splitName qualified).2).2 }) := by
  rw [dataset, Run.start_bind_of_ok (splitName_start qualified s)]
  generalize s.config.splitName qualified = named
  obtain ⟨libref, name⟩ := named
  dsimp only
  rw [onCatalog, Run.start_bind_of_ok (onCatalog?_start _ s)]
  cases (s.catalog.fetch libref name).1 <;> rfl

/-- A data set is found where the catalog answers with it. -/
theorem dataset_start_eq_ok_iff {qualified : String} {ds : Dataset} :
    (dataset qualified).start s = .ok (.ok ds, t) ↔ ∃ cat,
      s.catalog.fetch (s.config.splitName qualified).1 (s.config.splitName qualified).2 =
        (.ok ds, cat) ∧
        t = { s with catalog := cat } := by
  rw [dataset_start]
  generalize s.catalog.fetch (s.config.splitName qualified).1
    (s.config.splitName qualified).2 = found
  obtain ⟨e | found, cat⟩ := found
  · constructor
    · intro h
      cases h
    · rintro ⟨cat', hfetch, -⟩
      cases hfetch
  · constructor
    · intro h
      cases h
      exact ⟨cat, rfl, rfl⟩
    · rintro ⟨cat', hfetch, rfl⟩
      cases hfetch
      rfl

/-- The selection of a sort. -/
def selection (p : SortProc) (rows : List Row) : ContextM (List Row) :=
  match p.filter with
  | some filter => selectRows filter rows
  | none => pure rows

/-- Stores what is left of the selected rows. -/
def storeSorted (p : SortProc) (source : Dataset) (selected : List Row) : SessionM Unit := do
  let (libref, name) ← splitName p.target
  onCatalog fun cat =>
    match cat.insert libref (p.result selected name source) with
    | .ok cat => (.ok (), cat)
    | .error e => (.error e, cat)
  note (p.storedMessage (p.kept selected).length)

/-- What a sort does with the rows that it selected. -/
def finishSort (p : SortProc) (source : Dataset) (selected : List Row) : SessionM Unit := do
  if p.reportDuplicates then note (duplicatesMessage (p.repeats selected) "found")
  if p.dropDuplicates then note (duplicatesMessage (p.repeats selected) "deleted")
  storeSorted p source selected

theorem sortProc_eq (p : SortProc) : sortProc p = (do
    let source ← dataset p.input
    let selected ← onContext (selection p source.rows)
    finishSort p source selected) := by
  unfold sortProc selection
  refine congrArg (dataset p.input >>= ·) (funext fun source => ?_)
  cases p.filter with
  | none => rfl
  | some filter => rfl

/-- A catalog with a data set stored under a name and made current. -/
def stored (cat : Catalog) (libref name : String) (ds : Dataset) : Catalog :=
  (cat.putNamed libref name ds).select (cat.libraryKey libref) (datasetKey name)

theorem storeSorted_start_eq_ok_iff : (storeSorted p source selected).start s = .ok (.ok (), t) ↔
    s.catalog.hasLibrary (s.config.splitName p.target).1 = true ∧
      t = { s with
        catalog := stored s.catalog (s.config.splitName p.target).1 (s.config.splitName p.target).2
          (p.result selected (s.config.splitName p.target).2 source)
        context := s.context.mapLog (Log.note · (p.storedMessage (p.kept selected).length)) } := by
  rw [storeSorted, Run.start_bind_of_ok (splitName_start p.target s)]
  generalize s.config.splitName p.target = named
  obtain ⟨libref, name⟩ := named
  dsimp only
  cases hlib : s.catalog.hasLibrary libref with
  | false =>
    have hinsert : s.catalog.insert libref (p.result selected name source) =
        .error (.unknownLibrary libref) := by rw [Catalog.insert, hlib]; rfl
    rw [Run.start_bind, onCatalog, Run.start_bind_of_ok (onCatalog?_start _ s), hinsert]
    simp
  | true =>
    have hinsert : s.catalog.insert libref (p.result selected name source) =
        .ok (stored s.catalog libref name (p.result selected name source)) :=
      Catalog.insert_eq_ok_iff.2 ⟨hlib, rfl⟩
    have hstored : (onCatalog fun cat =>
        match cat.insert libref (p.result selected name source) with
        | .ok cat => (.ok (), cat)
        | .error e => (.error e, cat)).start s =
        .ok (.ok (),
          { s with catalog := stored s.catalog libref name (p.result selected name source) }) :=
      onCatalog_start_of_ok (by rw [hinsert])
    rw [Run.start_bind_of_ok hstored, note, writeLog, Run.start_modify]
    constructor
    · intro h
      cases h
      exact ⟨rfl, rfl⟩
    · rintro ⟨-, rfl⟩
      rfl

/-- The message on repeated keys is its count and a text that does not depend on it. -/
theorem duplicatesMessage_eq (count : Nat) (done : String) : duplicatesMessage count done =
    s!"{count}" ++ (" observations with duplicate key values were " ++ done ++ ".") := by
  simp only [duplicatesMessage, String.append_assoc]
  rfl

/-- The notes on repeated keys come first. -/
theorem finishSort_start_eq_ok_iff : (finishSort p source selected).start s = .ok (.ok (), t) ↔
    s.catalog.hasLibrary (s.config.splitName p.target).1 = true ∧
      t = { s with
        catalog := stored s.catalog (s.config.splitName p.target).1 (s.config.splitName p.target).2
          (p.result selected (s.config.splitName p.target).2 source)
        context := s.context.mapLog
          ((p.notes (p.repeats selected) (p.kept selected).length).foldl Log.note) } := by
  have hnote : ∀ message (u : Session), (note message).start u =
      .ok (.ok (), u.mapContext (Context.mapLog (Log.note · message))) := fun _ _ => rfl
  unfold finishSort SortProc.notes
  rw [duplicatesMessage_eq, duplicatesMessage_eq]
  cases p.reportDuplicates with
  | false =>
    cases p.dropDuplicates with
    | false => exact storeSorted_start_eq_ok_iff
    | true =>
      rw [if_neg Bool.false_ne_true, if_pos rfl, Run.start_bind_of_ok (hnote _ s),
        storeSorted_start_eq_ok_iff]
      rfl
  | true =>
    rw [if_pos rfl, Run.start_bind_of_ok (hnote _ s)]
    cases p.dropDuplicates with
    | false =>
      refine Iff.trans storeSorted_start_eq_ok_iff ?_
      rfl
    | true =>
      rw [if_pos rfl, Run.start_bind_of_ok (hnote _ _), storeSorted_start_eq_ok_iff]
      rfl

/-- **What a sort that succeeds finds and leaves.** -/
theorem sortProc_start_eq_ok_iff : (sortProc p).start s = .ok (.ok (), t) ↔
    ∃ source base selected ctx,
      s.catalog.fetch (s.config.splitName p.input).1 (s.config.splitName p.input).2 =
        (.ok source, base) ∧
      (selection p source.rows).start s.context = .ok (.ok selected, ctx) ∧
      base.hasLibrary (s.config.splitName p.target).1 = true ∧
      t = { s with
        catalog := stored base (s.config.splitName p.target).1 (s.config.splitName p.target).2
          (p.result selected (s.config.splitName p.target).2 source)
        context := ctx.mapLog
          ((p.notes (p.repeats selected) (p.kept selected).length).foldl Log.note) } := by
  rw [sortProc_eq]
  constructor
  · intro h
    rcases Run.start_bind_eq_ok.1 h with ⟨e, -, he⟩ | ⟨source, u, hsource, hrest⟩
    · cases he
    · obtain ⟨base, hfetch, rfl⟩ := dataset_start_eq_ok_iff.1 hsource
      rcases Run.start_bind_eq_ok.1 hrest with ⟨e, -, he⟩ | ⟨selected, v, hselected, hfinish⟩
      · cases he
      · obtain ⟨ctx, hrows, rfl⟩ := onContext_start_eq_ok.1 hselected
        obtain ⟨hlib, rfl⟩ := finishSort_start_eq_ok_iff.1 hfinish
        exact ⟨source, base, selected, ctx, hfetch, hrows, hlib, rfl⟩
  · rintro ⟨source, base, selected, ctx, hfetch, hrows, hlib, rfl⟩
    have hselected : (onContext (selection p source.rows)).start { s with catalog := base } =
        .ok (.ok selected, { s with catalog := base, context := ctx }) :=
      onContext_start_eq_ok.2 ⟨ctx, hrows, rfl⟩
    refine (Run.start_bind_of_ok (dataset_start_eq_ok_iff.2 ⟨base, hfetch, rfl⟩)).trans ?_
    refine (Run.start_bind_of_ok hselected).trans ?_
    exact finishSort_start_eq_ok_iff.2 ⟨hlib, rfl⟩

end Session

end DataStep
