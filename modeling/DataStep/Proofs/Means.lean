import DataStep.Procedure
import DataStep.Proofs.Sort.Procedure
import Mathlib.Algebra.BigOperators.Group.List.Lemmas
import Mathlib.Algebra.Order.Ring.Nat
import Mathlib.Data.List.Perm.Basic

/-!
# The means procedure

Which columns are summarized and how many numbers are counted in each of them are two passes over
the rows. They agree because both ask which cells hold a number (`Row.holdsNumber`): the count of a
summary is the number of rows in which its column does (`Dataset.length_numbers`), and the columns
that are summarized are those in which some row does (`Dataset.mem_numericColumns`).

Main statement: without variables, the means procedure lists summaries that tally the data set
(`Session.meansProc_tallies`): one for each column with a number, in the order of the columns, and
every cell with a number is counted in exactly one of them (`Dataset.Tallied`).
-/

set_option autoImplicit false

namespace DataStep

/-! ## Counting pairs -/

section Counting

variable {α β : Type}

theorem countP_eq_sum (p : α → Bool) (xs : List α) :
    xs.countP p = (xs.map fun x => if p x then 1 else 0).sum := by
  induction xs with
  | nil => rfl
  | cons x xs ih => simp [List.countP_cons, ih, Nat.add_comm]

/-- **Related pairs are counted by their first and by their second parts alike.** -/
theorem sum_countP_comm (r : α → β → Bool) (xs : List α) (ys : List β) :
    (xs.map fun x => ys.countP (r x)).sum = (ys.map fun y => xs.countP fun x => r x y).sum := by
  induction xs with
  | nil => simp
  | cons x xs ih =>
    -- the pairs of one more item are counted along with those of the others
    simp only [List.map_cons, List.sum_cons, List.countP_cons, List.sum_map_add,
      ih, countP_eq_sum (r x) ys]
    exact Nat.add_comm _ _

end Counting

/-! ## Cells with numbers -/

namespace Row

/-- Whether a row holds a number in a column. A text that spells a number is none. -/
def holdsNumber (row : Row) (column : String) : Bool := (row.get? column).any Value.isNumber

/-- How many cells of a row hold numbers. -/
def numberCount (row : Row) : Nat := row.entries.countP fun cell => cell.2.isNumber

theorem holdsNumber_iff {row : Row} {column : String} :
    holdsNumber row column = true ↔ ∃ n, row.get? column = some (.number n) := by
  rw [holdsNumber]
  cases row.get? column with
  | none => simp
  | some v => cases v <;> simp [Value.isNumber]

/-- Columns without repetitions that have all columns with numbers count the cells of a row. -/
theorem countP_holdsNumber {row : Row} {columns : List String} (hnodup : columns.Nodup)
    (hall : ∀ column, holdsNumber row column = true → column ∈ columns) :
    columns.countP (holdsNumber row) = numberCount row := by
  have hcells : ((row.entries.filter fun cell => cell.2.isNumber).map (·.1)).Nodup :=
    row.distinct.sublist (List.Sublist.map _ List.filter_sublist)
  -- both are the columns in which the row holds a number
  have hperm : (columns.filter (holdsNumber row)).Perm
      ((row.entries.filter fun cell => cell.2.isNumber).map (·.1)) := by
    refine (List.perm_ext_iff_of_nodup (hnodup.filter _) hcells).2 fun column => ?_
    rw [List.mem_filter, List.mem_map]
    constructor
    · rintro ⟨-, hholds⟩
      obtain ⟨n, hn⟩ := holdsNumber_iff.1 hholds
      exact ⟨(column, .number n), List.mem_filter.2 ⟨OrderedMap.get?_eq_some_iff.1 hn, rfl⟩, rfl⟩
    · rintro ⟨⟨name, v⟩, hmem, rfl⟩
      obtain ⟨hentry, hnumber⟩ := List.mem_filter.1 hmem
      have hholds : holdsNumber row name = true := by
        rw [holdsNumber, OrderedMap.get?_eq_some_iff.2 hentry]
        exact hnumber
      exact ⟨hall name hholds, hholds⟩
  rw [List.countP_eq_length_filter, hperm.length_eq, List.length_map, numberCount,
    List.countP_eq_length_filter]

end Row

namespace Dataset

open Row (holdsNumber numberCount)

variable {ds : Dataset} {column : String}

/-- The numbers of a column are counted by rows. -/
theorem length_numbers (ds : Dataset) (column : String) :
    (ds.numbers column).length = ds.rows.countP fun row => holdsNumber row column := by
  rw [numbers, List.length_filterMap_eq_countP]
  refine List.countP_congr fun row _ => ?_
  rw [holdsNumber]
  cases row.get? column with
  | none => simp
  | some v => cases v <;> simp [Value.isNumber]

theorem mem_numericColumns :
    column ∈ ds.numericColumns ↔
      column ∈ ds.columns ∧ ∃ row ∈ ds.rows, holdsNumber row column = true := by
  rw [numericColumns, List.mem_filter, Bool.not_eq_true',
    List.isEmpty_eq_false_iff, ← List.length_pos_iff, length_numbers, List.countP_pos_iff]

/-- In a data set that is represented every number stands in a declared column. -/
theorem Represented.mem_numericColumns_iff (h : ds.Represented) :
    column ∈ ds.numericColumns ↔ ∃ row ∈ ds.rows, holdsNumber row column = true := by
  rw [mem_numericColumns]
  constructor
  · rintro ⟨-, hholds⟩
    exact hholds
  · rintro ⟨row, hrow, hholds⟩
    -- a column of a row is declared
    obtain ⟨n, hn⟩ := Row.holdsNumber_iff.1 hholds
    have hkey : column ∈ row.keys := List.mem_map_of_mem (OrderedMap.get?_eq_some_iff.1 hn)
    exact ⟨h.declared row hrow column hkey, row, hrow, hholds⟩

/-! ## Summaries -/

/-- **Summaries tally the numbers of a data set.** -/
structure Tallied (ds : Dataset) (summaries : List Summary) : Prop where
  /-- No column has two summaries. -/
  distinct : (summaries.map (·.name)).Nodup
  ordered : (summaries.map (·.name)).Sublist ds.columns
  mem_iff : ∀ column, column ∈ summaries.map (·.name) ↔
    ∃ row ∈ ds.rows, ∃ n, row.get? column = some (.number n)
  count_eq : ∀ s ∈ summaries, s.count = ds.rows.countP fun row => holdsNumber row s.name
  count_pos : ∀ s ∈ summaries, 1 ≤ s.count
  /-- The line of a summary shows a mean, whatever the text of a missing value is. -/
  line_eq : ∀ s ∈ summaries, ∃ m, s.mean = some m ∧ ∀ missingText,
    s.line missingText = "\t".intercalate [s.name, toString s.count, String.ofList (m.fixed 2)]
  /-- Every cell with a number has one summary. -/
  exists_unique : ∀ row ∈ ds.rows, ∀ column n, (column, Value.number n) ∈ row.entries →
    ∃! s, s ∈ summaries ∧ s.name = column
  sum_count : (summaries.map (·.count)).sum = (ds.rows.map numberCount).sum

/-- **The summaries of the columns with numbers tally a data set that is represented.** -/
theorem Represented.tallied (h : ds.Represented) : ds.Tallied (ds.summarize ds.numericColumns) := by
  have hnames : (ds.summarize ds.numericColumns).map (·.name) = ds.numericColumns := by
    rw [summarize, List.map_map]
    exact List.map_id _
  have hsublist : ds.numericColumns.Sublist ds.columns := List.filter_sublist
  have hnodup : ds.numericColumns.Nodup := h.columns_nodup.sublist hsublist
  have hsummary : ∀ s ∈ ds.summarize ds.numericColumns, ∃ column ∈ ds.numericColumns,
      s = ds.summary column := by
    intro s hs
    obtain ⟨column, hcolumn, rfl⟩ := List.mem_map.1 hs
    exact ⟨column, hcolumn, rfl⟩
  have hpos : ∀ column ∈ ds.numericColumns, 0 < (ds.numbers column).length := by
    intro column hcolumn
    rw [length_numbers, List.countP_pos_iff]
    exact (mem_numericColumns.1 hcolumn).2
  constructor
  case distinct => rwa [hnames]
  case ordered => rwa [hnames]
  case mem_iff =>
    intro column
    rw [hnames, h.mem_numericColumns_iff]
    simp only [Row.holdsNumber_iff]
  case count_eq =>
    intro s hs
    obtain ⟨column, -, rfl⟩ := hsummary s hs
    exact length_numbers ds column
  case count_pos =>
    intro s hs
    obtain ⟨column, hcolumn, rfl⟩ := hsummary s hs
    exact hpos column hcolumn
  case line_eq =>
    intro s hs
    obtain ⟨column, hcolumn, rfl⟩ := hsummary s hs
    have hsome : (ds.numbers column).isEmpty = false := by
      rw [List.isEmpty_eq_false_iff, ← List.length_pos_iff]
      exact hpos column hcolumn
    have hmean : (ds.summary column).mean =
        some (((ds.numbers column).foldl Number.add (.zero false)).div
        (.ofNat (ds.numbers column).length)) := by
      rw [summary, hsome]
      rfl
    refine ⟨_, hmean, fun missingText => ?_⟩
    rw [Summary.line, hmean]
  case exists_unique =>
    intro row hrow column n hmem
    have hholds : holdsNumber row column = true :=
      Row.holdsNumber_iff.2 ⟨n, OrderedMap.get?_eq_some_iff.2 hmem⟩
    have hcolumn := h.mem_numericColumns_iff.2 ⟨row, hrow, hholds⟩
    refine ⟨ds.summary column, ⟨List.mem_map_of_mem hcolumn, rfl⟩, ?_⟩
    rintro s ⟨hs, rfl⟩
    obtain ⟨other, -, rfl⟩ := hsummary s hs
    rfl
  case sum_count =>
    -- counted by columns first, and then by rows
    have hcounts : (ds.summarize ds.numericColumns).map (·.count) =
        ds.numericColumns.map fun column => ds.rows.countP fun row => holdsNumber row column := by
      rw [summarize, List.map_map]
      exact List.map_congr_left fun column _ => length_numbers ds column
    rw [hcounts, sum_countP_comm fun column row => holdsNumber row column]
    refine congrArg List.sum (List.map_congr_left fun row hrow => ?_)
    exact Row.countP_holdsNumber hnodup fun column hholds =>
      h.mem_numericColumns_iff.2 ⟨row, hrow, hholds⟩

end Dataset

/-! ## The procedure -/

namespace Session

variable {s u : Session} {qualified : String} {ds : Dataset}

/-- The lines that the means procedure lists in front of the summaries. -/
def meansHeading (s : Session) : List String :=
  s.title.toList.map TableLayout.titleLine ++ ["Variable\tN\tMean"]

/-- **Without variables the means procedure lists summaries that tally its data set.** -/
theorem meansProc_tallies (hfound : (dataset qualified).start s = .ok (.ok ds, u))
    (hds : ds.Represented) :
    ∃ t summaries, (procedure (.means qualified [])).start s = .ok (.ok (), t) ∧
      t.listing.toList = s.listing.toList ++ s.meansHeading ++
        summaries.map (Summary.line s.config.missingText) ∧
      ds.Tallied summaries := by
  obtain ⟨cat, -, rfl⟩ := dataset_start_eq_ok_iff.1 hfound
  refine ⟨_, ds.summarize ds.numericColumns, Run.start_bind_of_ok hfound, ?_, hds.tallied⟩
  simp [meansHeading, mapContext]

/-- Two numbers among a text that spells a number, missing values and absent cells, and
a column without rows. -/
def mixedCells : Dataset :=
  ⟨"a", ["z", "s", "x"],
    [.ofList [("x", .number (.ofNat 1)), ("s", .text "2")], .ofList [("s", .missing)],
    .ofList [("s", .missing), ("x", .number (.ofNat 4))]]⟩

/-- A new session with these cells in memory. -/
def withMixedCells : Session :=
  (Session.new .standard .empty 0).mapCatalog fun cat => cat.putNamed "" "a" mixedCells

/-- Control: both numbers are counted, and only their column is listed. -/
theorem meansProc_tallies_mixed : mixedCells.Represented ∧
    ∃ t summaries, (procedure (.means "A" [])).start withMixedCells = .ok (.ok (), t) ∧
      t.listing.toList = "Variable\tN\tMean" :: summaries.map (Summary.line ".") ∧
      mixedCells.Tallied summaries ∧ (summaries.map (·.count)).sum = 2 := by
  have hrepresented : mixedCells.Represented := by
    constructor <;> decide +kernel
  have hfetch : withMixedCells.catalog.fetch (withMixedCells.config.splitName "A").1
      (withMixedCells.config.splitName "A").2 = (.ok mixedCells, withMixedCells.catalog) := by
        decide +kernel
  have hfound : (dataset "A").start withMixedCells = .ok (.ok mixedCells, withMixedCells) :=
    dataset_start_eq_ok_iff.2 ⟨withMixedCells.catalog, hfetch, rfl⟩
  obtain ⟨t, summaries, hrun, hlisting, htallied⟩ := meansProc_tallies hfound hrepresented
  refine ⟨hrepresented, t, summaries, hrun, hlisting, htallied, ?_⟩
  rw [htallied.sum_count]
  decide +kernel

end Session

end DataStep
