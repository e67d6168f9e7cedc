import DataStep.Proofs.Sort.KeyText
import DataStep.Proofs.Sort.Outcome

/-!
# Sorts that drop duplicates

A sort that drops duplicates and takes all rows stores the first row of every key text in the order
of the stable sort (`sortProc_dropDuplicates`). Key texts are not keys: where they agree and
disagree as keys do, the first row of every key is stored, but a number goes with a text that spells
it (`sortProc_drops_spelled`), and a missing value stays beside an absent column.
-/

set_option autoImplicit false

namespace DataStep.Session

variable {p : SortProc} {s : Session} {source : Dataset}

/-- Two rows have one key in the order of the sort. -/
abbrev SameKey (vars : List String) (a b : Row) : Prop := Row.compareBy vars a b = .eq

/-- A sort without a filter succeeds where its input is found and the library of its target is
declared. -/
theorem exists_sortProc_of_no_filter (hfilter : p.filter = none)
    (hsource : (s.catalog.fetch (s.config.splitName p.input).1 (s.config.splitName p.input).2).1 =
      .ok source)
    (hlib : s.catalog.hasLibrary (s.config.splitName p.target).1 = true) :
    ∃ t, (sortProc p).start s = .ok (.ok (), t) := by
  cases hfetch : s.catalog.fetch (s.config.splitName p.input).1 (s.config.splitName p.input).2 with
  | mk r base =>
    rw [hfetch] at hsource
    cases hsource
    have hselection : (selection p source.rows).start s.context =
        .ok (.ok source.rows, s.context) := by
      rw [selection, hfilter]
      rfl
    have hbase := (sameSources_of_fetch hfetch).hasLibrary_eq (s.config.splitName p.target).1
    exact ⟨_, sortProc_start_eq_ok_iff.2
      ⟨source, base, source.rows, s.context, hfetch, hselection, hbase.trans hlib, rfl⟩⟩

/-- **A sort that drops duplicates stores the first row of every key text, in the order of the
stable sort.** Rows with one key have one key text exactly if they have the same columns of the key,
and rows without underscores in their texts exactly if their cells look alike; where key texts agree
as keys do, the first row of every key is stored. -/
theorem sortProc_dropDuplicates (hfilter : p.filter = none) (hdrop : p.dropDuplicates = true)
    (hsource : (s.catalog.fetch (s.config.splitName p.input).1 (s.config.splitName p.input).2).1 =
      .ok source)
    (hlib : s.catalog.hasLibrary (s.config.splitName p.target).1 = true) :
    (∃ t sorted stored, (sortProc p).start s = .ok (.ok (), t) ∧
      t.catalog.at? (s.keysFor p.target) = some stored ∧
      Row.StablySorts p.keys source.rows sorted ∧
      Row.FirstsOf (Row.SameKeyText p.keys) sorted stored.rows ∧
      ((∀ a ∈ source.rows, ∀ b ∈ source.rows, Row.SameKeyText p.keys a b ↔ SameKey p.keys a b) →
        Row.FirstsOf (SameKey p.keys) sorted stored.rows)) ∧
    (∀ a b, SameKey p.keys a b →
      (Row.SameKeyText p.keys a b ↔ ∀ v ∈ p.keys, a.contains v = b.contains v)) ∧
    ∀ a b, Row.Undivided p.keys a → Row.Undivided p.keys b →
      (Row.SameKeyText p.keys a b ↔ ∀ v ∈ p.keys, Row.LookAlike (a.get? v) (b.get? v)) := by
  refine ⟨?_, fun a b => Row.sameKeyText_iff_of_compareBy_eq,
    fun a b => Row.sameKeyText_iff_lookAlike⟩
  obtain ⟨t, hrun⟩ := exists_sortProc_of_no_filter hfilter hsource hlib
  obtain ⟨source', base, selected, ctx, hfetch, hselection, hlib', rfl⟩ :=
    sortProc_start_eq_ok_iff.1 hrun
  obtain rfl : source = source' := Except.ok.inj (hsource.symm.trans (congrArg Prod.fst hfetch))
  have hselected : selected = source.rows := by
    have hall : source.rows.filter (taken p s.context) = source.rows :=
      List.filter_eq_self.2 fun row _ => by rw [taken, hfilter, Option.all_none]
    exact (of_selection hselection).1.trans hall
  have hrows : (p.result selected (s.config.splitName p.target).2 source).rows =
      p.unique selected :=
    if_pos hdrop
  have hsorts : Row.StablySorts p.keys source.rows (p.sorted selected) :=
    hselected ▸ Row.stablySorts_sortBy p.keys selected
  have hfirsts : Row.FirstsOf (Row.SameKeyText p.keys) (p.sorted selected) (p.unique selected) :=
    Row.firstsOf_firstOfEachKey p.keys (p.sorted selected)
  refine ⟨_, p.sorted selected, _, hrun, at?_stored_target hfetch hlib',
    hsorts, ?_, fun hagree => ?_⟩
  · rw [hrows]
    exact hfirsts
  · rw [hrows]
    exact hfirsts.congr fun a ha b hb =>
      hagree a (hsorts.perm.mem_iff.1 ha) b (hsorts.perm.mem_iff.1 hb)

/-- Sorts a data set in place without repeated keys. -/
def uniqueSort : SortProc := ⟨"a", none, ["x"], none, true, false⟩

/-- A session with three rows, two of them with one number. -/
def threeRows : Session := holding .standard "a" [numberRow 2, textRow "first", textRow "second"]

/-- Control: two rows have one number, and the first of them is stored in front of the third. -/
theorem sortProc_dropDuplicates_of_numbers :
    ∃ t sorted stored, (sortProc uniqueSort).start threeRows = .ok (.ok (), t) ∧
      t.catalog.at? (threeRows.keysFor "a") = some stored ∧
      stored.rows = [textRow "first", numberRow 2] ∧
      Row.FirstsOf (Row.SameKeyText ["x"]) sorted stored.rows := by
  have hsource : (threeRows.catalog.fetch (threeRows.config.splitName "a").1
      (threeRows.config.splitName "a").2).1 =
        .ok (.ofRows "a" [numberRow 2, textRow "first", textRow "second"]) := by decide +kernel
  have hlib : threeRows.catalog.hasLibrary (threeRows.config.splitName "a").1 = true := by
    decide +kernel
  have hrows : ((sortProc uniqueSort).start threeRows).toOption.bind (fun result =>
      result.1.toOption.bind fun _ => (result.2.catalog.at? (threeRows.keysFor "a")).map (·.rows)) =
        some [textRow "first", numberRow 2] := by cbv
  obtain ⟨⟨t, sorted, stored, hrun, hstored, -, hfirsts, -⟩, -⟩ :=
    sortProc_dropDuplicates (p := uniqueSort) (s := threeRows) rfl rfl hsource hlib
  have hstored' : t.catalog.at? (threeRows.keysFor "a") = some stored := hstored
  rw [hrun] at hrows
  simp only [Except.toOption, Option.bind_some, hstored', Option.map_some,
    Option.some.injEq] at hrows
  exact ⟨t, sorted, stored, hrun, hstored, hrows, hfirsts⟩

/-- A row with the text that spells the number one. -/
def spelledRow : Row := .ofList [("x", .text "1")]

/-- A number and the text that spells it have two keys and one key text, so that one of the rows
goes: what is stored are not the first rows of every key. -/
theorem sortProc_drops_spelled :
    ¬ SameKey ["x"] (numberRow 1) spelledRow ∧ Row.SameKeyText ["x"] (numberRow 1) spelledRow ∧
      ∃ t stored, (sortProc uniqueSort).start (holding .standard "a" [numberRow 1, spelledRow]) =
          .ok (.ok (), t) ∧
        t.catalog.at? ("WORK", "a") = some stored ∧ stored.rows = [numberRow 1] ∧
        ¬ ∃ sorted, Row.StablySorts ["x"] [numberRow 1, spelledRow] sorted ∧
          Row.FirstsOf (SameKey ["x"]) sorted stored.rows := by
  have hkeys : ¬ SameKey ["x"] (numberRow 1) spelledRow := by decide +kernel
  have hstored : ((sortProc uniqueSort).start
      (holding .standard "a" [numberRow 1, spelledRow])).toOption.bind (fun result =>
        result.1.toOption.bind fun _ => result.2.catalog.at? ("WORK", "a")) =
          some ⟨"a", ["x"], [numberRow 1]⟩ := by cbv
  refine ⟨hkeys, by rw [Row.SameKeyText]; cbv, ?_⟩
  obtain ⟨r, t, hrun, hend⟩ := Run.exists_start_eq_ok hstored
  cases r with
  | error e => cases hend
  | ok u =>
    refine ⟨t, ⟨"a", ["x"], [numberRow 1]⟩, hrun, hend, rfl, ?_⟩
    rintro ⟨sorted, hsorts, hfirsts⟩
    -- the other row has no first row of its key among those that are stored
    have hmem : spelledRow ∈ sorted := hsorts.perm.mem_iff.2 (by simp)
    obtain ⟨k, hk, hsame, -⟩ := hfirsts.first spelledRow hmem
    rw [List.mem_singleton] at hk
    exact hkeys (hk ▸ hsame)

end DataStep.Session
