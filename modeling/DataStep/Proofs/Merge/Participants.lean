import DataStep.Proofs.Catalog.Fetch
import DataStep.Proofs.KeyOrder
import DataStep.Proofs.Step.Opening

/-!
# The participants of a merge

A merge sorts its participants one after another where they are. `reading?` is what a participant is
taken from: what the catalog holds under the first of the names that stand for the same data set.
Main statement: the lists that are merged are these data sets, sorted; the participants are left
sorted in memory, other data sets are left alone, and the current data set changes exactly if a
participant was not in memory (`Sorts.of_sortEach`).
-/

set_option autoImplicit false

namespace DataStep

/-! ## Sorting -/

namespace Row

theorem ascending_sortBy (vars : List String) (rows : List Row) :
    Ascending vars (sortBy vars rows) := by
  apply List.pairwise_mergeSort
  · intro a b c
    exact compareBy_isLE_trans
  · intro a b
    cases h : compareBy vars b a with
    | lt => simp
    | eq => simp
    | gt => simp [compareBy_swap vars a b, h]

/-- Rows that are sorted stay as they are. -/
theorem sortBy_sortBy (vars : List String) (rows : List Row) :
    sortBy vars (sortBy vars rows) = sortBy vars rows :=
  List.mergeSort_of_pairwise (ascending_sortBy vars rows)

theorem sortBy_perm (vars : List String) (rows : List Row) : (sortBy vars rows).Perm rows :=
  List.mergeSort_perm rows _

end Row

/-- A data set with its rows sorted. -/
def Dataset.sortedBy (vars : List String) (ds : Dataset) : Dataset :=
  { ds with rows := Row.sortBy vars ds.rows }

theorem Dataset.sortedBy_sortedBy (vars : List String) (ds : Dataset) :
    (ds.sortedBy vars).sortedBy vars = ds.sortedBy vars :=
  congrArg (Dataset.mk ds.name ds.columns) (Row.sortBy_sortBy vars ds.rows)

namespace Catalog

variable {cat cat' base : Catalog} {ds : Dataset} {f : Dataset → Dataset} {vars : List String}
  {m n k : String × String} {ms : List (String × String)} {lists : List (List Row)}

/-! ## Keys -/

/-- The keys of a library reference and a name. -/
def keysOf (cat : Catalog) (m : String × String) : String × String :=
  (cat.libraryKey m.1, datasetKey m.2)

/-- The data set in memory under a pair of keys. -/
def at? (cat : Catalog) (k : String × String) : Option Dataset := cat.find? k.1 k.2

theorem at?_keysOf (cat : Catalog) (m : String × String) :
    cat.at? (cat.keysOf m) = cat.named? m.1 m.2 := rfl

theorem SameSources.keysOf_eq (h : SameSources cat cat') (m : String × String) :
    cat'.keysOf m = cat.keysOf m := by
  rw [keysOf, keysOf, h.libraryKey_eq]

theorem at?_put_of_ne {k' : String × String} (h : k' ≠ k) :
    (cat.put k.1 k.2 ds).at? k' = cat.at? k' := by
  apply find?_put_of_ne
  by_cases hl : k'.1 = k.1
  · exact .inr fun hd => h (Prod.ext hl hd)
  · exact .inl hl

theorem at?_putNamed_of_ne (h : k ≠ cat.keysOf m) : (cat.putNamed m.1 m.2 ds).at? k = cat.at? k :=
  at?_put_of_ne h

theorem current_putNamed (m : String × String) :
    (cat.putNamed m.1 m.2 ds).current = cat.current := by
  rw [putNamed, put]
  split <;> rfl

/-! ## One participant -/

/-- A data set was fetched and its new state was put in its place. -/
structure Changes (m : String × String) (f : Dataset → Dataset) (cat : Catalog) (ds : Dataset)
    (cat' : Catalog) : Prop where
  fetched : (cat.fetch m.1 m.2).1 = .ok ds
  at?_eq : ∀ k, cat'.at? k = if k = cat.keysOf m then some (f ds) else cat.at? k
  current_eq : cat'.current =
    if (cat.at? (cat.keysOf m)).isSome then cat.current else some (cat.keysOf m)
  puts : cat.Puts (fun _ => True) cat'

/-- A fetch leaves alone what is in memory under other keys. -/
theorem at?_fetch_of_ne (h : cat.fetch m.1 m.2 = (.ok ds, base)) (hne : k ≠ cat.keysOf m) :
    base.at? k = cat.at? k := by
  rcases fetch_eq_ok_iff.1 h with ⟨-, rfl⟩ | ⟨-, -, -, rfl⟩
  · rfl
  · exact at?_putNamed_of_ne hne

/-- A data set that a fetch reads from a file becomes current. -/
theorem current_fetch (h : cat.fetch m.1 m.2 = (.ok ds, base)) : base.current =
    if (cat.at? (cat.keysOf m)).isSome then cat.current else some (cat.keysOf m) := by
  rw [at?_keysOf]
  rcases fetch_eq_ok_iff.1 h with ⟨hnamed, rfl⟩ | ⟨hnamed, -, -, rfl⟩
  · rw [hnamed]
    rfl
  · rw [hnamed]
    rfl

theorem exists_changes_of_update {r : Dataset} (h : cat.update m.1 m.2 f = (.ok r, cat')) :
    ∃ ds, r = f ds ∧ Changes m f cat ds cat' := by
  have hputs : cat.Puts (fun _ => True) cat' := by
    have hall : cat.Puts (fun _ => True) (cat.update m.1 m.2 f).2 :=
      puts_update (fun _ _ => trivial) fun _ _ => trivial
    rwa [h] at hall
  unfold update at h
  cases hfetch : cat.fetch m.1 m.2 with
  | mk result base =>
    rw [hfetch] at h
    cases result with
    | error e => cases h
    | ok ds =>
      have hbase : base.keysOf m = cat.keysOf m := by
        have hsources :=
          (cat.puts_fetch (D := fun _ => True) (fun _ _ => trivial) m.1 m.2).sameSources
        rw [hfetch] at hsources
        exact hsources.keysOf_eq m
      cases h
      refine ⟨ds, rfl, congrArg Prod.fst hfetch, fun k => ?_, ?_, hputs⟩
      · split
        case isTrue heq =>
          subst heq
          rw [← hbase]
          exact find?_put_self (isSome_library_of_named? (named?_fetch hfetch))
        case isFalse hne =>
          exact (at?_putNamed_of_ne (hbase ▸ hne)).trans (at?_fetch_of_ne hfetch hne)
      · exact (current_putNamed m).trans (current_fetch hfetch)

/-- A data set that can be fetched can be changed. -/
theorem exists_update_of_fetch (h : (cat.fetch m.1 m.2).1 = .ok ds) (f : Dataset → Dataset) :
    ∃ cat', cat.update m.1 m.2 f = (.ok (f ds), cat') := by
  unfold update
  cases hfetch : cat.fetch m.1 m.2 with
  | mk result base =>
    rw [hfetch] at h
    cases h
    exact ⟨_, rfl⟩

/-! ## What a participant is taken from -/

/-- What the catalog holds under the first of some names that has a pair of keys. -/
def reading? (cat : Catalog) (ms : List (String × String)) (k : String × String) : Option Dataset :=
  (ms.find? fun m => decide (cat.keysOf m = k)).bind fun m => (cat.fetch m.1 m.2).1.toOption

/-- The rows of what a participant is taken from. -/
def readRows (cat : Catalog) (ms : List (String × String)) (k : String × String) : List Row :=
  ((cat.reading? ms k).map (·.rows)).getD []

theorem reading?_cons (m : String × String) (ms : List (String × String)) (k : String × String) :
    cat.reading? (m :: ms) k =
      if cat.keysOf m = k then (cat.fetch m.1 m.2).1.toOption else cat.reading? ms k := by
  by_cases h : cat.keysOf m = k <;> simp [reading?, h]

/-- What is in memory under the keys of a name is what is taken. -/
theorem reading?_of_at? (hmem : k ∈ ms.map cat.keysOf) (h : cat.at? k = some ds) :
    cat.reading? ms k = some ds := by
  induction ms with
  | nil => cases hmem
  | cons first ms ih =>
    rw [reading?_cons]
    split
    case isTrue heq =>
      subst heq
      rw [fetch_of_named? h]
      rfl
    case isFalse hne =>
      rw [List.map_cons, List.mem_cons] at hmem
      exact ih (hmem.resolve_left (Ne.symm hne))

/-- What is taken depends on the sources and on what is in memory under the keys. -/
theorem reading?_congr (hsources : SameSources cat cat') (h : cat'.at? k = cat.at? k) :
    cat'.reading? ms k = cat.reading? ms k := by
  rw [reading?, reading?]
  simp only [hsources.keysOf_eq]
  cases hfound : ms.find? fun m => decide (cat.keysOf m = k) with
  | none => rfl
  | some m =>
    have hkeys : cat.keysOf m = k := by simpa using List.find?_some hfound
    have hnamed : cat'.named? m.1 m.2 = cat.named? m.1 m.2 := by
      rw [← at?_keysOf, ← at?_keysOf, hsources.keysOf_eq, hkeys, h]
    have hfetch : ∀ found, (cat'.fetch m.1 m.2).1 = .ok found ↔ (cat.fetch m.1 m.2).1 = .ok found :=
      fun found => fetch_fst_eq_ok_iff hsources hnamed
    simp only [Option.bind_some]
    cases hold : (cat.fetch m.1 m.2).1 with
    | ok found => rw [(hfetch found).2 hold]
    | error e =>
      cases hnew : (cat'.fetch m.1 m.2).1 with
      | ok found => rw [(hfetch found).1 hnew] at hold; cases hold
      | error e' => rfl

/-! ## All participants -/

/-- Sorts the data sets of some names one after another where they are, and answers their rows. -/
def sortEach (vars : List String) :
    List (String × String) → Catalog → Except LibraryError (List (List Row)) × Catalog
  | [], cat => (.ok [], cat)
  | m :: ms, cat =>
    match cat.update m.1 m.2 (Dataset.sortedBy vars) with
    | (.error e, cat) => (.error e, cat)
    | (.ok ds, cat) =>
      match sortEach vars ms cat with
      | (.error e, cat) => (.error e, cat)
      | (.ok lists, cat) => (.ok (ds.rows :: lists), cat)

theorem sortEach_cons_eq_ok_iff : sortEach vars (m :: ms) cat = (.ok lists, cat') ↔
    ∃ ds base rest, cat.update m.1 m.2 (Dataset.sortedBy vars) = (.ok ds, base) ∧
      sortEach vars ms base = (.ok rest, cat') ∧ lists = ds.rows :: rest := by
  rw [sortEach]
  constructor
  · intro h
    split at h
    · cases h
    · rename_i ds base hfirst
      split at h
      · cases h
      · rename_i rest final hrest
        cases h
        exact ⟨ds, base, rest, hfirst, hrest, rfl⟩
  · rintro ⟨ds, base, rest, hfirst, hrest, rfl⟩
    rw [hfirst]
    dsimp only
    rw [hrest]

/-- What sorting the data sets of some names leaves behind. -/
structure Sorts (vars : List String) (ms : List (String × String)) (cat : Catalog)
    (lists : List (List Row)) (cat' : Catalog) : Prop where
  lists_eq : lists = ms.map fun m => Row.sortBy vars (cat.readRows ms (cat.keysOf m))
  read : ∀ m ∈ ms, (cat.reading? ms (cat.keysOf m)).isSome
  at?_eq : ∀ k, cat'.at? k =
    if k ∈ ms.map cat.keysOf then (cat.reading? ms k).map (Dataset.sortedBy vars) else cat.at? k
  current_of_inMemory : (∀ m ∈ ms, (cat.at? (cat.keysOf m)).isSome) → cat'.current = cat.current
  current_of_loaded : (∃ m ∈ ms, cat.at? (cat.keysOf m) = none) →
    ∃ m ∈ ms, cat.at? (cat.keysOf m) = none ∧ cat'.current = some (cat.keysOf m)
  puts : cat.Puts (fun _ => True) cat'

namespace Sorts

/-- Sorting no data sets leaves everything as it is. -/
protected theorem nil (cat : Catalog) : Sorts vars [] cat [] cat where
  lists_eq := rfl
  read m hm := nomatch hm
  at?_eq k := rfl
  current_of_inMemory _ := rfl
  current_of_loaded := by
    rintro ⟨m, hm, -⟩
    cases hm
  puts := .refl

/-- Sorting one data set and then others. A later name of the first one finds it sorted in
memory. -/
protected theorem cons (hfirst : Changes m (Dataset.sortedBy vars) cat ds base)
    (hrest : Sorts vars ms base lists cat') :
    Sorts vars (m :: ms) cat ((ds.sortedBy vars).rows :: lists) cat' := by
  have hkeys : base.keysOf = cat.keysOf := funext hfirst.puts.sameSources.keysOf_eq
  have hown : base.at? (cat.keysOf m) = some (ds.sortedBy vars) := by
    rw [hfirst.at?_eq, if_pos rfl]
  have hother : ∀ k, k ≠ cat.keysOf m → base.at? k = cat.at? k := fun k hne => by
    rw [hfirst.at?_eq, if_neg hne]
  have hreadown : cat.reading? (m :: ms) (cat.keysOf m) = some ds := by
    rw [reading?_cons, if_pos rfl, hfirst.fetched]
    rfl
  have hreadother : ∀ k, k ≠ cat.keysOf m → base.reading? ms k = cat.reading? (m :: ms) k :=
    fun k hne => by
      rw [reading?_cons, if_neg hne.symm, reading?_congr hfirst.puts.sameSources (hother k hne)]
  -- a data set that is named again is found sorted, and sorting it again changes nothing
  have hreadagain : ∀ k ∈ ms.map cat.keysOf, k = cat.keysOf m →
      base.reading? ms k = some (ds.sortedBy vars) := by
    rintro k hk rfl
    exact reading?_of_at? (hkeys ▸ hk) hown
  refine
    { lists_eq := ?lists, read := ?read, at?_eq := ?memory, current_of_inMemory := ?inMemory,
      current_of_loaded := ?loaded, puts := hfirst.puts.trans hrest.puts }
  case lists =>
    rw [List.map_cons, readRows, hreadown, hrest.lists_eq, hkeys]
    refine congrArg _ (List.map_congr_left fun n hn => ?_)
    by_cases heq : cat.keysOf n = cat.keysOf m
    · rw [readRows, readRows, hreadagain _ (List.mem_map_of_mem hn) heq, heq, hreadown]
      exact Row.sortBy_sortBy vars ds.rows
    · rw [readRows, readRows, hreadother _ heq]
  case read =>
    intro n hn
    by_cases heq : cat.keysOf n = cat.keysOf m
    · rw [heq, hreadown]
      rfl
    · rcases List.mem_cons.1 hn with rfl | hn
      · exact absurd rfl heq
      · rw [← hreadother _ heq, ← hkeys]
        exact hrest.read n hn
  case memory =>
    intro k
    rw [hrest.at?_eq, hkeys, List.map_cons]
    by_cases heq : k = cat.keysOf m
    · subst heq
      have hmem : cat.keysOf m ∈ cat.keysOf m :: ms.map cat.keysOf := List.mem_cons_self
      rw [if_pos hmem, hreadown]
      split
      case isTrue hmem =>
        rw [hreadagain _ hmem rfl]
        exact congrArg some (ds.sortedBy_sortedBy vars)
      case isFalse => exact hown
    · rw [hreadother k heq, hother k heq]
      simp only [List.mem_cons, heq, false_or]
  case inMemory =>
    intro hall
    have hstays : ∀ n ∈ ms, (base.at? (base.keysOf n)).isSome := fun n hn => by
      rw [hkeys]
      exact hfirst.puts.stays (hall n (List.mem_cons_of_mem _ hn))
    rw [hrest.current_of_inMemory hstays, hfirst.current_eq, if_pos (hall m List.mem_cons_self)]
  case loaded =>
    intro hloaded
    -- the last participant that is read from a file is the one that stays current
    by_cases hlater : ∃ n ∈ ms, base.at? (base.keysOf n) = none
    · obtain ⟨n, hn, hnone, hcurrent⟩ := hrest.current_of_loaded hlater
      rw [hkeys] at hnone hcurrent
      refine ⟨n, List.mem_cons_of_mem _ hn, ?_, hcurrent⟩
      rwa [← hother]
      rintro heq
      rw [heq, hown] at hnone
      cases hnone
    · have hstays : ∀ n ∈ ms, (base.at? (base.keysOf n)).isSome := by
        intro n hn
        rw [Option.isSome_iff_ne_none]
        exact fun hnone => hlater ⟨n, hn, hnone⟩
      -- so it is the first one that was not in memory
      have hnone : cat.at? (cat.keysOf m) = none := by
        obtain ⟨n, hn, hnone⟩ := hloaded
        rcases List.mem_cons.1 hn with rfl | hn
        · exact hnone
        · by_cases heq : cat.keysOf n = cat.keysOf m
          · rwa [← heq]
          · have hmem := hstays n hn
            rw [hkeys, hother _ heq, hnone] at hmem
            cases hmem
      refine ⟨m, List.mem_cons_self, hnone, ?_⟩
      rw [hrest.current_of_inMemory hstays, hfirst.current_eq, hnone]
      rfl

/-- **What sorting the data sets of some names one after another leaves behind.** -/
theorem of_sortEach (h : sortEach vars ms cat = (.ok lists, cat')) :
    Sorts vars ms cat lists cat' := by
  induction ms generalizing cat lists with
  | nil =>
    cases h
    exact .nil cat'
  | cons m ms ih =>
    obtain ⟨r, base, rest, hfirst, hrest, rfl⟩ := sortEach_cons_eq_ok_iff.1 h
    obtain ⟨ds, rfl, hchanges⟩ := exists_changes_of_update hfirst
    exact .cons hchanges (ih hrest)

end Sorts

/-- Data sets that can all be fetched can be sorted. -/
theorem exists_sortEach (h : ∀ m ∈ ms, ∃ ds, (cat.fetch m.1 m.2).1 = .ok ds) (vars : List String) :
    ∃ lists cat', sortEach vars ms cat = (.ok lists, cat') := by
  induction ms generalizing cat with
  | nil => exact ⟨[], cat, rfl⟩
  | cons m ms ih =>
    -- what the others need is still there after the first one: data sets are only put in memory
    obtain ⟨ds, hds⟩ := h m List.mem_cons_self
    obtain ⟨base, hfirst⟩ := exists_update_of_fetch hds (Dataset.sortedBy vars)
    obtain ⟨found, -, hchanges⟩ := exists_changes_of_update hfirst
    obtain ⟨lists, cat', hrest⟩ := ih fun n hn =>
      exists_fetch_of_puts hchanges.puts (h n (List.mem_cons_of_mem _ hn))
    exact ⟨_, cat', sortEach_cons_eq_ok_iff.2 ⟨_, base, lists, hfirst, hrest, rfl⟩⟩

end Catalog

/-! ## Merges in a session -/

namespace Session

open Catalog (sortEach)

variable {datasets vars : List String} {s u : Session} {rows : List Row} {lists : List (List Row)}

theorem sortInPlace_start (vars : List String) (qualified : String) (s : Session) :
    (sortInPlace vars qualified).start s =
      match s.catalog.update (s.config.splitName qualified).1 (s.config.splitName qualified).2
        (Dataset.sortedBy vars) with
      | (.error e, cat) => .ok (.error (.library e), { s with catalog := cat })
      | (.ok ds, cat) => .ok (.ok ds.rows, { s with catalog := cat }) := by
  rw [sortInPlace, Run.start_bind_of_ok (splitName_start qualified s)]
  generalize s.config.splitName qualified = m
  obtain ⟨libref, name⟩ := m
  dsimp only
  rw [Run.start_bind, onCatalog, Run.start_bind_of_ok (onCatalog?_start _ s)]
  change _ = match s.catalog.update libref name fun ds => { ds with
      rows := Row.sortBy vars ds.rows } with
    | (.error e, cat) => _
    | (.ok ds, cat) => _
  generalize (s.catalog.update libref name fun ds => { ds with rows := Row.sortBy vars ds.rows }) =
    updated
  obtain ⟨e | ds, cat⟩ := updated <;> rfl

/-- The participants of a merge are sorted in the catalog of the session. -/
theorem mapM_sortInPlace_start (vars datasets : List String) (s : Session) :
    (datasets.mapM (sortInPlace vars)).start s =
      match sortEach vars (datasets.map s.config.splitName) s.catalog with
      | (.error e, cat) => .ok (.error (.library e), { s with catalog := cat })
      | (.ok lists, cat) => .ok (.ok lists, { s with catalog := cat }) := by
  induction datasets generalizing s with
  | nil => rfl
  | cons qualified datasets ih =>
    rw [List.mapM_cons, Run.start_bind, sortInPlace_start, List.map_cons, sortEach]
    generalize s.catalog.update (s.config.splitName qualified).1 (s.config.splitName qualified).2
      (Dataset.sortedBy vars) = first
    obtain ⟨e | ds, cat⟩ := first
    · rfl
    · dsimp only
      rw [Run.start_bind, ih]
      dsimp only
      generalize sortEach vars (datasets.map s.config.splitName) cat = rest
      obtain ⟨e | lists, final⟩ := rest <;> rfl

/-- The note on a merge. -/
def mergeNote (datasets vars : List String) (rows : List Row) : String :=
  let names := " ".intercalate vars
  s!"MERGE of {datasets.length} data sets by {names} produced {rows.length} observations."

/-- A merge sorts its participants and then merges their rows. -/
theorem merge_start (hvars : vars ≠ []) : (merge datasets vars).start s =
    match sortEach vars (datasets.map s.config.splitName) s.catalog with
    | (.error e, cat) => .ok (.error (.library e), { s with catalog := cat })
    | (.ok lists, cat) =>
      match Merge.mergeRows vars lists with
      | .error e => .ok (.error (.merge e), { s with catalog := cat })
      | .ok rows => .ok (.ok rows, { s with
          catalog := cat
          context := s.context.mapLog (Log.note · (mergeNote datasets vars rows)) }) := by
  unfold merge
  extract_lets names afterCheck
  rw [if_neg (by simpa using hvars)]
  dsimp only [afterCheck]
  rw [Run.start_bind, mapM_sortInPlace_start]
  generalize sortEach vars (datasets.map s.config.splitName) s.catalog = sorted
  obtain ⟨e | lists, cat⟩ := sorted
  · rfl
  · dsimp only
    cases Merge.mergeRows vars lists with
    | error e => rfl
    | ok rows => rfl

/-- A merge succeeds exactly if its participants can be sorted and their rows merged. -/
theorem merge_start_eq_ok_iff : (merge datasets vars).start s = .ok (.ok rows, u) ↔
    ∃ lists cat, sortEach vars (datasets.map s.config.splitName) s.catalog = (.ok lists, cat) ∧
      Merge.mergeRows vars lists = .ok rows ∧
      u = { s with
        catalog := cat
        context := s.context.mapLog (Log.note · (mergeNote datasets vars rows)) } := by
  by_cases hvars : vars = []
  · -- without BY variables neither side succeeds
    subst hvars
    constructor
    · intro h
      cases h
    · rintro ⟨lists, cat, -, hrows, -⟩
      cases hrows
  · rw [merge_start hvars]
    generalize sortEach vars (datasets.map s.config.splitName) s.catalog = sorted
    obtain ⟨e | lists, cat⟩ := sorted
    · simp
    · dsimp only
      constructor
      · intro h
        split at h
        · cases h
        · rename_i out hmerge
          cases h
          exact ⟨lists, cat, rfl, hmerge, rfl⟩
      · rintro ⟨lists', cat', hlists, hrows, rfl⟩
        cases hlists
        rw [hrows]

/-! ## Two participants -/

/-- A session with two data sets of one row each, which have the same `id`. -/
def twoParticipants : Session :=
  let s := holding .standard "a" [.ofList [("id", .number (.ofNat 1)), ("x", .number (.ofNat 1))]]
  s.mapCatalog fun cat => cat.putNamed "" "b"
    (.ofRows "b" [.ofList [("id", .number (.ofNat 1)), ("y", .number (.ofNat 2))]])

/-- The rows of the participants. -/
def participantRows : List (List Row) :=
  [[.ofList [("id", .number (.ofNat 1)), ("x", .number (.ofNat 1))]],
    [.ofList [("id", .number (.ofNat 1)), ("y", .number (.ofNat 2))]]]

/-- What the participants merge to. -/
def combinedRows : List Row :=
  [.ofList [("id", .number (.ofNat 1)), ("x", .number (.ofNat 1)), ("y", .number (.ofNat 2))]]

end Session

end DataStep
