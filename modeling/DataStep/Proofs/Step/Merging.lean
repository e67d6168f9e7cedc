import DataStep.Proofs.Merge.Participants
import Mathlib.Data.List.Basic

/-!
# What the merge of a DATA step reads

A DATA step opens its output before it merges, so at that time the output has been cleared and
whatever the opening read from files is in memory. Main statement: a step with one MERGE puts the
merge of the rows that its participants had before the step into its output exactly if that merge
comes out the same when the output counts as empty and the others are taken as the opening left them
(`dataStep_merge_iff`). So it does if the participants are in memory and none of them is the output
(`beginStep_merges_of_inMemory`), but a step that merges into one of its participants loses the rows
of that one (`not_merged_into_participant`).
-/

set_option autoImplicit false

namespace DataStep

/-! ## The MERGE and BY statements of a body -/

namespace Statement

/-- The participants of a MERGE statement. -/
def participants? : Statement → Option (List String)
  | .merge datasets => some datasets
  | _ => none

/-- The participants of the MERGE statements among some statements. -/
def mergesOf (body : List Statement) : List (List String) := body.filterMap participants?

/-- The BY variables in force after a statement. -/
def byAfter (vars : List String) : Statement → List String
  | .byVariables others => others
  | _ => vars

/-- The BY variables in force after some statements: those of the last BY statement. -/
def byInForce (vars : List String) (body : List Statement) : List String := body.foldl byAfter vars

end Statement

/-- A catalog has the data sets of some names, with these rows. -/
def Catalog.Holds (cat : Catalog) (ms : List (String × String)) (lists : List (List Row)) : Prop :=
  ms.map (fun m => (cat.fetch m.1 m.2).1.map (·.rows)) = lists.map .ok

namespace Session

open Statement (participants? mergesOf byAfter byInForce)
open Catalog (Sorts sortEach)

variable {passes : Nat} {header : StepHeader} {body : List Statement} {libref name : String}
  {datasets vars : List String} {s t : Session} {rows out : List Row} {cat opened : Catalog}
  {before : List (List Row)}

/-- Merges data sets into another one. -/
def mergeInto (libref name : String) (datasets : List String) : SessionM Unit := do
  let rows ← merge datasets (← get).byVariables
  let _ ← onCatalog fun cat => cat.update libref name fun ds => ds.replaceRows rows

theorem isMerge_eq (stmt : Statement) : isMerge stmt = stmt.participants?.isSome := by
  cases stmt <;> rfl

theorem any_isMerge (h : mergesOf body = [datasets]) : body.any isMerge = true := by
  have hmem : datasets ∈ mergesOf body := h ▸ List.mem_singleton_self datasets
  obtain ⟨stmt, hstmt, hmerge⟩ := List.mem_filterMap.1 hmem
  rw [List.any_eq_true]
  exact ⟨stmt, hstmt, by rw [isMerge_eq, hmerge]; rfl⟩

/-! ## Executing BY and MERGE statements -/

/-- Executes a statement if it is a BY statement. -/
def applyBy : Statement → SessionM Unit
  | .byVariables vars => modify fun s => { s with byVariables := vars }
  | _ => pure ()

/-- Executes a statement if it is a MERGE. -/
def applyMerge (libref name : String) : Statement → SessionM Unit
  | .merge datasets => mergeInto libref name datasets
  | _ => pure ()

theorem mergeIntoOutput_eq (libref name : String) (body : List Statement) :
    mergeIntoOutput libref name body = (do
      body.forM applyBy
      body.forM (applyMerge libref name)) := rfl

theorem forM_applyBy_start (body : List Statement) (s : Session) : (body.forM applyBy).start s =
    .ok (.ok (), { s with byVariables := byInForce s.byVariables body }) := by
  induction body generalizing s with
  | nil => rfl
  | cons stmt body ih =>
    have hstmt : (applyBy stmt).start s =
        .ok (.ok (), { s with byVariables := byAfter s.byVariables stmt }) := by
      cases stmt <;> rfl
    exact (Run.start_bind_of_ok hstmt).trans (ih _)

/-- Only the MERGE statements among some statements merge. -/
theorem forM_applyMerge_start (body : List Statement) (s : Session) :
    (body.forM (applyMerge libref name)).start s =
      ((mergesOf body).forM (mergeInto libref name)).start s := by
  induction body generalizing s with
  | nil => rfl
  | cons stmt body ih =>
    change (applyMerge libref name stmt >>= fun _ => body.forM (applyMerge libref name)).start s = _
    cases hstmt : stmt.participants? with
    | none =>
      have hskip : (applyMerge libref name stmt).start s = .ok (.ok (), s) := by
        cases stmt <;> first | rfl | cases hstmt
      rw [mergesOf, List.filterMap_cons_none hstmt]
      exact (Run.start_bind_of_ok hskip).trans (ih s)
    | some datasets =>
      have hmerge : stmt = .merge datasets := by
        cases stmt <;> cases hstmt
        rfl
      subst hmerge
      rw [mergesOf, List.filterMap_cons_some hstmt]
      change _ = (mergeInto libref name datasets >>= fun _ =>
        (mergesOf body).forM (mergeInto libref name)).start s
      rw [Run.start_bind, Run.start_bind, applyMerge]
      cases (mergeInto libref name datasets).start s with
      | error halt => rfl
      | ok result =>
        obtain ⟨e | u, t⟩ := result
        · rfl
        · exact ih t

/-- A step with one MERGE begins with its merge. -/
theorem beginStep_start_eq_ok_iff (hmerges : mergesOf body = [datasets]) :
    (beginStep libref name body).start s = .ok (.ok (), t) ↔
      (mergeInto libref name datasets).start
        { s with
          context := resetContext s.context, byVariables := byInForce s.byVariables body } =
        .ok (.ok (), t) := by
  rw [beginStep, Run.start_bind_of_ok (Run.start_modify _ s), any_isMerge hmerges, if_pos rfl,
    mergeIntoOutput_eq, Run.start_bind_of_ok (forM_applyBy_start body _),
    forM_applyMerge_start, hmerges]
  change (mergeInto libref name datasets >>= fun _ => pure PUnit.unit).start _ = _ ↔ _
  rw [Run.start_bind_eq_ok]
  constructor
  · rintro (⟨e, -, he⟩ | ⟨u, v, hmerge, hpure⟩)
    · cases he
    · cases hpure
      exact hmerge
  · exact fun h => .inr ⟨(), t, h, rfl⟩

/-- A merge into a data set in memory leaves there what its sorted participants merge to. -/
theorem exists_mergeInto_iff {old : Dataset} (hold : s.catalog.named? libref name = some old) :
    (∃ t ds, (mergeInto libref name datasets).start s = .ok (.ok (), t) ∧
      t.catalog.named? libref name = some ds ∧ ds.rows = out) ↔
    ∃ lists cat, sortEach s.byVariables (datasets.map s.config.splitName) s.catalog =
      (.ok lists, cat) ∧ Merge.mergeRows s.byVariables lists = .ok out := by
  -- the output is still in memory when the rows come
  have hupdate : ∀ {lists cat} (rows : List Row),
      sortEach s.byVariables (datasets.map s.config.splitName) s.catalog = (.ok lists, cat) →
        ∃ ds : Dataset, ds.rows = rows ∧
          cat.update libref name (fun ds => ds.replaceRows rows) =
            (.ok ds, cat.putNamed libref name ds) ∧
          (cat.putNamed libref name ds).named? libref name = some ds := by
    intro lists cat rows hsort
    have hputs := (Sorts.of_sortEach hsort).puts
    obtain ⟨found, hfound⟩ : ∃ found, cat.named? libref name = some found := by
      rw [← Option.isSome_iff_exists, Catalog.named?, hputs.sameSources.libraryKey_eq]
      exact hputs.stays (by rw [← Catalog.named?, hold]; rfl)
    exact ⟨found.replaceRows rows, rfl, Catalog.update_of_named? hfound _,
      Catalog.named?_putNamed (Catalog.isSome_library_of_named? hfound)⟩
  have hstart : (mergeInto libref name datasets).start s =
      (merge datasets s.byVariables >>= fun rows => do
        let _ ← onCatalog fun cat => cat.update libref name fun ds =>
            ds.replaceRows rows).start s :=
    Run.start_bind_of_ok (Run.start_get s)
  rw [hstart]
  constructor
  · rintro ⟨t, ds, hrun, hnamed, hrows⟩
    rcases Run.start_bind_eq_ok.1 hrun with ⟨e, -, he⟩ | ⟨rows, u, hmerge, hput⟩
    · cases he
    · obtain ⟨lists, cat, hsort, hout, rfl⟩ := merge_start_eq_ok_iff.1 hmerge
      obtain ⟨new, hnew, hcat, hafter⟩ := hupdate rows hsort
      rw [Run.start_bind_of_ok (onCatalog_start_of_ok hcat)] at hput
      cases hput
      rw [hafter] at hnamed
      cases hnamed
      exact ⟨lists, cat, hsort, hrows ▸ hnew ▸ hout⟩
  · rintro ⟨lists, cat, hsort, hout⟩
    obtain ⟨new, hnew, hcat, hafter⟩ := hupdate out hsort
    refine ⟨{ s with
      catalog := cat.putNamed libref name new,
      context := s.context.mapLog (Log.note · (mergeNote datasets s.byVariables out)) },
      new, ?_, hafter, hnew⟩
    rw [Run.start_bind_of_ok (merge_start_eq_ok_iff.2 ⟨lists, cat, hsort, hout, rfl⟩),
      Run.start_bind_of_ok (onCatalog_start_of_ok hcat)]
    rfl

/-! ## What the opening of a step leaves of the participants -/

/-- Reading the input of a step puts data sets in memory and takes none out. -/
theorem puts_source {merges : Bool} {r : Except LibraryError (List Row)}
    (h : source header merges s = (r, cat)) : s.catalog.Puts (fun _ => True) cat := by
  unfold source at h
  split at h
  · rename_i input hinput
    have hputs := s.catalog.puts_fetch (D := fun _ => True) (fun _ _ => trivial)
      (s.config.splitName input).1 (s.config.splitName input).2
    cases h
    exact hputs
  · cases h
    exact .refl

/-- So does creating its output. -/
theorem puts_withOutput {r : Except LibraryError Unit}
    (h : withOutput cat libref name = (r, opened)) :
    cat.Puts (fun _ => True) opened := by
  have hputs := cat.puts_create (D := fun _ => True) (fun _ _ => trivial) libref name
  unfold withOutput at h
  split at h
  · rename_i e base hcreate
    rw [hcreate] at hputs
    cases h
    exact hputs
  · rename_i old base hcreate
    rw [hcreate] at hputs
    cases h
    exact hputs.put _ _ trivial

theorem puts_opening {merges : Bool} (hname : s.config.splitName header.output = (libref, name))
    (h : opening header merges s = (.ok rows, opened)) : s.catalog.Puts (fun _ => True) opened := by
  obtain ⟨found, hsource, houtput⟩ := exists_source_of_opening_eq_ok hname h
  exact (puts_source hsource).trans (puts_withOutput houtput)

/-- What a step with one MERGE merges: nothing of its output, and of the others what the catalog
holds once the output is open. -/
def mergedLists (vars : List String) (opened : Catalog) (output : String × String)
    (ms : List (String × String)) : List (List Row) :=
  ms.map fun m =>
    if opened.keysOf m = opened.keysOf output then []
    else Row.sortBy vars (opened.readRows ms (opened.keysOf m))

/-- The output of an opened step counts as empty. -/
theorem mergedLists_eq {ms : List (String × String)} {old : Dataset}
    (hold : opened.named? libref name = some old.clear) :
    (ms.map fun m => Row.sortBy vars (opened.readRows ms (opened.keysOf m))) =
      mergedLists vars opened (libref, name) ms := by
  refine List.map_congr_left fun m hm => ?_
  split
  case isTrue heq =>
    have hread : opened.reading? ms (opened.keysOf m) = some old.clear :=
      Catalog.reading?_of_at? (List.mem_map_of_mem hm) (heq ▸ hold)
    rw [Catalog.readRows, hread]
    exact List.mergeSort_nil
  case isFalse => rfl

/-- Reading the input of a step leaves alone what is in memory. -/
theorem at?_source {merges : Bool} {k : String × String}
    (h : source header merges s = (.ok rows, cat)) (hk : (s.catalog.at? k).isSome) :
    cat.at? k = s.catalog.at? k := by
  unfold source at h
  split at h
  · rename_i input hinput
    cases hfetch : s.catalog.fetch (s.config.splitName input).1 (s.config.splitName input).2 with
    | mk result base =>
      simp only [hfetch] at h
      cases result with
      | error e => cases h
      | ok ds =>
        cases h
        rcases Catalog.fetch_eq_ok_iff.1 hfetch with ⟨-, rfl⟩ | ⟨hnone, -⟩
        · rfl
        · apply Catalog.at?_fetch_of_ne hfetch
          rintro rfl
          rw [Catalog.at?_keysOf, hnone] at hk
          cases hk
  · cases h
    rfl

/-- Opening an output leaves alone what is in memory under other keys, in a library whose key is its
own reference. -/
theorem at?_withOutput {k : String × String} (h : withOutput cat libref name = (.ok (), opened))
    (hown : cat.libraryKey (cat.libraryKey libref) = cat.libraryKey libref)
    (hk : k ≠ cat.keysOf (libref, name)) : opened.at? k = cat.at? k := by
  unfold withOutput at h
  split at h
  · cases h
  · rename_i old created hcreate
    cases h
    obtain ⟨-, base, hbase, hcases⟩ := Catalog.exists_of_create_eq_ok hcreate
    -- a file that is read for the output is stored under the keys of the output
    have hloaded : cat.Puts (fun _ => True) base ∧ base.at? k = cat.at? k := by
      rcases hbase with rfl | ⟨-, hloads⟩
      · exact ⟨.refl, rfl⟩
      · refine ⟨.of_loads hloads fun _ _ => trivial, ?_⟩
        obtain ⟨ds, hstored, hinsert⟩ := hloads
        obtain ⟨-, rfl⟩ := Catalog.insert_eq_ok_iff.1 hinsert
        have hkeys : cat.keysOf (cat.libraryKey libref, ds.name) = cat.keysOf (libref, name) := by
          rw [Catalog.keysOf, Catalog.keysOf, hown, (Catalog.of_stored? hstored).1]
        exact Catalog.at?_putNamed_of_ne (m := (cat.libraryKey libref, ds.name)) (hkeys ▸ hk)
    have hkeys : base.keysOf (libref, name) = cat.keysOf (libref, name) :=
      hloaded.1.sameSources.keysOf_eq _
    have hcreated : created.keysOf (libref, name) = cat.keysOf (libref, name) ∧
        created.at? k = cat.at? k := by
      rcases hcases with ⟨-, rfl⟩ | ⟨-, -, rfl⟩
      · exact ⟨hkeys, hloaded.2⟩
      · refine ⟨?_, (Catalog.at?_putNamed_of_ne (m := (libref, name)) (hkeys ▸ hk)).trans hloaded.2⟩
        rw [← hkeys]
        exact Prod.ext Catalog.libraryKey_put rfl
    exact (Catalog.at?_putNamed_of_ne (m := (libref, name)) (hcreated.1 ▸ hk)).trans hcreated.2

/-- Where the participants are in memory and none of them is the output, a step merges the rows that
they had before it. -/
theorem mergedLists_of_inMemory {merges : Bool} {ms : List (String × String)}
    (hname : s.config.splitName header.output = (libref, name))
    (hown : s.catalog.libraryKey (s.catalog.libraryKey libref) = s.catalog.libraryKey libref)
    (hopen : opening header merges s = (.ok rows, opened)) (hbefore : s.catalog.Holds ms before)
    (hmemory : ∀ m ∈ ms, (s.catalog.named? m.1 m.2).isSome)
    (hother : ∀ m ∈ ms, s.catalog.keysOf m ≠ s.catalog.keysOf (libref, name)) :
    mergedLists vars opened (libref, name) ms = before.map (Row.sortBy vars) := by
  obtain ⟨found, hsource, houtput⟩ := exists_source_of_opening_eq_ok hname hopen
  have hfound := (puts_source hsource).sameSources
  have hkeys := (puts_opening hname hopen).sameSources.keysOf_eq
  have hat : ∀ m ∈ ms, opened.at? (s.catalog.keysOf m) = s.catalog.at? (s.catalog.keysOf m) := by
    intro m hm
    have hfoundown : found.libraryKey (found.libraryKey libref) = found.libraryKey libref := by
      rw [hfound.libraryKey_eq, hfound.libraryKey_eq, hown]
    rw [at?_withOutput houtput hfoundown (hfound.keysOf_eq (libref, name) ▸ hother m hm),
      at?_source (k := s.catalog.keysOf m) hsource (hmemory m hm)]
  -- the rows before the step, name by name
  have hrows : before = ms.map fun m => ((s.catalog.named? m.1 m.2).map (·.rows)).getD [] := by
    have hok : before.map (Except.ok (ε := LibraryError)) =
        (ms.map fun m => ((s.catalog.named? m.1 m.2).map (·.rows)).getD []).map .ok := by
      rw [List.map_map, ← hbefore]
      refine List.map_congr_left fun m hm => ?_
      obtain ⟨ds, hds⟩ := Option.isSome_iff_exists.1 (hmemory m hm)
      simp [Catalog.fetch_of_named? hds, hds, Except.map]
    exact List.map_injective_iff.2 (fun _ _ h => Except.ok.inj h) hok
  rw [hrows, List.map_map, mergedLists]
  refine List.map_congr_left fun m hm => ?_
  obtain ⟨ds, hds⟩ := Option.isSome_iff_exists.1 (hmemory m hm)
  have hread : opened.reading? ms (opened.keysOf m) = some ds := by
    apply Catalog.reading?_of_at? (List.mem_map_of_mem hm)
    rw [hkeys, hat m hm]
    exact hds
  have hne : opened.keysOf m ≠ opened.keysOf (libref, name) := by
    rw [hkeys, hkeys]
    exact hother m hm
  simp [hne, Catalog.readRows, hread, hds]

/-- The output of an opened step with one MERGE gets what `mergedLists` merges to. -/
theorem beginStep_merges_iff (hname : s.config.splitName header.output = (libref, name))
    (hmerges : mergesOf body = [datasets]) (hvars : byInForce s.byVariables body = vars)
    (hopen : opening header true s = (.ok rows, opened))
    (hbefore : s.catalog.Holds (datasets.map s.config.splitName) before) :
    (∃ t ds, (beginStep libref name body).start { s with catalog := opened } = .ok (.ok (), t) ∧
        t.catalog.named? libref name = some ds ∧ ds.rows = out) ↔
      Merge.mergeRows vars (mergedLists vars opened (libref, name)
        (datasets.map s.config.splitName)) = .ok out := by
  obtain ⟨base, old, hopened, hlib⟩ := exists_of_opening_eq_ok hname hopen
  have hold : opened.named? libref name = some old.clear := by
    rw [hopened]
    exact Catalog.named?_putNamed hlib
  have hputs := puts_opening hname hopen
  -- opening the output takes no participant away, so all of them can be sorted
  have havailable : ∀ m ∈ datasets.map s.config.splitName, ∃ ds,
      (opened.fetch m.1 m.2).1 = .ok ds := by
    intro m hm
    have hrows : (s.catalog.fetch m.1 m.2).1.map (·.rows) ∈ before.map Except.ok :=
      hbefore ▸ List.mem_map_of_mem hm
    obtain ⟨list, -, hlist⟩ := List.mem_map.1 hrows
    apply Catalog.exists_fetch_of_puts hputs
    cases hfetch : (s.catalog.fetch m.1 m.2).1 with
    | ok ds => exact ⟨ds, rfl⟩
    | error e => rw [hfetch] at hlist; cases hlist
  obtain ⟨lists, cat, hsort⟩ := Catalog.exists_sortEach havailable vars
  have hlists : lists = mergedLists vars opened (libref, name)
      (datasets.map s.config.splitName) := by
    rw [(Sorts.of_sortEach hsort).lists_eq, mergedLists_eq hold]
  subst hvars
  simp only [beginStep_start_eq_ok_iff hmerges]
  rw [exists_mergeInto_iff (s := { s with
    catalog := opened, context := resetContext s.context,
    byVariables := byInForce s.byVariables body }) hold]
  constructor
  · rintro ⟨lists', cat', hsort', hrows⟩
    rw [hsort] at hsort'
    cases hsort'
    exact hlists ▸ hrows
  · intro hrows
    exact ⟨lists, cat, hsort, hlists ▸ hrows⟩

/-- **A step with one MERGE puts the merge of the rows that its participants had before the step
into its output exactly if the merge comes out the same when the output counts as empty.** -/
theorem dataStep_merge_iff (hname : s.config.splitName header.output = (libref, name))
    (hmerges : mergesOf body = [datasets]) (hvars : byInForce s.byVariables body = vars)
    (hopen : opening header true s = (.ok rows, opened))
    (hbefore : s.catalog.Holds (datasets.map s.config.splitName) before)
    (hout : Merge.mergeRows vars (before.map (Row.sortBy vars)) = .ok out) :
    (∀ passes, (dataStep passes header body).start s =
      (beginStep libref name body >>= fun _ => runPasses passes libref name body rows).start
        { s with catalog := opened }) ∧
    ((∃ t ds, (beginStep libref name body).start { s with catalog := opened } = .ok (.ok (), t) ∧
        t.catalog.named? libref name = some ds ∧ ds.rows = out) ↔
      Merge.mergeRows vars (mergedLists vars opened (libref, name)
        (datasets.map s.config.splitName)) = .ok out) := by
  have hany := any_isMerge hmerges
  refine ⟨fun passes => dataStep_start_of_opening_eq_ok hname (hany ▸ hopen), ?_⟩
  subst hvars
  exact beginStep_merges_iff hname hmerges rfl hopen hbefore

/-- **A step with one MERGE puts the merge of its participants into its output** if they are in
memory and none of them is the output. -/
theorem beginStep_merges_of_inMemory (hname : s.config.splitName header.output = (libref, name))
    (hmerges : mergesOf body = [datasets]) (hvars : byInForce s.byVariables body = vars)
    (hown : s.catalog.libraryKey (s.catalog.libraryKey libref) = s.catalog.libraryKey libref)
    (hopen : opening header true s = (.ok rows, opened))
    (hbefore : s.catalog.Holds (datasets.map s.config.splitName) before)
    (hmemory : ∀ m ∈ datasets.map s.config.splitName, (s.catalog.named? m.1 m.2).isSome)
    (hother : ∀ m ∈ datasets.map s.config.splitName,
      s.catalog.keysOf m ≠ s.catalog.keysOf (libref, name))
    (hout : Merge.mergeRows vars (before.map (Row.sortBy vars)) = .ok out) :
    ∃ t ds, (beginStep libref name body).start { s with catalog := opened } = .ok (.ok (), t) ∧
      t.catalog.named? libref name = some ds ∧ ds.rows = out := by
  refine (beginStep_merges_iff hname hmerges hvars hopen hbefore).2 ?_
  rw [mergedLists_of_inMemory hname hown hopen hbefore hmemory hother]
  exact hout

/-! ## A step that merges into a participant -/

/-- A body that merges the two data sets by `id`. -/
def mergingBody : List Statement := [.byVariables ["id"], .merge ["a", "b"]]

theorem holds_participantRows :
    twoParticipants.catalog.Holds [("", "a"), ("", "b")] participantRows := by
  unfold Catalog.Holds
  decide +kernel

/-- Control: a step that merges into a third data set leaves there what the
participants merge to. -/
theorem dataStep_merge_iff_other_output : ∃ opened t ds,
    opening ⟨"c", none, [], []⟩ true twoParticipants = (.ok [], opened) ∧
      (beginStep "" "c" mergingBody).start { twoParticipants with catalog := opened } =
        .ok (.ok (), t) ∧
      t.catalog.named? "" "c" = some ds ∧ ds.rows = combinedRows := by
  have hopen : opening ⟨"c", none, [], []⟩ true twoParticipants =
      (.ok [], (opening ⟨"c", none, [], []⟩ true twoParticipants).2) :=
        Prod.ext (by decide +kernel) rfl
  have hout : Merge.mergeRows ["id"] (participantRows.map (Row.sortBy ["id"])) =
      .ok combinedRows := by
    decide +kernel
  have hlists : Merge.mergeRows ["id"]
      (mergedLists ["id"] (opening ⟨"c", none, [], []⟩ true twoParticipants).2 ("", "c")
        [("", "a"), ("", "b")]) = .ok combinedRows := by
    decide +kernel
  have hname : twoParticipants.config.splitName "c" = ("", "c") := rfl
  have hmerges : mergesOf mergingBody = [["a", "b"]] := rfl
  have hvars : byInForce twoParticipants.byVariables mergingBody = ["id"] := rfl
  obtain ⟨t, ds, hrun, hnamed, hrows⟩ :=
    (dataStep_merge_iff hname hmerges hvars hopen holds_participantRows hout).2.2 hlists
  exact ⟨_, t, ds, hopen, hrun, hnamed, hrows⟩

/-- Control: a step that merges into one of its participants does not leave there what the
participants merge to. -/
theorem not_merged_into_participant :
    opening ⟨"a", none, [], []⟩ true twoParticipants =
        (.ok [], (opening ⟨"a", none, [], []⟩ true twoParticipants).2) ∧
      twoParticipants.catalog.Holds [("", "a"), ("", "b")] participantRows ∧
      Merge.mergeRows ["id"] (participantRows.map (Row.sortBy ["id"])) = .ok combinedRows ∧
      ¬ ∃ t ds, (beginStep "" "a" mergingBody).start { twoParticipants with
          catalog := (opening ⟨"a", none, [], []⟩ true twoParticipants).2 } = .ok (.ok (), t) ∧
        t.catalog.named? "" "a" = some ds ∧ ds.rows = combinedRows := by
  refine ⟨Prod.ext (by decide +kernel) rfl, holds_participantRows, by decide +kernel, ?_⟩
  rintro ⟨t, ds, hrun, hnamed, hrows⟩
  -- the row of the participant that is the output is gone
  have hafter : ((beginStep "" "a" mergingBody).start { twoParticipants with
      catalog := (opening ⟨"a", none, [], []⟩ true twoParticipants).2 }).toOption.bind
        (fun result => (result.2.catalog.named? "" "a").map (·.rows)) =
      some [.ofList [("id", .number (.ofNat 1)), ("y", .number (.ofNat 2))]] := by
    decide +kernel
  have hlost : (t.catalog.named? "" "a").map (·.rows) =
      some [.ofList [("id", .number (.ofNat 1)), ("y", .number (.ofNat 2))]] :=
    Run.end_eq_some hafter hrun
  rw [hnamed, Option.map_some, hrows] at hlost
  exact absurd hlost (by decide +kernel)

end Session

end DataStep
