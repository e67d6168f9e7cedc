import DataStep.Proofs.Merge.Participants
import DataStep.Execution
import Mathlib.Data.List.Basic

/-!
# Where a merge outside a DATA step writes

A MERGE at the top level writes into the current data set, and it finds out which one that is after
it has fetched its participants. A participant that is read from the directory of its library
becomes current, so the merge then overwrites that participant. Main statement: a merge writes into
the data set that was current before exactly if all participants were in memory, or if it comes to
what both data sets have already (`mergeCurrent_writes_iff`). It need not write there
(`not_writesToCurrent_loaded`).
-/

set_option autoImplicit false

namespace DataStep

namespace Catalog

variable {cat cat' : Catalog} {k : String × String} {ds : Dataset} {f : Dataset → Dataset}

/-! ## The current data set -/

/-- The keys of the current data set, if it is in memory. -/
def selected? (cat : Catalog) : Option (String × String) :=
  cat.current.filter fun k => (cat.at? k).isSome

theorem selected?_eq_some_iff :
    cat.selected? = some k ↔ cat.current = some k ∧ (cat.at? k).isSome :=
  Option.filter_eq_some_iff

theorem current?_of_selected? (h : cat.selected? = some k) (hds : cat.at? k = some ds) :
    cat.current? = .ok ds := by
  obtain ⟨hcurrent, -⟩ := selected?_eq_some_iff.1 h
  have hfind : cat.find? k.1 k.2 = some ds := hds
  simp [current?, hcurrent, hfind]

theorem current?_of_selected?_eq_none (h : cat.selected? = none) :
    cat.current? = .error .noCurrentDataset := by
  unfold current?
  cases hcurrent : cat.current with
  | none => rfl
  | some k =>
    have hnone : cat.find? k.1 k.2 = none := by
      rw [selected?, hcurrent] at h
      simpa [at?] using h
    simp only [Option.bind_some, hnone]

theorem updateCurrent_of_selected? (h : cat.selected? = some k) (hds : cat.at? k = some ds) :
    cat.updateCurrent f = (.ok (f ds), cat.put k.1 k.2 (f ds)) := by
  obtain ⟨hcurrent, -⟩ := selected?_eq_some_iff.1 h
  simp [updateCurrent, hcurrent, current?_of_selected? h hds]

theorem updateCurrent_of_selected?_eq_none (h : cat.selected? = none) :
    cat.updateCurrent f = (.error .noCurrentDataset, cat) := by
  rw [updateCurrent, current?_of_selected?_eq_none h]
  cases cat.current <;> rfl

/-- What is in memory after a data set in memory was replaced. -/
theorem at?_put {old : Dataset} (h : cat.at? k = some old) (k' : String × String) :
    (cat.put k.1 k.2 ds).at? k' = if k' = k then some ds else cat.at? k' := by
  obtain ⟨lib, hlib, -⟩ := exists_library_of_find? h
  split
  case isTrue heq =>
    subst heq
    exact find?_put_self (hlib ▸ rfl)
  case isFalse hne => exact at?_put_of_ne hne

/-- A participant has its rows up to order after a merge. -/
def Reordered (ms : List (String × String)) (k : String × String) (cat cat' : Catalog) : Prop :=
  ∃ before after, cat.reading? ms k = some before ∧ cat'.at? k = some after ∧
    after.rows.Perm before.rows

/-- Replacing the rows of another data set leaves the rows of a participant. -/
theorem Reordered.put {ms : List (String × String)} {k' : String × String} {old : Dataset}
    (h : Reordered ms k' cat cat') (hold : cat'.at? k = some old) (hne : k' ≠ k) :
    Reordered ms k' cat (cat'.put k.1 k.2 ds) := by
  obtain ⟨before, after, hbefore, hafter, hperm⟩ := h
  exact ⟨before, after, hbefore, by rw [at?_put hold, if_neg hne, hafter], hperm⟩

namespace Sorts

variable {vars : List String} {ms : List (String × String)} {lists : List (List Row)}

/-- Sorting the participants leaves every one of them with its rows up to order. -/
theorem reordered (h : Sorts vars ms cat lists cat') {m : String × String} (hm : m ∈ ms) :
    Reordered ms (cat.keysOf m) cat cat' := by
  obtain ⟨before, hbefore⟩ := Option.isSome_iff_exists.1 (h.read m hm)
  refine ⟨before, before.sortedBy vars, hbefore, ?_, Row.sortBy_perm vars before.rows⟩
  rw [h.at?_eq, if_pos (List.mem_map_of_mem hm), hbefore]
  rfl

/-- Where all participants are in memory the current data set stays current. -/
theorem selected?_of_inMemory (h : Sorts vars ms cat lists cat')
    (hall : ∀ m ∈ ms, (cat.at? (cat.keysOf m)).isSome) : cat'.selected? = cat.selected? := by
  have hsome : ∀ k, (cat'.at? k).isSome = (cat.at? k).isSome := by
    intro k
    rw [h.at?_eq]
    split
    case isTrue hmem =>
      obtain ⟨m, hm, rfl⟩ := List.mem_map.1 hmem
      rw [Option.isSome_map, h.read m hm, hall m hm]
    case isFalse => rfl
  rw [selected?, selected?, h.current_of_inMemory hall]
  simp only [hsome]

/-- Otherwise one of the participants that were not is current. -/
theorem selected?_of_loaded (h : Sorts vars ms cat lists cat')
    (hloaded : ∃ m ∈ ms, cat.at? (cat.keysOf m) = none) :
    ∃ m ∈ ms, cat.at? (cat.keysOf m) = none ∧ cat'.selected? = some (cat.keysOf m) := by
  obtain ⟨m, hm, hnone, hcurrent⟩ := h.current_of_loaded hloaded
  obtain ⟨before, after, -, hafter, -⟩ := h.reordered hm
  exact ⟨m, hm, hnone, selected?_eq_some_iff.2 ⟨hcurrent, by rw [hafter]; rfl⟩⟩

end Sorts

end Catalog

namespace Session

open Catalog (Sorts Reordered)

variable {datasets : List String} {s u t : Session} {rows : List Row} {k : String × String}
  {C : Dataset}

/-! ## Merging into the current data set -/

/-- A merge that comes to some rows writes them into the data set that was current before and
leaves the other participants their rows up to order; without a current data set it fails and
leaves them to all participants. -/
def WritesToCurrent (datasets : List String) (rows : List Row) (s : Session) : Prop :=
  let ms := datasets.map s.config.splitName
  match s.catalog.selected? with
  | some k => ∃ t ds, (mergeCurrent datasets).start s = .ok (.ok (), t) ∧
      t.catalog.at? k = some ds ∧ ds.rows = rows ∧
      ∀ m ∈ ms, s.catalog.keysOf m ≠ k → Reordered ms (s.catalog.keysOf m) s.catalog t.catalog
  | none => ∃ t, (mergeCurrent datasets).start s = .ok (.error (.library .noCurrentDataset), t) ∧
      ∀ m ∈ ms, Reordered ms (s.catalog.keysOf m) s.catalog t.catalog

theorem mergeCurrent_start (hmerge : (merge datasets s.byVariables).start s = .ok (.ok rows, u)) :
    (mergeCurrent datasets).start s =
      (onCatalog (fun cat => cat.updateCurrent fun ds => ds.replaceRows rows) >>= fun _ =>
        pure ()).start u := by
  rw [mergeCurrent, Run.start_bind_of_ok (Run.start_get s)]
  exact Run.start_bind_of_ok hmerge

theorem mergeCurrent_start_of_selected?
    (hmerge : (merge datasets s.byVariables).start s = .ok (.ok rows, u))
    (hk : u.catalog.selected? = some k) (hC : u.catalog.at? k = some C) :
    (mergeCurrent datasets).start s =
      .ok (.ok (), { u with catalog := u.catalog.put k.1 k.2 (C.replaceRows rows) }) := by
  rw [mergeCurrent_start hmerge,
    Run.start_bind_of_ok (onCatalog_start_of_ok (Catalog.updateCurrent_of_selected? hk hC))]
  rfl

theorem mergeCurrent_start_of_none
    (hmerge : (merge datasets s.byVariables).start s = .ok (.ok rows, u))
    (hk : u.catalog.selected? = none) :
    (mergeCurrent datasets).start s = .ok (.error (.library .noCurrentDataset), u) := by
  rw [mergeCurrent_start hmerge]
  apply Run.start_bind_of_error
  rw [onCatalog, Run.start_bind_of_ok (onCatalog?_start _ u),
    Catalog.updateCurrent_of_selected?_eq_none hk]
  rfl

theorem sorts_of_merge (hmerge : (merge datasets s.byVariables).start s = .ok (.ok rows, u)) :
    ∃ lists, Sorts s.byVariables (datasets.map s.config.splitName) s.catalog lists u.catalog := by
  obtain ⟨lists, cat, hsort, -, rfl⟩ := merge_start_eq_ok_iff.1 hmerge
  exact ⟨lists, Sorts.of_sortEach hsort⟩

/-- A merge of participants in memory writes into the data set that was current before. -/
theorem writesToCurrent_of_inMemory
    (hmerge : (merge datasets s.byVariables).start s = .ok (.ok rows, u))
    (hall : ∀ m ∈ datasets.map s.config.splitName, (s.catalog.at? (s.catalog.keysOf m)).isSome) :
    WritesToCurrent datasets rows s := by
  obtain ⟨lists, hsorts⟩ := sorts_of_merge hmerge
  have hselected := hsorts.selected?_of_inMemory hall
  unfold WritesToCurrent
  cases hk : s.catalog.selected? with
  | none =>
    exact ⟨u, mergeCurrent_start_of_none hmerge (hselected.trans hk),
      fun m hm => hsorts.reordered hm⟩
  | some k =>
    have huk : u.catalog.selected? = some k := hselected.trans hk
    obtain ⟨C, hC⟩ := Option.isSome_iff_exists.1 (Catalog.selected?_eq_some_iff.1 huk).2
    refine ⟨_, C.replaceRows rows, mergeCurrent_start_of_selected? hmerge huk hC, ?_, rfl, ?_⟩
    · rw [Catalog.at?_put hC, if_pos rfl]
    · intro m hm hne
      exact (hsorts.reordered hm).put hC hne

/-- Where a participant was not in memory, one of those that were not takes the result. -/
theorem writesToCurrent_iff_of_loaded
    (hmerge : (merge datasets s.byVariables).start s = .ok (.ok rows, u))
    (hloaded : ∃ m ∈ datasets.map s.config.splitName, s.catalog.at? (s.catalog.keysOf m) = none) :
    WritesToCurrent datasets rows s ↔
      ∃ k C P, s.catalog.selected? = some k ∧ u.catalog.at? k = some C ∧ C.rows = rows ∧
        u.catalog.current? = .ok P ∧ rows.Perm P.rows := by
  obtain ⟨lists, hsorts⟩ := sorts_of_merge hmerge
  obtain ⟨m, hm, hnone, hum⟩ := hsorts.selected?_of_loaded hloaded
  obtain ⟨before, P, hbefore, hP, hperm⟩ := hsorts.reordered hm
  have hstart := mergeCurrent_start_of_selected? hmerge hum hP
  have hcurrent := Catalog.current?_of_selected? hum hP
  unfold WritesToCurrent
  cases hk : s.catalog.selected? with
  | none =>
    constructor
    · rintro ⟨t, hfails, -⟩
      rw [hstart] at hfails
      cases hfails
    · rintro ⟨k, C, Q, hsome, -⟩
      cases hsome
  | some k =>
    -- the data set that was current is in memory, so it is another one
    have hne : s.catalog.keysOf m ≠ k := by
      rintro rfl
      have hmemory := (Catalog.selected?_eq_some_iff.1 hk).2
      rw [hnone] at hmemory
      cases hmemory
    constructor
    · rintro ⟨t, ds, hrun, hds, hrows, hkeeps⟩
      rw [hstart] at hrun
      cases hrun
      -- the result went to the participant, so the current data set has what it had
      rw [Catalog.at?_put hP, if_neg hne.symm] at hds
      obtain ⟨before', after, hbefore', hafter, hafterperm⟩ := hkeeps m hm hne
      rw [Catalog.at?_put hP, if_pos rfl] at hafter
      cases hafter
      rw [hbefore] at hbefore'
      cases hbefore'
      exact ⟨k, ds, P, rfl, hds, hrows, hcurrent, hafterperm.trans hperm.symm⟩
    · rintro ⟨k', C, Q, hk', hC, hrows, hQ, hrowsperm⟩
      cases hk'
      rw [hcurrent] at hQ
      cases hQ
      refine ⟨_, C, hstart, ?_, hrows, fun n hn hnk => ?_⟩
      · rw [Catalog.at?_put hP, if_neg hne.symm, hC]
      · by_cases hnm : s.catalog.keysOf n = s.catalog.keysOf m
        · rw [hnm]
          refine ⟨before, P.replaceRows rows, hbefore, ?_, hrowsperm.trans hperm⟩
          rw [Catalog.at?_put hP, if_pos rfl]
        · exact (hsorts.reordered hn).put hP hnm

/-- **A merge outside a DATA step writes into the data set that was current before exactly if all
participants were in memory, or the merge comes to rows that this data set and the participant that
is current after the fetches have already.** -/
theorem mergeCurrent_writes_iff
    (hmerge : (merge datasets s.byVariables).start s = .ok (.ok rows, u)) :
    WritesToCurrent datasets rows s ↔
      (∀ m ∈ datasets.map s.config.splitName, (s.catalog.at? (s.catalog.keysOf m)).isSome) ∨
      ∃ k C P, s.catalog.selected? = some k ∧ u.catalog.at? k = some C ∧ C.rows = rows ∧
        u.catalog.current? = .ok P ∧ rows.Perm P.rows := by
  by_cases hall : ∀ m ∈ datasets.map s.config.splitName, (s.catalog.at? (s.catalog.keysOf m)).isSome
  · exact iff_of_true (writesToCurrent_of_inMemory hmerge hall) (.inl hall)
  · have hloaded : ∃ m ∈ datasets.map s.config.splitName,
        s.catalog.at? (s.catalog.keysOf m) = none := by
      simpa using hall
    rw [writesToCurrent_iff_of_loaded hmerge hloaded]
    exact (or_iff_right hall).symm

/-- The two participants in memory, with a third data set that is current,
and `id` as BY variable. -/
def currentThird : Session :=
  { twoParticipants with
    catalog := (twoParticipants.catalog.putNamed "" "c"
      (.ofRows "c" [.ofList [("z", .number (.ofNat 9))]])).select "WORK" "c"
    byVariables := ["id"] }

/-- Control: a merge of participants in memory writes into the third data set. -/
theorem mergeCurrent_writes_iff_third : WritesToCurrent ["a", "b"] combinedRows currentThird := by
  obtain ⟨u, hmerge⟩ : ∃ u, (merge ["a", "b"] currentThird.byVariables).start currentThird =
      .ok (.ok combinedRows, u) := Run.exists_start_eq_value (by decide +kernel)
  exact (mergeCurrent_writes_iff hmerge).2 (.inl (by decide +kernel))

/-- A session with a participant in memory, one in the directory of a library, and a third
data set that is current. -/
def loadedParticipant : Session :=
  { currentThird with
    catalog := { currentThird.catalog.assign "lib" "d" with
      files := .ofList [("d/b.csv", "id,y\n1,2\n")] } }

/-- Control: a merge with a participant that is read from its directory leaves the data set that was
current as it was. -/
theorem not_writesToCurrent_loaded :
    (∃ u, (merge ["a", "lib.b"] loadedParticipant.byVariables).start loadedParticipant =
      .ok (.ok combinedRows, u)) ∧
      ¬ WritesToCurrent ["a", "lib.b"] combinedRows loadedParticipant := by
  refine ⟨Run.exists_start_eq_value (by decide +kernel), ?_⟩
  have hcurrent : loadedParticipant.catalog.selected? = some ("WORK", "c") := by decide +kernel
  have hafter : ((mergeCurrent ["a", "lib.b"]).start loadedParticipant).toOption.bind
        (fun result => (result.2.catalog.at? ("WORK", "c")).map (·.rows)) =
      some [.ofList [("z", .number (.ofNat 9))]] := by
    decide +kernel
  unfold WritesToCurrent
  rw [hcurrent]
  rintro ⟨t, ds, hrun, hds, hrows, -⟩
  have hkept : (t.catalog.at? ("WORK", "c")).map (·.rows) =
      some [.ofList [("z", .number (.ofNat 9))]] :=
    Run.end_eq_some hafter hrun
  rw [hds, Option.map_some, hrows] at hkept
  exact absurd hkept (by decide +kernel)

end Session

end DataStep
