import DataStep.Proofs.Catalog.Atomicity
import DataStep.Proofs.Catalog.Reading
import DataStep.Proofs.Merge.Plan
import DataStep.Proofs.Sort.Rows

/-!
# A merge only reorders its participants

A merge sorts its participants one after another before it looks at their keys, so it may fail
when some of them are sorted and others are not. Whichever way it ends, the catalog is as
before but for the participants that it has reached: these are stably sorted, and they are in
memory if they were not (`Catalog.Reorders`). `Session.MergeEnd` tells which participants are
reached at each end of a merge.

Where sorting fails, the participants in front of the one that cannot be had are sorted
(`exists_reached_of_error`), so this is what sorting them leaves (`Sorts.reorders`). Main statement:
every merge comes to an end and only reorders, if its participants are read in place
(`merge_reorders`). One that is read from a library which is not found under its own key replaces
another data set (`not_reorders_blanks_around_default`).
-/

set_option autoImplicit false

namespace DataStep

/-! ## Sorted data sets -/

/-- The second data set is the first one with its rows stably sorted. -/
structure Dataset.Resorted (vars : List String) (before after : Dataset) : Prop where
  name_eq : after.name = before.name
  columns_eq : after.columns = before.columns
  rows : Row.StablySorts vars before.rows after.rows

theorem Dataset.resorted_sortedBy (vars : List String) (ds : Dataset) :
    ds.Resorted vars (ds.sortedBy vars) :=
  ⟨rfl, rfl, Row.stablySorts_sortBy vars ds.rows⟩

namespace Catalog

variable {cat cat' base : Catalog} {vars : List String} {m : String × String}
  {ms : List (String × String)} {lists : List (List Row)} {e : LibraryError}

/-- Participants were sorted and nothing else was done. Data sets in memory keep their names, their
columns and their rows up to order, and those that are not participants stay as they are. Every
participant is in memory and stably sorted, and what is new is what the directory of a participant
holds. -/
structure Reorders (vars : List String) (reached : List (String × String)) (cat cat' : Catalog) :
    Prop where
  kept : ∀ k before, cat.at? k = some before → ∃ after, cat'.at? k = some after ∧
    after.name = before.name ∧ after.columns = before.columns ∧ after.rows.Perm before.rows
  others : ∀ k, k ∉ reached.map cat.keysOf → cat'.at? k = cat.at? k
  sorted : ∀ m ∈ reached, ∃ source after, cat.reading? reached (cat.keysOf m) = some source ∧
    cat'.at? (cat.keysOf m) = some after ∧ source.Resorted vars after
  new : ∀ k after, cat.at? k = none → cat'.at? k = some after → ∃ m ∈ reached, cat.keysOf m = k ∧
    ∃ file, cat.stored? (cat.libraryKey m.1) m.2 = .ok (some file) ∧ file.Resorted vars after

/-! ## What sorting the participants leaves -/

/-- A participant that is not in memory is taken from the directory of its library. -/
theorem exists_stored?_of_reading? {k : String × String} {ds : Dataset}
    (h : cat.reading? ms k = some ds) (hnone : cat.at? k = none) :
    ∃ m ∈ ms, cat.keysOf m = k ∧ cat.stored? (cat.libraryKey m.1) m.2 = .ok (some ds) := by
  obtain ⟨m, hfound, hread⟩ := Option.bind_eq_some_iff.1 h
  obtain rfl : cat.keysOf m = k := by simpa using List.find?_some hfound
  refine ⟨m, List.mem_of_find?_eq_some hfound, rfl, ?_⟩
  have hfetch : (cat.fetch m.1 m.2).1 = .ok ds := by
    cases hr : (cat.fetch m.1 m.2).1 with
    | error e => rw [hr] at hread; cases hread
    | ok found =>
      rw [hr] at hread
      exact congrArg _ (Option.some.inj hread)
  rcases fetch_eq_ok_iff.1 (Prod.ext hfetch rfl) with ⟨hnamed, -⟩ | ⟨-, hstored, -⟩
  · rw [at?_keysOf, hnamed] at hnone
    cases hnone
  · exact hstored

/-- **Sorting participants only reorders them.** -/
theorem Sorts.reorders (h : Sorts vars ms cat lists cat') : Reorders vars ms cat cat' where
  kept k before hbefore := by
    by_cases hmem : k ∈ ms.map cat.keysOf
    · refine ⟨before.sortedBy vars, ?_, rfl, rfl, Row.sortBy_perm vars before.rows⟩
      rw [h.at?_eq, if_pos hmem, reading?_of_at? hmem hbefore]
      rfl
    · exact ⟨before, by rw [h.at?_eq, if_neg hmem, hbefore], rfl, rfl, .refl _⟩
  others k hmem := by rw [h.at?_eq, if_neg hmem]
  sorted m hm := by
    obtain ⟨source, hsource⟩ := Option.isSome_iff_exists.1 (h.read m hm)
    refine ⟨source, source.sortedBy vars, hsource, ?_, source.resorted_sortedBy vars⟩
    rw [h.at?_eq, if_pos (List.mem_map_of_mem hm), hsource]
    rfl
  new k after hnone hafter := by
    rw [h.at?_eq] at hafter
    split at hafter
    case isTrue =>
      obtain ⟨source, hsource, rfl⟩ := Option.map_eq_some_iff.1 hafter
      obtain ⟨m, hm, hkeys, hstored⟩ := exists_stored?_of_reading? hsource hnone
      exact ⟨m, hm, hkeys, source, hstored, source.resorted_sortedBy vars⟩
    case isFalse =>
      rw [hnone] at hafter
      cases hafter

/-- Where sorting fails, the participants in front of the one that cannot be had are sorted. -/
theorem exists_reached_of_error (h : sortEach vars ms cat = (.error e, cat')) :
    ∃ reached m rest lists base, ms = reached ++ m :: rest ∧
      sortEach vars reached cat = (.ok lists, base) ∧ base.fetch m.1 m.2 = (.error e, cat') := by
  induction ms generalizing cat with
  | nil => cases h
  | cons first ms ih =>
    rw [sortEach] at h
    split at h
    · rename_i hupdate
      cases h
      unfold update at hupdate
      split at hupdate
      · rename_i hfetch
        cases hupdate
        exact ⟨[], first, ms, [], cat, rfl, rfl, hfetch⟩
      · cases hupdate
    · rename_i ds mid hfirst
      split at h
      · rename_i hrest
        cases h
        obtain ⟨reached, m, rest, lists, base, rfl, hsorted, hfetch⟩ := ih hrest
        exact ⟨first :: reached, m, rest, ds.rows :: lists, base, rfl,
          sortEach_cons_eq_ok_iff.2 ⟨ds, mid, lists, hfirst, hsorted, rfl⟩, hfetch⟩
      · cases h

/-! ## The participant that cannot be had -/

/-- A name that is in memory, or whose library has its own key if its
directory holds what is named. -/
def ReadsInPlace (cat : Catalog) (m : String × String) : Prop :=
  ∀ ds, cat.at? (cat.keysOf m) = none → cat.stored? (cat.libraryKey m.1) m.2 = .ok (some ds) →
    cat.OwnKey m

/-- Putting data sets in memory does not change where names are read. -/
theorem ReadsInPlace.of_puts {D : Dataset → Prop} (h : cat.ReadsInPlace m)
    (hputs : cat.Puts D base) :
    base.ReadsInPlace m := by
  intro ds hnone hstored
  have hsources := hputs.sameSources
  have hbefore : cat.at? (cat.keysOf m) = none := by
    rw [← Option.not_isSome_iff_eq_none]
    intro hsome
    have hstays : (base.at? (cat.keysOf m)).isSome := hputs.stays hsome
    rw [← hsources.keysOf_eq, hnone] at hstays
    cases hstays
  rw [hsources.stored?_eq, hsources.libraryKey_eq] at hstored
  rw [OwnKey, hsources.libraryKey_eq, hsources.libraryKey_eq]
  exact h ds hbefore hstored

/-- A name that is read in place and cannot be had leaves the catalog. -/
theorem fetch_of_error_of_readsInPlace (h : cat.ReadsInPlace m)
    (hfails : cat.fetch m.1 m.2 = (.error e, cat')) : cat' = cat := by
  rcases cat.fetch_snd m.1 m.2 with hsame | ⟨ds, hstored, -⟩
  · rwa [hfails] at hsame
  · cases hnamed : cat.named? m.1 m.2 with
    | some found =>
      rw [fetch_of_named? hnamed] at hfails
      cases hfails
    | none => exact fetch_of_error (h ds hnamed hstored) hfails

end Catalog

namespace Merge

variable {vars : List String} {lists : List (List Row)} {e : MergeError}

/-- Rounds fail on a BY variable that has values of two types. -/
theorem exists_mixed_of_rounds (h : rounds vars lists = .error e) :
    ∃ v ∈ vars, e = .keyTypeMismatch v := by
  fun_induction rounds vars lists with
  | case1 lists hnone => cases h
  | case2 lists hnil => cases h
  | case3 lists head hs hheads rows v hv =>
    cases h
    exact ⟨v, List.mem_of_find?_eq_some hv, rfl⟩
  | case4 lists head hs hheads rows hv key combinedRow ih =>
    cases hrest : rounds vars ((head :: hs).map (advance vars key)) with
    | ok rest => rw [hrest] at h; cases h
    | error e' =>
      rw [hrest] at h
      cases h
      exact ih hrest

end Merge

namespace Session

open Catalog (sortEach Reorders ReadsInPlace)

variable {datasets vars : List String} {s : Session}

/-! ## The ends of a merge -/

/-- How a merge ends and which of its participants it has reached then, with the
catalog that it leaves. -/
inductive MergeEnd (vars : List String) (ms : List (String × String)) (cat : Catalog) :
    List (String × String) → Except RunError (List Row) → Prop where
  | merged (rows : List Row) : MergeEnd vars ms cat ms (.ok rows)
  | withoutBy : vars = [] → MergeEnd vars ms cat [] (.error (.merge .missingBy))
  | mixedTypes (v : String) : v ∈ vars →
      MergeEnd vars ms cat ms (.error (.merge (.keyTypeMismatch v)))
  | unavailable (reached : List (String × String)) (m : String × String)
      (rest : List (String × String))
      (e : LibraryError) : ms = reached ++ m :: rest → (cat.fetch m.1 m.2).1 = .error e →
      MergeEnd vars ms cat reached (.error (.library e))

/-- **A merge only reorders its participants.** However it ends, it has sorted those that it has
reached and left everything else in the catalog: all of them, unless one of them cannot be had or
there are no BY variables. -/
theorem merge_reorders (vars : List String)
    (hplace : ∀ m ∈ datasets.map s.config.splitName, s.catalog.ReadsInPlace m) :
    ∃ r t reached, (merge datasets vars).start s = .ok (r, t) ∧
      MergeEnd vars (datasets.map s.config.splitName) t.catalog reached r ∧
      Reorders vars reached s.catalog t.catalog := by
  by_cases hvars : vars = []
  · subst hvars
    exact ⟨_, s, [], rfl, .withoutBy rfl, (Catalog.Sorts.nil s.catalog).reorders⟩
  · rw [merge_start hvars]
    cases hsort : sortEach vars (datasets.map s.config.splitName) s.catalog with
    | mk sorted cat =>
      cases sorted with
      | error e =>
        obtain ⟨reached, m, rest, lists, base, hms, hreached, hfetch⟩ :=
          Catalog.exists_reached_of_error hsort
        have hsorts := Catalog.Sorts.of_sortEach hreached
        -- the participant that cannot be had is still read in place when its turn comes
        have hbase : base.ReadsInPlace m := by
          refine ReadsInPlace.of_puts (hplace m ?_) hsorts.puts
          rw [hms]
          exact List.mem_append_right _ List.mem_cons_self
        obtain rfl := Catalog.fetch_of_error_of_readsInPlace hbase hfetch
        exact ⟨_, _, reached, rfl, .unavailable reached m rest e hms (congrArg Prod.fst hfetch),
          hsorts.reorders⟩
      | ok lists =>
        have hreorders := (Catalog.Sorts.of_sortEach hsort).reorders
        dsimp only
        cases hmerge : Merge.mergeRows vars lists with
        | error e =>
          rw [Merge.mergeRows_of_ne_nil hvars] at hmerge
          obtain ⟨v, hv, rfl⟩ := Merge.exists_mixed_of_rounds hmerge
          exact ⟨_, _, _, rfl, .mixedTypes v hv, hreorders⟩
        | ok rows => exact ⟨_, _, _, rfl, .merged rows, hreorders⟩

/-- A row with an `id`. -/
def idRow (n : Nat) : Row := .ofList [("id", .number (.ofNat n))]

/-- A session with a data set in memory and one in the directory of a library,
neither of them sorted. -/
def unsortedParticipants : Session :=
  let s := holding .standard "a" [idRow 2, idRow 1]
  s.mapCatalog fun cat => { cat.assign "lib" "d" with files := .ofList [("d/b.csv", "id\n2\n1\n")] }

/-- Control: one participant is named twice, one is read from its directory, and the library of the
last one is not declared. The merge fails there, with the others in memory and sorted. -/
theorem merge_reorders_undeclared :
    let datasets := ["a", "lib.b", " A ", "no.c"]
    let ms := datasets.map unsortedParticipants.config.splitName
    (∀ m ∈ ms, unsortedParticipants.catalog.ReadsInPlace m) ∧
      ∃ r t reached, (merge datasets ["id"]).start unsortedParticipants = .ok (r, t) ∧
        columnsAfterFailure ("LIB", "b") (r, t) = some ["id"] ∧
        MergeEnd ["id"] ms t.catalog reached r ∧
        Reorders ["id"] reached unsortedParticipants.catalog t.catalog := by
  intro datasets ms
  have hown : ∀ m ∈ ms, unsortedParticipants.catalog.OwnKey m := by decide +kernel
  have hplace : ∀ m ∈ ms, unsortedParticipants.catalog.ReadsInPlace m := fun m hm _ _ _ => hown m hm
  have hfails : ((merge datasets ["id"]).start unsortedParticipants).toOption.bind
      (columnsAfterFailure ("LIB", "b")) = some ["id"] := by decide +kernel
  obtain ⟨r, t, reached, hrun, hend, hreorders⟩ := merge_reorders ["id"] hplace
  exact ⟨hplace, r, t, reached, hrun, Run.end_eq_some hfails hrun, hend, hreorders⟩

/-- Control: the only participant is read from the directory of the default library and lost to the
library without the blanks. A data set that was in memory there has other columns then, whichever
participants are taken as reached. -/
theorem not_reorders_blanks_around_default :
    (blanksAroundDefault.catalog.at? ("W", "b")).map (·.columns) = some ["id", "y"] ∧
      ∃ e t, (merge ["b"] ["id"]).start blanksAroundDefault = .ok (.error e, t) ∧
        (t.catalog.at? ("W", "b")).map (·.columns) = some ["id"] ∧
        ∀ reached, ¬ Reorders ["id"] reached blanksAroundDefault.catalog t.catalog := by
  have hbefore : (blanksAroundDefault.catalog.at? ("W", "b")).map (·.columns) =
      some ["id", "y"] := by
    decide +kernel
  obtain ⟨e, t, hrun, hafter⟩ : ∃ e t,
      (merge ["b"] ["id"]).start blanksAroundDefault = .ok (.error e, t) ∧
      (t.catalog.at? ("W", "b")).map (·.columns) = some ["id"] := exists_failure (by decide +kernel)
  refine ⟨hbefore, e, t, hrun, hafter, fun reached hreorders => ?_⟩
  obtain ⟨before, hat, hcolumns⟩ := Option.map_eq_some_iff.1 hbefore
  obtain ⟨after, hat', -, hsame, -⟩ := hreorders.kept _ before hat
  rw [hat', Option.map_some, hsame, hcolumns] at hafter
  exact absurd hafter (by decide)

end Session

end DataStep
