import DataStep.Proofs.Catalog
import DataStep.Proofs.Dataset

/-!
# Data sets from directories

`stored?` is the data set that the directory of a library holds under a name. A data set that is
asked for comes from memory or from there, and then it is put in memory and made current
(`fetch_eq_ok_iff`). Whatever the operations by name do comes down to putting data sets in memory
and selecting the current one (`Puts`), so libraries stay where they are, a data set in memory
stays in memory (`Puts.stays`), and a property of all data sets needs to be looked at only where
one is put (`Puts.all`).
-/

set_option autoImplicit false

namespace DataStep.Catalog

variable {cat cat' cat'' : Catalog} {l d l' d' libref name : String} {ds : Dataset}

/-! ## Files of data sets -/

/-- The data set of the file of a name in the directory of a library, if there is one. A file that
cannot be read is an error. -/
def stored? (cat : Catalog) (libraryKey name : String) : Except LibraryError (Option Dataset) :=
  match (cat.libraries.get? libraryKey).bind (·.path) with
  | none => .ok none
  | some directory =>
    let file := FileTree.join directory (Text.trimString name ++ ".csv")
    if cat.files.isFile file then
      match cat.files.read? file with
      | none => .error (.unreadableFile file)
      | some text => (Delimited.read name text cat.delimiter file).map some
    else .ok none

theorem loadFromLibrary_eq (cat : Catalog) (l name : String) : cat.loadFromLibrary l name =
    match cat.stored? l name with
    | .error e => .error e
    | .ok none => .ok none
    | .ok (some ds) => (cat.insert l ds).map some := by
  unfold loadFromLibrary stored?
  cases (cat.libraries.get? l).bind (·.path) with
  | none => rfl
  | some directory =>
    dsimp only
    generalize FileTree.join directory (Text.trimString name ++ ".csv") = file
    cases cat.files.isFile file with
    | false => rfl
    | true =>
      simp only [if_true]
      cases htext : cat.files.read? file with
      | none =>
        -- a file that is there but cannot be read is an error on both sides
        simp only [load, htext]
        rfl
      | some text =>
        simp only [load, htext]
        cases Delimited.read name text cat.delimiter file with
        | error e => rfl
        | ok ds =>
          simp only [bind, Except.bind]
          cases hinsert : cat.insert l ds with
          | error e => simp [Except.map, hinsert]
          | ok stored => simp [Except.map, hinsert, pure, Except.pure]

/-- A file gives a data set of the name that was asked for. -/
theorem of_stored? (h : cat.stored? l name = .ok (some ds)) : ds.name = name ∧ ds.Represented := by
  unfold stored? at h
  split at h
  · cases h
  · rename_i directory hdirectory
    dsimp only at h
    generalize FileTree.join directory (Text.trimString name ++ ".csv") = file at h
    cases hfile : cat.files.isFile file with
    | false =>
      rw [hfile] at h
      cases h
    | true =>
      rw [hfile, if_pos rfl] at h
      cases htext : cat.files.read? file with
      | none => rw [htext] at h; cases h
      | some text =>
        rw [htext] at h
        dsimp only at h
        cases hread : Delimited.read name text cat.delimiter file with
        | error e => rw [hread] at h; cases h
        | ok found =>
          rw [hread] at h
          cases h
          exact Delimited.represented_read hread

/-- A library whose directory holds a data set is declared. -/
theorem hasLibrary_of_stored? (h : cat.stored? (cat.libraryKey libref) name = .ok (some ds)) :
    cat.hasLibrary libref = true := by
  unfold stored? at h
  split at h
  · cases h
  · rename_i directory hdirectory
    obtain ⟨lib, hlib, -⟩ := Option.bind_eq_some_iff.1 hdirectory
    rw [hasLibrary, OrderedMap.contains, hlib]
    rfl

theorem insert_eq_ok_iff : cat.insert libref ds = .ok cat' ↔ cat.hasLibrary libref = true ∧
    cat' = (cat.putNamed libref ds.name ds).select (cat.libraryKey libref)
      (datasetKey ds.name) := by
  unfold insert
  cases cat.hasLibrary libref with
  | false => simp
  | true => simp [putNamed, eq_comm]

/-- The second catalog is the first one with a data set stored in it that the directory of a library
holds under a name. -/
def Loads (cat : Catalog) (l name : String) (cat' : Catalog) : Prop :=
  ∃ ds, cat.stored? l name = .ok (some ds) ∧ cat.insert l ds = .ok cat'

/-! ## Putting and selecting -/

/-- The second catalog arises from the first one by putting data sets with a property in memory and
by selecting the current data set. -/
inductive Puts (D : Dataset → Prop) (cat : Catalog) : Catalog → Prop where
  | refl : Puts D cat cat
  | put {cat' : Catalog} (h : Puts D cat cat') (l d : String) {ds : Dataset} (hds : D ds) :
    Puts D cat (cat'.put l d ds)
  | select {cat' : Catalog} (h : Puts D cat cat') (l d : String) : Puts D cat (cat'.select l d)

/-- Two catalogs have the same libraries with the same directories and files. -/
structure SameSources (cat cat' : Catalog) : Prop where
  default_eq : cat'.defaultLibrary = cat.defaultLibrary
  delimiter_eq : cat'.delimiter = cat.delimiter
  files_eq : cat'.files = cat.files
  path_eq : ∀ l, (cat'.libraries.get? l).map (·.path) = (cat.libraries.get? l).map (·.path)

/-- Every data set in memory has a property. -/
def AllDatasets (D : Dataset → Prop) (cat : Catalog) : Prop :=
  ∀ l d ds, cat.find? l d = some ds → D ds

namespace SameSources

theorem libraryKey_eq (h : SameSources cat cat') (libref : String) :
    cat'.libraryKey libref = cat.libraryKey libref := by
  rw [libraryKey, libraryKey, h.default_eq]

theorem hasLibrary_eq (h : SameSources cat cat') (libref : String) :
    cat'.hasLibrary libref = cat.hasLibrary libref := by
  have hpath := congrArg Option.isSome (h.path_eq (cat.libraryKey libref))
  rw [Option.isSome_map, Option.isSome_map] at hpath
  rw [hasLibrary, hasLibrary, h.libraryKey_eq, OrderedMap.contains, OrderedMap.contains, hpath]

theorem directory_eq (h : SameSources cat cat') (l : String) :
    (cat'.libraries.get? l).bind (·.path) = (cat.libraries.get? l).bind (·.path) := by
  have hpath := h.path_eq l
  cases hlib : cat.libraries.get? l <;> cases hlib' : cat'.libraries.get? l <;> simp_all

/-- What the directories hold depends on the sources alone. -/
theorem stored?_eq (h : SameSources cat cat') (l name : String) :
    cat'.stored? l name = cat.stored? l name := by
  rw [stored?, stored?, h.directory_eq, h.files_eq, h.delimiter_eq]

end SameSources

theorem path_put (l' : String) :
    ((cat.put l d ds).libraries.get? l').map (·.path) = (cat.libraries.get? l').map (·.path) := by
  unfold put
  cases hlib : cat.libraries.get? l with
  | none => rfl
  | some lib =>
    by_cases h : l = l'
    · subst h
      simp [hlib]
    · simp [OrderedMap.get?_insert_of_ne _ _ h]

@[simp] theorem find?_select : (cat.select l d).find? l' d' = cat.find? l' d' := rfl

/-- What is in memory after a data set was put was there before, or is what was put. -/
theorem find?_put_eq_some {other : Dataset} (h : (cat.put l d ds).find? l' d' = some other) :
    cat.find? l' d' = some other ∨ (l' = l ∧ d' = d ∧ other = ds) := by
  by_cases hkeys : l' ≠ l ∨ d' ≠ d
  · rw [find?_put_of_ne hkeys] at h
    exact .inl h
  · obtain ⟨rfl, rfl⟩ : l' = l ∧ d' = d := by
      simpa only [not_or, ne_eq, Decidable.not_not] using hkeys
    -- nothing can be put in a library that is not declared, and putting declares none
    have hlib : (cat.libraries.get? l').isSome := by
      obtain ⟨lib, hlib, -⟩ := exists_library_of_find? h
      have hput : ((cat.put l' d' ds).libraries.get? l').map (·.path) =
          (cat.libraries.get? l').map (·.path) := path_put l'
      have hpath := congrArg Option.isSome hput
      rw [Option.isSome_map, Option.isSome_map, hlib] at hpath
      exact hpath.symm
    rw [find?_put_self hlib, Option.some.injEq] at h
    exact .inr ⟨rfl, rfl, h.symm⟩

namespace Puts

variable {D : Dataset → Prop}

protected theorem trans (h : Puts D cat cat') (h' : Puts D cat' cat'') : Puts D cat cat'' := by
  induction h' with
  | refl => exact h
  | put _ l d hds ih => exact ih.put l d hds
  | select _ l d ih => exact ih.select l d

/-- Putting and selecting leave the libraries and their files as they are. -/
theorem sameSources (h : Puts D cat cat') : SameSources cat cat' := by
  induction h with
  | refl => exact ⟨rfl, rfl, rfl, fun _ => rfl⟩
  | put _ l d hds ih =>
    have hrest : ∀ (c : Catalog) (ds : Dataset), (c.put l d ds).delimiter = c.delimiter ∧
        (c.put l d ds).files = c.files := by
      intro c ds
      unfold Catalog.put
      split <;> exact ⟨rfl, rfl⟩
    exact ⟨defaultLibrary_put.trans ih.default_eq, (hrest _ _).1.trans ih.delimiter_eq,
      (hrest _ _).2.trans ih.files_eq, fun l' => (path_put l').trans (ih.path_eq l')⟩
  | select _ l d ih => exact ⟨ih.default_eq, ih.delimiter_eq, ih.files_eq, ih.path_eq⟩

/-- **A data set in memory stays in memory.** -/
theorem stays (h : Puts D cat cat') (hfind : (cat.find? l' d').isSome) :
    (cat'.find? l' d').isSome := by
  induction h with
  | refl => exact hfind
  | @put mid _ l d ds hds ih =>
    by_cases hkeys : l' ≠ l ∨ d' ≠ d
    · rw [find?_put_of_ne hkeys]
      exact ih
    · obtain ⟨rfl, rfl⟩ : l' = l ∧ d' = d := by
        simpa only [not_or, ne_eq, Decidable.not_not] using hkeys
      obtain ⟨old, hold⟩ := Option.isSome_iff_exists.1 ih
      obtain ⟨lib, hlib, -⟩ := exists_library_of_find? hold
      rw [find?_put_self (hlib ▸ rfl)]
      rfl
  | select _ l d ih => exact ih

/-- **A property of all data sets needs to be looked at only where a data set is put.** -/
theorem all (h : Puts D cat cat') (hall : AllDatasets D cat) : AllDatasets D cat' := by
  induction h with
  | refl => exact hall
  | put _ l d hds ih =>
    intro l' d' other hfind
    rcases find?_put_eq_some hfind with hold | ⟨-, -, rfl⟩
    · exact ih l' d' other hold
    · exact hds
  | select _ l d ih => exact ih

theorem of_insert (h : cat.insert libref ds = .ok cat') (hds : D ds) : Puts D cat cat' := by
  obtain ⟨-, rfl⟩ := insert_eq_ok_iff.1 h
  exact (Puts.refl.put _ _ hds).select _ _

/-- A data set from a file is represented. -/
theorem of_loads (h : cat.Loads l name cat') (hD : ∀ ds : Dataset, ds.Represented → D ds) :
    Puts D cat cat' := by
  obtain ⟨ds, hstored, hinsert⟩ := h
  exact of_insert hinsert (hD ds (of_stored? hstored).2)

end Puts

/-- Reading a file leaves the libraries and their files as they are. -/
theorem Loads.sameSources (h : cat.Loads l name cat') : SameSources cat cat' :=
  (Puts.of_loads (D := fun _ => True) h fun _ _ => trivial).sameSources

/-! ## Fetching -/

theorem fetch_of_not_declared (h : cat.hasLibrary libref = false) :
    cat.fetch libref name = (.error (.unknownLibrary libref), cat) := by
  simp [fetch, h]

/-- A data set that is not in memory is looked for in the directory of its library. -/
theorem fetch_of_named?_eq_none (hlib : cat.hasLibrary libref = true)
    (h : cat.named? libref name = none) : cat.fetch libref name =
    match cat.stored? (cat.libraryKey libref) name with
    | .error e => (.error e, cat)
    | .ok none => (.error (.datasetNotFound (cat.libraryKey libref) name), cat)
    | .ok (some ds) =>
      match cat.insert (cat.libraryKey libref) ds with
      | .error e => (.error e, cat)
      | .ok loaded =>
        match loaded.find? (cat.libraryKey libref) (datasetKey name) with
        | some found => (.ok found, loaded)
        | none => (.error (.datasetNotFound libref name), loaded) := by
  have hfind : cat.find? (cat.libraryKey libref) (datasetKey name) = none := h
  unfold fetch
  simp only [hlib, hfind, loadFromLibrary_eq]
  cases cat.stored? (cat.libraryKey libref) name with
  | error e => rfl
  | ok found =>
    cases found with
    | none => rfl
    | some ds =>
      dsimp only
      cases cat.insert (cat.libraryKey libref) ds with
      | error e => rfl
      | ok loaded => rfl

/-- What is left of a catalog from which a data set was asked for: nothing changed, or a file was
read. -/
theorem fetch_snd (cat : Catalog) (libref name : String) : (cat.fetch libref name).2 = cat ∨
    cat.Loads (cat.libraryKey libref) name (cat.fetch libref name).2 := by
  cases hlib : cat.hasLibrary libref with
  | false => exact .inl (by rw [fetch_of_not_declared hlib])
  | true =>
    cases hnamed : cat.named? libref name with
    | some ds => exact .inl (by rw [fetch_of_named? hnamed])
    | none =>
      rw [fetch_of_named?_eq_none hlib hnamed]
      cases hstored : cat.stored? (cat.libraryKey libref) name with
      | error e => exact .inl rfl
      | ok found =>
        cases found with
        | none => exact .inl rfl
        | some ds =>
          dsimp only
          cases hinsert : cat.insert (cat.libraryKey libref) ds with
          | error e => exact .inl rfl
          | ok loaded =>
            refine .inr ⟨ds, hstored, ?_⟩
            dsimp only
            split <;> exact hinsert

/-- What the directory of a library holds is stored under the keys of the
name that was asked for. -/
theorem insert_of_stored? (hstored : cat.stored? (cat.libraryKey libref) name = .ok (some ds))
    (hown : cat.libraryKey (cat.libraryKey libref) = cat.libraryKey libref) :
    cat.insert (cat.libraryKey libref) ds =
      .ok ((cat.putNamed libref name ds).select (cat.libraryKey libref) (datasetKey name)) := by
  rw [insert_eq_ok_iff, (of_stored? hstored).1, putNamed, putNamed, hown, hasLibrary, hown]
  exact ⟨hasLibrary_of_stored? hstored, rfl⟩

/-- What the directory of a library holds is put in memory and made current. -/
theorem fetch_of_stored? (hnamed : cat.named? libref name = none)
    (hstored : cat.stored? (cat.libraryKey libref) name = .ok (some ds))
    (hown : cat.libraryKey (cat.libraryKey libref) = cat.libraryKey libref) :
    cat.fetch libref name =
      (.ok ds, (cat.putNamed libref name ds).select (cat.libraryKey libref) (datasetKey name)) := by
  have hlib : cat.hasLibrary libref = true := hasLibrary_of_stored? hstored
  have hfind : ((cat.putNamed libref name ds).select (cat.libraryKey libref)
      (datasetKey name)).find? (cat.libraryKey libref) (datasetKey name) = some ds :=
    find?_put_self hlib
  simp only [fetch_of_named?_eq_none hlib hnamed, hstored, insert_of_stored? hstored hown, hfind]

/-- A library whose key is not its own reference loses what its directory holds to another one. -/
theorem fetch_of_stored?_of_ne (hnamed : cat.named? libref name = none)
    (hstored : cat.stored? (cat.libraryKey libref) name = .ok (some ds))
    (hother : cat.libraryKey (cat.libraryKey libref) ≠ cat.libraryKey libref) :
    ∃ e, (cat.fetch libref name).1 = .error e := by
  rw [fetch_of_named?_eq_none (hasLibrary_of_stored? hstored) hnamed]
  simp only [hstored]
  cases hinsert : cat.insert (cat.libraryKey libref) ds with
  | error e => exact ⟨e, rfl⟩
  | ok loaded =>
    obtain ⟨-, rfl⟩ := insert_eq_ok_iff.1 hinsert
    -- the key is read as a reference again, so the data set goes to another library
    have hfind : ((cat.putNamed (cat.libraryKey libref) ds.name ds).select
        (cat.libraryKey (cat.libraryKey libref)) (datasetKey ds.name)).find?
          (cat.libraryKey libref) (datasetKey name) = none := by
      rw [find?_select, putNamed, find?_put_of_ne (.inl (Ne.symm hother))]
      exact hnamed
    exact ⟨_, by simp only [hfind]; rfl⟩

/-- **A data set that a library is asked for is the one in memory, or the one that its directory
holds; the second is then in memory and current.** -/
theorem fetch_eq_ok_iff : cat.fetch libref name = (.ok ds, cat') ↔
    (cat.named? libref name = some ds ∧ cat' = cat) ∨
      (cat.named? libref name = none ∧
        cat.stored? (cat.libraryKey libref) name = .ok (some ds) ∧
        cat.libraryKey (cat.libraryKey libref) = cat.libraryKey libref ∧
        cat' = (cat.putNamed libref name ds).select (cat.libraryKey libref) (datasetKey name)) := by
  constructor
  · intro h
    cases hnamed : cat.named? libref name with
    | some found =>
      rw [fetch_of_named? hnamed] at h
      cases h
      exact .inl ⟨rfl, rfl⟩
    | none =>
      have hlib : cat.hasLibrary libref = true := by
        cases hlib : cat.hasLibrary libref with
        | true => rfl
        | false => rw [fetch_of_not_declared hlib] at h; cases h
      cases hstored : cat.stored? (cat.libraryKey libref) name with
      | error e => simp only [fetch_of_named?_eq_none hlib hnamed, hstored] at h; cases h
      | ok found =>
        cases found with
        | none => simp only [fetch_of_named?_eq_none hlib hnamed, hstored] at h; cases h
        | some stored =>
          by_cases hown : cat.libraryKey (cat.libraryKey libref) = cat.libraryKey libref
          · rw [fetch_of_stored? hnamed hstored hown] at h
            cases h
            exact .inr ⟨rfl, rfl, hown, rfl⟩
          · obtain ⟨e, he⟩ := fetch_of_stored?_of_ne hnamed hstored hown
            rw [h] at he
            cases he
  · rintro (⟨hnamed, rfl⟩ | ⟨hnamed, hstored, hown, rfl⟩)
    · exact fetch_of_named? hnamed
    · exact fetch_of_stored? hnamed hstored hown

/-- A data set that was fetched is in memory under its name. -/
theorem named?_fetch (h : cat.fetch libref name = (.ok ds, cat')) :
    cat'.named? libref name = some ds := by
  rcases fetch_eq_ok_iff.1 h with ⟨hnamed, rfl⟩ | ⟨-, hstored, -, rfl⟩
  · exact hnamed
  · have hlib : (cat.libraries.get? (cat.libraryKey libref)).isSome := hasLibrary_of_stored? hstored
    have hput : (cat.putNamed libref name ds).named? libref name = some ds := named?_putNamed hlib
    exact hput

/-- What a library answers depends on its sources and on what is in memory under the name. -/
theorem fetch_fst_eq_ok_iff (hsources : SameSources cat cat')
    (hnamed : cat'.named? libref name = cat.named? libref name) :
    (cat'.fetch libref name).1 = .ok ds ↔ (cat.fetch libref name).1 = .ok ds := by
  have hiff : ∀ c : Catalog, (c.fetch libref name).1 = .ok ds ↔
      c.named? libref name = some ds ∨ (c.named? libref name = none ∧
        c.stored? (c.libraryKey libref) name = .ok (some ds) ∧
        c.libraryKey (c.libraryKey libref) = c.libraryKey libref) := by
    intro c
    constructor
    · intro h
      rcases fetch_eq_ok_iff.1 (Prod.ext h rfl) with ⟨hmem, -⟩ | ⟨hmem, hstored, hown, -⟩
      · exact .inl hmem
      · exact .inr ⟨hmem, hstored, hown⟩
    · rintro (hmem | ⟨hmem, hstored, hown⟩)
      · exact congrArg Prod.fst (fetch_eq_ok_iff.2 (.inl ⟨hmem, rfl⟩))
      · exact congrArg Prod.fst (fetch_eq_ok_iff.2 (.inr ⟨hmem, hstored, hown, rfl⟩))
  rw [hiff, hiff, hnamed, hsources.stored?_eq, hsources.libraryKey_eq, hsources.libraryKey_eq]

/-- A data set that a library has is there as long as data sets are only put in memory. -/
theorem exists_fetch_of_puts {D : Dataset → Prop} (h : cat.Puts D cat')
    (hfetch : ∃ ds, (cat.fetch libref name).1 = .ok ds) :
    ∃ ds, (cat'.fetch libref name).1 = .ok ds := by
  obtain ⟨ds, hds⟩ := hfetch
  cases hnamed : cat'.named? libref name with
  | some found => exact ⟨found, congrArg Prod.fst (fetch_of_named? hnamed)⟩
  | none =>
    -- it was not in memory before either
    have hbefore : cat.named? libref name = none := by
      rw [← Option.not_isSome_iff_eq_none]
      intro hsome
      have hstays := h.stays hsome
      rw [← h.sameSources.libraryKey_eq] at hstays
      rw [named?] at hnamed
      rw [hnamed] at hstays
      cases hstays
    exact ⟨ds, (fetch_fst_eq_ok_iff h.sameSources (hnamed.trans hbefore.symm)).2 hds⟩

/-! ## Creating -/

theorem create_of_error {e : LibraryError} (h : cat.create libref name = (.error e, cat')) :
    cat' = cat := by
  unfold create at h
  dsimp only at h
  split at h
  · cases h
    rfl
  · split at h
    · cases h
      rfl
    · split at h <;> cases h

/-- A file is read only for a name that is not in memory. -/
theorem eq_or_loads_of_not_contains {base : Catalog}
    (h : (if cat.contains libref name then .ok cat
      else (cat.loadFromLibrary (cat.libraryKey libref) name).map (·.getD cat)) = .ok base) :
    base = cat ∨ cat.named? libref name = none ∧ cat.Loads (cat.libraryKey libref) name base := by
  cases hcontains : cat.contains libref name with
  | true =>
    rw [hcontains] at h
    cases h
    exact .inl rfl
  | false =>
    have hnamed : cat.named? libref name = none := by simpa [contains, named?] using hcontains
    rw [hcontains, loadFromLibrary_eq] at h
    cases hstored : cat.stored? (cat.libraryKey libref) name with
    | error e => rw [hstored] at h; cases h
    | ok found =>
      rw [hstored] at h
      cases found with
      | none =>
        cases h
        exact .inl rfl
      | some stored =>
        cases hinsert : cat.insert (cat.libraryKey libref) stored with
        | error e => simp [hinsert, Except.map] at h
        | ok loaded =>
          have heq : loaded = base := by simpa [hinsert, Except.map] using h
          exact .inr ⟨hnamed, stored, hstored, heq ▸ hinsert⟩

/-- A data set that is created is the one in memory, perhaps after a file was read, or a new one. -/
theorem exists_of_create_eq_ok (h : cat.create libref name = (.ok ds, cat')) :
    cat.hasLibrary libref = true ∧ ∃ base,
      (base = cat ∨ cat.named? libref name = none ∧
        cat.Loads (cat.libraryKey libref) name base) ∧
      ((base.named? libref name = some ds ∧
          cat' = base.select (cat.libraryKey libref) (datasetKey name)) ∨
        (base.named? libref name = none ∧ ds = .new (Text.trimString name) ∧
          cat' = (base.putNamed libref name ds).select (cat.libraryKey libref)
            (datasetKey name))) := by
  unfold create at h
  dsimp only at h
  split at h
  · cases h
  · rename_i hdeclared
    refine ⟨by simpa using hdeclared, ?_⟩
    split at h
    · cases h
    · rename_i base hbase
      have hloads := eq_or_loads_of_not_contains hbase
      -- the keys were computed before the file was read
      have hkey : base.libraryKey libref = cat.libraryKey libref := by
        rcases hloads with rfl | ⟨-, hloads⟩
        · rfl
        · exact hloads.sameSources.libraryKey_eq libref
      refine ⟨base, hloads, ?_⟩
      rw [named?, putNamed, hkey]
      split at h
      · rename_i found hfound
        cases h
        exact .inl ⟨hfound, rfl⟩
      · rename_i hfound
        cases h
        exact .inr ⟨hfound, rfl, rfl⟩

/-! ## What the operations by name put in memory -/

section Operations

variable {D : Dataset → Prop}

/-- A data set that is asked for changes nothing in memory but what is read from a file. -/
theorem puts_fetch (hD : ∀ ds : Dataset, ds.Represented → D ds) (cat : Catalog)
    (libref name : String) : Puts D cat (cat.fetch libref name).2 := by
  rcases fetch_snd cat libref name with heq | hloads
  · rw [heq]
    exact .refl
  · exact .of_loads hloads hD

theorem puts_create (hD : ∀ ds : Dataset, ds.Represented → D ds) (cat : Catalog)
    (libref name : String) : Puts D cat (cat.create libref name).2 := by
  cases hcreate : cat.create libref name with
  | mk r cat' =>
    cases r with
    | error e =>
      rw [create_of_error hcreate]
      exact .refl
    | ok ds =>
      obtain ⟨-, base, hbase, hcases⟩ := exists_of_create_eq_ok hcreate
      have hputs : Puts D cat base := by
        rcases hbase with rfl | ⟨-, hloads⟩
        · exact .refl
        · exact .of_loads hloads hD
      rcases hcases with ⟨-, rfl⟩ | ⟨-, rfl, rfl⟩
      · exact hputs.select _ _
      · exact (hputs.put _ _ (hD _ (.new _))).select _ _

/-- Changing a data set puts nothing else in memory than its new state. -/
theorem puts_update (hD : ∀ ds : Dataset, ds.Represented → D ds) {f : Dataset → Dataset}
    (hf : ∀ ds, (cat.fetch libref name).1 = .ok ds → D (f ds)) :
    Puts D cat (cat.update libref name f).2 := by
  have hputs := puts_fetch hD cat libref name
  unfold update
  cases hfetch : cat.fetch libref name with
  | mk r cat' =>
    rw [hfetch] at hputs
    cases r with
    | error e => exact hputs
    | ok ds => exact hputs.put _ _ (hf ds (by rw [hfetch]))

theorem puts_updateCurrent {f : Dataset → Dataset} (hf : ∀ ds, cat.current? = .ok ds → D (f ds)) :
    Puts D cat (cat.updateCurrent f).2 := by
  unfold updateCurrent
  split
  · rename_i hcurrent
    exact Puts.refl.put _ _ (hf _ hcurrent)
  · exact .refl

/-- What is fetched from a catalog whose data sets all have a property has the property. -/
theorem AllDatasets.fetch (hD : ∀ ds : Dataset, ds.Represented → D ds) (hall : AllDatasets D cat)
    (h : (cat.fetch libref name).1 = .ok ds) : D ds := by
  rcases fetch_eq_ok_iff.1 (Prod.ext h rfl) with ⟨hnamed, -⟩ | ⟨-, hstored, -⟩
  · exact hall _ _ ds hnamed
  · exact hD ds (of_stored? hstored).2

theorem AllDatasets.current (hall : AllDatasets D cat) (h : cat.current? = .ok ds) : D ds := by
  unfold current? at h
  split at h
  · rename_i found hfound
    cases h
    obtain ⟨⟨l, d⟩, -, hfind⟩ := Option.bind_eq_some_iff.1 hfound
    exact hall l d ds hfind
  · cases h

end Operations

/-- **A data set that was created is in memory under its name.** -/
theorem named?_create (h : cat.create libref name = (.ok ds, cat')) :
    cat'.named? libref name = some ds := by
  obtain ⟨hlib, base, hbase, hcases⟩ := exists_of_create_eq_ok h
  rcases hcases with ⟨hnamed, rfl⟩ | ⟨-, -, rfl⟩
  · exact hnamed
  · have hbaselib : base.hasLibrary libref = true := by
      rcases hbase with rfl | ⟨-, hloads⟩
      · exact hlib
      · exact (hloads.sameSources.hasLibrary_eq libref).trans hlib
    have hput : (base.putNamed libref name ds).named? libref name = some ds :=
      named?_putNamed hbaselib
    exact hput

end DataStep.Catalog
