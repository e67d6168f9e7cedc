import DataStep.Proofs.Catalog.Refinement

/-!
# The spelling of names

Two names of one key differ in blanks around them and in case. In memory they mean the same data
set, but a directory is searched for the file of the name as it is spelled, so what is read from it
may depend on the spelling. Two catalogs that hold the same rows and columns under the same keys
(`Catalog.Alike`) stay alike when the same operations follow in two spellings (`Alike.reached`), as
long as what a name has to be read from holds the same in both (`ReadsAlike`). Main statement:
`denoteSame_iff_readsAlike`.
-/

set_option autoImplicit false

namespace DataStep

/-! ## Data sets and answers -/

section Related

variable {α : Type} {R : α → α → Prop} {a : α} {o : Option α}

theorem eq_none_of_rel_none (h : Option.Rel R none o) : o = none := by
  cases h
  rfl

theorem exists_of_rel_some (h : Option.Rel R (some a) o) : ∃ b, o = some b ∧ R a b := by
  cases h with
  | some hab => exact ⟨_, rfl, hab⟩

end Related

/-- Two data sets have the same columns and rows, and names of one key. -/
structure Dataset.Alike (a b : Dataset) : Prop where
  key_eq : Catalog.datasetKey a.name = Catalog.datasetKey b.name
  columns_eq : a.columns = b.columns
  rows_eq : a.rows = b.rows

theorem Dataset.Alike.refl (ds : Dataset) : ds.Alike ds := ⟨rfl, rfl, rfl⟩

/-- New data sets of two spellings of a name are alike. -/
theorem Dataset.Alike.new {name name' : String}
    (h : Catalog.datasetKey name = Catalog.datasetKey name') :
    (Dataset.new (Text.trimString name)).Alike (Dataset.new (Text.trimString name')) := by
  refine ⟨?_, rfl, rfl⟩
  rw [Dataset.new, Dataset.new, Catalog.datasetKey, Catalog.datasetKey,
    Inventory.trimString_trimString, Inventory.trimString_trimString]
  exact h

/-- A change of data sets that does not depend on how their names are spelled. -/
def Dataset.Blind (f g : Dataset → Dataset) : Prop :=
  ∀ ⦃a b : Dataset⦄, a.Alike b → (f a).Alike (g b)

/-- Both results are errors, or both are data sets that are alike. -/
def ResultsAlike (r r' : Except LibraryError Dataset) : Prop :=
  Option.Rel Dataset.Alike r.toOption r'.toOption

/-- Two calls of one kind succeed alike or fail both. -/
inductive Answer.Alike : Answer → Answer → Prop
  | dataset {r r' : Except LibraryError Dataset}
      (h : ResultsAlike r r') : Alike (.dataset r) (.dataset r')
  | stored {r r' : Except LibraryError Unit}
      (h : r.toOption = r'.toOption) : Alike (.stored r) (.stored r')
  | removed {found found' : Option Dataset} (h : Option.Rel Dataset.Alike found found') :
    Alike (.removed found) (.removed found')
  | loaded {r r' : Except LibraryError Nat}
      (h : r.toOption = r'.toOption) : Alike (.loaded r) (.loaded r')
  | done : Alike .done .done

/-- A delimited text has the same columns and rows under every name. -/
theorem Delimited.read_rename (name name' text : String) (delimiter : Char) (source : String) :
    read name' text delimiter source =
      (read name text delimiter source).map fun ds => { ds with name := name' } := by
  unfold read
  cases numberedLines text.toList with
  | nil => rfl
  | cons first records =>
    dsimp only [bind, Except.bind]
    cases lineFields source delimiter first with
    | error e => rfl
    | ok header =>
      dsimp only
      cases records.mapM (lineFields source delimiter) with
      | error e => rfl
      | ok fields => rfl

namespace Catalog

variable {cat cat' cat'' : Catalog} {libref name name' : String} {ds ds' : Dataset}

/-! ## Catalogs that are alike -/

/-- Two catalogs have the same libraries, directories and files, and alike data
sets under the same keys. -/
structure Alike (cat cat' : Catalog) : Prop extends SameSources cat cat' where
  current_eq : cat'.current = cat.current
  find?_rel : ∀ l d, Option.Rel Dataset.Alike (cat.find? l d) (cat'.find? l d)

theorem Alike.refl (cat : Catalog) : cat.Alike cat where
  default_eq := rfl
  delimiter_eq := rfl
  files_eq := rfl
  path_eq _ := rfl
  current_eq := rfl
  find?_rel l d := by
    cases cat.find? l d with
    | none => exact .none
    | some ds => exact .some (.refl ds)

/-- The data set that can be read from the directory of a library under a name. -/
def onFile? (cat : Catalog) (libref name : String) : Option Dataset :=
  (cat.stored? (cat.libraryKey libref) name).toOption.join

/-- The data set is in memory, or what can be read under two spellings of its name is alike. -/
def ReadsAlike (cat : Catalog) (libref name name' : String) : Prop :=
  (cat.named? libref name).isSome ∨
    Option.Rel Dataset.Alike (cat.onFile? libref name) (cat.onFile? libref name')

/-- Two results on catalogs are alike, and so are the catalogs. -/
def OutcomesAlike (x y : Except LibraryError Dataset × Catalog) : Prop :=
  ResultsAlike x.1 y.1 ∧ x.2.Alike y.2

namespace Alike

theorem named?_rel (h : cat.Alike cat')
    (hkey : datasetKey name = datasetKey name') (libref : String) :
    Option.Rel Dataset.Alike (cat.named? libref name) (cat'.named? libref name') := by
  rw [named?, named?, h.libraryKey_eq, hkey]
  exact h.find?_rel _ _

/-- A data set is put under the same keys of both catalogs. -/
theorem put (h : cat.Alike cat') (hds : ds.Alike ds') (l d : String) :
    (cat.put l d ds).Alike (cat'.put l d ds') := by
  have hput : ∀ (c : Catalog) (ds : Dataset), Puts (fun _ => True) c (c.put l d ds) :=
    fun _ _ => Puts.refl.put l d trivial
  have hsources := (hput cat ds).sameSources
  have hsources' := (hput cat' ds').sameSources
  exact
    { default_eq := hsources'.default_eq.trans (h.default_eq.trans hsources.default_eq.symm)
      delimiter_eq := hsources'.delimiter_eq.trans (h.delimiter_eq.trans hsources.delimiter_eq.symm)
      files_eq := hsources'.files_eq.trans (h.files_eq.trans hsources.files_eq.symm)
      path_eq := fun l' => (hsources'.path_eq l').trans
        ((h.path_eq l').trans (hsources.path_eq l').symm)
      current_eq := by
        have hcurrent : ∀ (c : Catalog) (ds : Dataset), (c.put l d ds).current = c.current := by
          intro c ds
          unfold Catalog.put
          split <;> rfl
        rw [hcurrent, hcurrent, h.current_eq]
      find?_rel := by
        intro l' d'
        by_cases hkeys : l' ≠ l ∨ d' ≠ d
        · rw [find?_put_of_ne hkeys, find?_put_of_ne hkeys]
          exact h.find?_rel l' d'
        · obtain ⟨rfl, rfl⟩ : l' = l ∧ d' = d := by
            simpa only [not_or, ne_eq, Decidable.not_not] using hkeys
          have hpath := congrArg Option.isSome (h.path_eq l')
          rw [Option.isSome_map, Option.isSome_map] at hpath
          -- in a library that is not declared nothing is put
          cases hlib : cat.libraries.get? l' with
          | none =>
            rw [hlib, Option.isSome_none, Option.isSome_eq_false_iff,
              Option.isNone_iff_eq_none] at hpath
            simpa [Catalog.put, hlib, hpath] using h.find?_rel l' d'
          | some lib =>
            rw [find?_put_self (hlib ▸ rfl), find?_put_self (by rw [hpath, hlib]; rfl)]
            exact .some hds }

theorem select (h : cat.Alike cat') (l d : String) : (cat.select l d).Alike (cat'.select l d) :=
  { default_eq := h.default_eq
    delimiter_eq := h.delimiter_eq
    files_eq := h.files_eq
    path_eq := h.path_eq
    current_eq := rfl
    find?_rel := h.find?_rel }

/-- A data set is stored in both catalogs or in none. -/
theorem insert_cases (h : cat.Alike cat') (hds : ds.Alike ds') (libref : String) :
    (∃ e, cat.insert libref ds = .error e ∧ cat'.insert libref ds' = .error e) ∨
      ∃ stored stored', cat.insert libref ds = .ok stored ∧ cat'.insert libref ds' = .ok stored' ∧
        stored.Alike stored' := by
  rw [Catalog.insert, Catalog.insert, h.hasLibrary_eq, h.libraryKey_eq, hds.key_eq]
  cases cat.hasLibrary libref with
  | false => exact .inl ⟨_, rfl, rfl⟩
  | true => exact .inr ⟨_, _, rfl, rfl, (h.put hds _ _).select _ _⟩

end Alike

/-! ## Looking up -/

theorem onFile?_eq_some_iff : cat.onFile? libref name = some ds ↔
    cat.stored? (cat.libraryKey libref) name = .ok (some ds) := by
  unfold onFile?
  cases cat.stored? (cat.libraryKey libref) name with
  | error e => simp [Except.toOption]
  | ok found => simp [Except.toOption]

theorem onFile?_eq_none_iff : cat.onFile? libref name = none ↔
    (∃ e, cat.stored? (cat.libraryKey libref) name = .error e) ∨
      cat.stored? (cat.libraryKey libref) name = .ok none := by
  unfold onFile?
  cases cat.stored? (cat.libraryKey libref) name with
  | error e => simp [Except.toOption]
  | ok found => simp [Except.toOption]

/-- A look-up of what is neither in memory nor on file fails and changes nothing. -/
theorem fetch_of_onFile?_eq_none (hnamed : cat.named? libref name = none)
    (hfile : cat.onFile? libref name = none) : ∃ e, cat.fetch libref name = (.error e, cat) := by
  cases hlib : cat.hasLibrary libref with
  | false => exact ⟨_, fetch_of_not_declared hlib⟩
  | true =>
    rw [fetch_of_named?_eq_none hlib hnamed]
    rcases onFile?_eq_none_iff.1 hfile with ⟨e, hstored⟩ | hstored
    · exact ⟨e, by rw [hstored]⟩
    · exact ⟨_, by rw [hstored]⟩

/-- Where the key of a library is its own reference, a look-up of what is not in memory answers
with what is on file. -/
theorem toOption_fetch (hown : cat.libraryKey (cat.libraryKey libref) = cat.libraryKey libref)
    (hnamed : cat.named? libref name = none) :
    (cat.fetch libref name).1.toOption = cat.onFile? libref name := by
  cases hfile : cat.onFile? libref name with
  | none =>
    obtain ⟨e, hfetch⟩ := fetch_of_onFile?_eq_none hnamed hfile
    rw [hfetch]
    rfl
  | some ds =>
    rw [fetch_of_stored? hnamed (onFile?_eq_some_iff.1 hfile) hown]
    rfl

/-- A data set that is not in memory is created from its file, or empty. -/
theorem create_of_named?_eq_none (hlib : cat.hasLibrary libref = true)
    (hnamed : cat.named? libref name = none) : cat.create libref name =
    match cat.stored? (cat.libraryKey libref) name with
    | .error e => (.error e, cat)
    | .ok none => (.ok (.new (Text.trimString name)),
        (cat.putNamed libref name (.new (Text.trimString name))).select (cat.libraryKey libref)
          (datasetKey name))
    | .ok (some ds) =>
      match cat.insert (cat.libraryKey libref) ds with
      | .error e => (.error e, cat)
      | .ok loaded =>
        match loaded.find? (cat.libraryKey libref) (datasetKey name) with
        | some found => (.ok found, loaded.select (cat.libraryKey libref) (datasetKey name))
        | none => (.ok (.new (Text.trimString name)),
            (loaded.put (cat.libraryKey libref) (datasetKey name)
              (.new (Text.trimString name))).select
              (cat.libraryKey libref) (datasetKey name)) := by
  cases hstored : cat.stored? (cat.libraryKey libref) name with
  | error e => exact create_of_stored?_eq_error hlib hnamed hstored
  | ok found =>
    cases found with
    | none => exact create_of_stored?_eq_none hlib hnamed hstored
    | some ds =>
      unfold create
      simp only [hlib, not_contains_of_named? hnamed, loadFromLibrary_eq, hstored]
      cases cat.insert (cat.libraryKey libref) ds with
      | error e => rfl
      | ok loaded => rfl

/-- The blanks around a name do not lead to another file. -/
theorem stored?_rename (htrim : Text.trimString name = Text.trimString name')
    (cat : Catalog) (l : String) :
    cat.stored? l name' = (cat.stored? l name).map
      (Option.map fun ds => { ds with name := name' }) := by
  unfold stored?
  cases (cat.libraries.get? l).bind (·.path) with
  | none => rfl
  | some directory =>
    dsimp only
    rw [htrim]
    generalize FileTree.join directory (Text.trimString name' ++ ".csv") = file
    cases cat.files.isFile file with
    | false => rfl
    | true =>
      simp only [if_true]
      cases cat.files.read? file with
      | none => rfl
      | some text =>
        dsimp only
        rw [Delimited.read_rename name name']
        cases Delimited.read name text cat.delimiter file with
        | error e => rfl
        | ok ds => rfl

/-- Spellings that differ in blanks only are read alike. -/
theorem readsAlike_of_trimString_eq (htrim : Text.trimString name = Text.trimString name')
    (cat : Catalog) (libref : String) : cat.ReadsAlike libref name name' := by
  refine .inr ?_
  unfold onFile?
  rw [stored?_rename htrim]
  cases hstored : cat.stored? (cat.libraryKey libref) name with
  | error e => exact .none
  | ok found =>
    cases found with
    | none => exact .none
    | some ds =>
      refine .some ⟨?_, rfl, rfl⟩
      rw [(of_stored? hstored).1, datasetKey, datasetKey, htrim]

/-- Every spelling is read alike in a library without a directory. -/
theorem readsAlike_of_no_directory (h : cat.libraryPath libref = none) (name name' : String) :
    cat.ReadsAlike libref name name' := by
  refine .inr ?_
  rw [libraryPath] at h
  simp only [onFile?, stored?, h, Except.toOption, Option.join_some]
  exact .none

/-! ## Operations in two spellings -/

namespace Alike

variable (h : cat.Alike cat')

include h

theorem stored?_eq' (libref name : String) :
    cat'.stored? (cat'.libraryKey libref) name = cat.stored? (cat.libraryKey libref) name := by
  rw [h.libraryKey_eq, h.stored?_eq]

theorem onFile?_eq (libref name : String) : cat'.onFile? libref name = cat.onFile? libref name := by
  rw [onFile?, onFile?, h.stored?_eq']

/-- **A look-up in two spellings** gives data sets that are alike, or fails in both. -/
theorem fetch (hkey : datasetKey name = datasetKey name')
    (hreads : cat.ReadsAlike libref name name') :
    OutcomesAlike (cat.fetch libref name) (cat'.fetch libref name') := by
  have hnamed := h.named?_rel hkey libref
  cases hmem : cat.named? libref name with
  | some ds =>
    rw [hmem] at hnamed
    obtain ⟨ds', hmem', hds⟩ := exists_of_rel_some hnamed
    rw [fetch_of_named? hmem, fetch_of_named? hmem']
    exact ⟨.some hds, h⟩
  | none =>
    rw [hmem] at hnamed
    have hmem' := eq_none_of_rel_none hnamed
    have hfiles := hreads.resolve_left (by rw [hmem]; exact Bool.false_ne_true)
    cases hfile : cat.onFile? libref name with
    | none =>
      rw [hfile] at hfiles
      have hfile' : cat'.onFile? libref name' = none :=
        (h.onFile?_eq libref name').trans (eq_none_of_rel_none hfiles)
      obtain ⟨e, hfetch⟩ := fetch_of_onFile?_eq_none hmem hfile
      obtain ⟨e', hfetch'⟩ := fetch_of_onFile?_eq_none hmem' hfile'
      rw [hfetch, hfetch']
      exact ⟨.none, h⟩
    | some ds =>
      rw [hfile] at hfiles
      obtain ⟨ds', hfile', hds⟩ := exists_of_rel_some hfiles
      have hstored := onFile?_eq_some_iff.1 hfile
      have hstored' := onFile?_eq_some_iff.1 ((h.onFile?_eq libref name').trans hfile')
      rw [fetch_of_named?_eq_none (hasLibrary_of_stored? hstored) hmem, hstored,
        fetch_of_named?_eq_none (hasLibrary_of_stored? hstored') hmem', hstored', h.libraryKey_eq]
      dsimp only
      rcases h.insert_cases hds (cat.libraryKey libref) with
        ⟨e, hinsert, hinsert'⟩ | ⟨stored, stored', hinsert, hinsert', hafter⟩
      · rw [hinsert, hinsert']
        exact ⟨.none, h⟩
      · rw [hinsert, hinsert']
        dsimp only
        -- the key may not be its own reference, and then both look in the library that got nothing
        have hfound := hafter.find?_rel (cat.libraryKey libref) (datasetKey name)
        rw [← hkey]
        cases hfind : stored.find? (cat.libraryKey libref) (datasetKey name) with
        | none =>
          rw [hfind] at hfound
          rw [eq_none_of_rel_none hfound]
          exact ⟨.none, hafter⟩
        | some found =>
          rw [hfind] at hfound
          obtain ⟨found', hfind', halike⟩ := exists_of_rel_some hfound
          rw [hfind']
          exact ⟨.some halike, hafter⟩

/-- A creation in two spellings. A file that is malformed in one spelling must be so in the other:
otherwise the other one creates an empty data set. -/
theorem create (hkey : datasetKey name = datasetKey name')
    (hreads : cat.ReadsAlike libref name name')
    (hfails : (cat.stored? (cat.libraryKey libref) name).isOk =
      (cat.stored? (cat.libraryKey libref) name').isOk) :
    OutcomesAlike (cat.create libref name) (cat'.create libref name') := by
  have hnew := Dataset.Alike.new hkey
  cases hlib : cat.hasLibrary libref with
  | false =>
    rw [create_of_not_declared hlib, create_of_not_declared (by rw [h.hasLibrary_eq, hlib])]
    exact ⟨.none, h⟩
  | true =>
    have hlib' : cat'.hasLibrary libref = true := (h.hasLibrary_eq libref).trans hlib
    have hnamed := h.named?_rel hkey libref
    cases hmem : cat.named? libref name with
    | some ds =>
      rw [hmem] at hnamed
      obtain ⟨ds', hmem', hds⟩ := exists_of_rel_some hnamed
      rw [create_of_named? hmem, create_of_named? hmem', h.libraryKey_eq, ← hkey]
      exact ⟨.some hds, h.select _ _⟩
    | none =>
      rw [hmem] at hnamed
      have hmem' := eq_none_of_rel_none hnamed
      have hfiles := hreads.resolve_left (by rw [hmem]; exact Bool.false_ne_true)
      rw [create_of_named?_eq_none hlib hmem,
        create_of_named?_eq_none hlib' hmem', putNamed, putNamed,
        h.libraryKey_eq, h.stored?_eq, ← hkey]
      unfold onFile? at hfiles
      cases hstored : cat.stored? (cat.libraryKey libref) name with
      | error e =>
        cases hstored' : cat.stored? (cat.libraryKey libref) name' with
        | error e' => exact ⟨.none, h⟩
        | ok found => rw [hstored, hstored'] at hfails; cases hfails
      | ok found =>
        cases hstored' : cat.stored? (cat.libraryKey libref) name' with
        | error e => rw [hstored, hstored'] at hfails; cases hfails
        | ok found' =>
          rw [hstored, hstored'] at hfiles
          cases found with
          | none =>
            obtain rfl : found' = none := eq_none_of_rel_none hfiles
            exact ⟨.some hnew, (h.put hnew _ _).select _ _⟩
          | some ds =>
            obtain ⟨ds', rfl, hds⟩ : ∃ ds', found' = some ds' ∧ ds.Alike ds' :=
              exists_of_rel_some hfiles
            dsimp only
            rcases h.insert_cases hds (cat.libraryKey libref) with
              ⟨e, hinsert, hinsert'⟩ | ⟨stored, stored', hinsert, hinsert', hafter⟩
            · rw [hinsert, hinsert']
              exact ⟨.none, h⟩
            · rw [hinsert, hinsert']
              dsimp only
              have hfound := hafter.find?_rel (cat.libraryKey libref) (datasetKey name)
              cases hfind : stored.find? (cat.libraryKey libref) (datasetKey name) with
              | none =>
                rw [hfind] at hfound
                rw [eq_none_of_rel_none hfound]
                exact ⟨.some hnew, (hafter.put hnew _ _).select _ _⟩
              | some found =>
                rw [hfind] at hfound
                obtain ⟨found', hfind', halike⟩ := exists_of_rel_some hfound
                rw [hfind']
                exact ⟨.some halike, hafter.select _ _⟩

theorem update {f g : Dataset → Dataset} (hkey : datasetKey name = datasetKey name')
    (hreads : cat.ReadsAlike libref name name') (hblind : Dataset.Blind f g) :
    OutcomesAlike (cat.update libref name f) (cat'.update libref name' g) := by
  have hfetch := h.fetch hkey hreads
  have hlibrary : (cat'.fetch libref name').2.libraryKey libref =
      (cat.fetch libref name).2.libraryKey libref := hfetch.2.libraryKey_eq libref
  unfold Catalog.update
  rcases hreal : cat.fetch libref name with ⟨r, mid⟩
  rcases hreal' : cat'.fetch libref name' with ⟨r', mid'⟩
  rw [hreal, hreal'] at hfetch hlibrary
  obtain ⟨hresults, hafter⟩ := hfetch
  cases r with
  | error e =>
    cases r' with
    | error e' => exact ⟨.none, hafter⟩
    | ok ds' => cases hresults
  | ok ds =>
    cases r' with
    | error e' => cases hresults
    | ok ds' =>
      have hds : ds.Alike ds' := by
        cases hresults with
        | some hds => exact hds
      dsimp only at hlibrary ⊢
      rw [hlibrary, ← hkey]
      exact ⟨.some (hblind hds), hafter.put (hblind hds) _ _⟩

/-- The current data set is changed alike, or there is none in both catalogs. -/
theorem updateCurrent {f g : Dataset → Dataset} (hblind : Dataset.Blind f g) :
    OutcomesAlike (cat.updateCurrent f) (cat'.updateCurrent g) := by
  unfold Catalog.updateCurrent current?
  rw [h.current_eq]
  cases cat.current with
  | none => exact ⟨.none, h⟩
  | some key =>
    obtain ⟨l, d⟩ := key
    have hfind := h.find?_rel l d
    simp only [Option.bind_some]
    cases hmem : cat.find? l d with
    | none =>
      rw [hmem] at hfind
      rw [eq_none_of_rel_none hfind]
      exact ⟨.none, h⟩
    | some ds =>
      rw [hmem] at hfind
      obtain ⟨ds', hmem', hds⟩ := exists_of_rel_some hfind
      rw [hmem']
      exact ⟨.some (hblind hds), h.put (hblind hds) l d⟩

theorem remove (hkey : datasetKey name = datasetKey name') (libref : String) :
    Option.Rel Dataset.Alike (cat.remove libref name).1 (cat'.remove libref name').1 ∧
      (cat.remove libref name).2.Alike (cat'.remove libref name').2 := by
  refine ⟨?_, ?_⟩
  · rw [remove_eq, remove_eq]
    exact h.named?_rel hkey libref
  · exact
      { default_eq := by rw [remove_eq, remove_eq]; exact h.default_eq
        delimiter_eq := by rw [remove_eq, remove_eq]; exact h.delimiter_eq
        files_eq := by rw [remove_eq, remove_eq]; exact h.files_eq
        path_eq := fun l => (path_remove l).trans ((h.path_eq l).trans (path_remove l).symm)
        current_eq := by
          rw [remove_eq, remove_eq]
          dsimp only
          rw [h.current_eq, h.libraryKey_eq, ← hkey]
        find?_rel := by
          intro l d
          rw [find?_remove, find?_remove, h.libraryKey_eq, ← hkey]
          split
          · exact .none
          · exact h.find?_rel l d }

theorem assign (libref path : String) :
    (cat.assign libref path).Alike (cat'.assign libref path) where
  default_eq := h.default_eq
  delimiter_eq := h.delimiter_eq
  files_eq := h.files_eq
  path_eq l := by
    rw [Catalog.assign, Catalog.assign, h.libraryKey_eq]
    by_cases hl : cat.libraryKey libref = l
    · rw [hl, OrderedMap.get?_insert_self, OrderedMap.get?_insert_self]
      rfl
    · rw [OrderedMap.get?_insert_of_ne _ _ hl, OrderedMap.get?_insert_of_ne _ _ hl]
      exact h.path_eq l
  current_eq := h.current_eq
  find?_rel l d := by
    rw [find?_assign, find?_assign]
    exact h.find?_rel l d

/-- A file is loaded under both spellings of a name, or under none. -/
theorem load_cases (hkey : datasetKey name = datasetKey name') (libref path : String) :
    (∃ e e', cat.load libref name path = .error e ∧ cat'.load libref name' path = .error e') ∨
      ∃ count stored stored', cat.load libref name path = .ok (count, stored) ∧
        cat'.load libref name' path = .ok (count, stored') ∧ stored.Alike stored' := by
  unfold load
  rw [h.files_eq, h.delimiter_eq]
  cases cat.files.read? path with
  | none => exact .inl ⟨_, _, rfl, rfl⟩
  | some text =>
    dsimp only
    rw [Delimited.read_rename name name']
    cases hread : Delimited.read name text cat.delimiter path with
    | error e => exact .inl ⟨e, e, rfl, rfl⟩
    | ok ds =>
      have hds : ds.Alike { ds with name := name' } := by
        refine ⟨?_, rfl, rfl⟩
        rw [(Delimited.represented_read hread).1]
        exact hkey
      rcases h.insert_cases hds libref with
        ⟨e, hinsert, hinsert'⟩ | ⟨stored, stored', hinsert, hinsert', hafter⟩
      · exact .inl ⟨e, e, by simp [bind, Except.bind, hinsert],
          by simp [bind, Except.bind, Except.map, hinsert']⟩
      · exact .inr ⟨ds.size, stored, stored',
          by simp [bind, Except.bind, hinsert, pure, Except.pure],
          by simp [bind, Except.bind, Except.map, hinsert', pure, Except.pure, Dataset.size],
          hafter⟩

end Alike

/-- One call in two spellings. What a name has to be read from at the catalog of the call holds the
same in both of them. -/
inductive Respelled (cat : Catalog) : Call → Call → Prop
  | create {libref name name' : String} {edit edit' : Edit}
    (hkey : datasetKey name = datasetKey name') (hreads : cat.ReadsAlike libref name name')
    (hfails : (cat.stored? (cat.libraryKey libref) name).isOk =
      (cat.stored? (cat.libraryKey libref) name').isOk)
    (hblind : Dataset.Blind edit.change edit'.change) :
    Respelled cat (.create libref name edit) (.create libref name' edit')
  | fetch {libref name name' : String} (hkey : datasetKey name = datasetKey name')
    (hreads : cat.ReadsAlike libref name name') :
    Respelled cat (.fetch libref name) (.fetch libref name')
  | update {libref name name' : String} {edit edit' : Edit}
    (hkey : datasetKey name = datasetKey name')
    (hreads : cat.ReadsAlike libref name name') (hblind : Dataset.Blind edit.change edit'.change) :
    Respelled cat (.update libref name edit) (.update libref name' edit')
  | insert {libref : String} {ds ds' : Dataset} (hds : ds.Alike ds') :
    Respelled cat (.insert libref ds) (.insert libref ds')
  | remove {libref name name' : String} (hkey : datasetKey name = datasetKey name') :
    Respelled cat (.remove libref name) (.remove libref name')
  | assign (libref path : String) : Respelled cat (.assign libref path) (.assign libref path)
  | load {libref name name' path : String} (hkey : datasetKey name = datasetKey name') :
    Respelled cat (.load libref name path) (.load libref name' path)
  | replaceFiles (files : FileTree) : Respelled cat (.replaceFiles files) (.replaceFiles files)

/-- **One call in two spellings** is answered alike and leaves catalogs that are alike. -/
theorem Alike.run (h : cat.Alike cat') {call call' : Call} (hcall : cat.Respelled call call') :
    (call.run cat).1.Alike (call'.run cat').1 ∧ (call.run cat).2.Alike (call'.run cat').2 := by
  cases hcall with
  | @create libref name name' edit edit' hkey hreads hfails hblind =>
    have hcreate := h.create hkey hreads hfails
    rw [Call.run, Call.run]
    rcases hreal : cat.create libref name with ⟨r, mid⟩
    rcases hreal' : cat'.create libref name' with ⟨r', mid'⟩
    rw [hreal, hreal'] at hcreate
    obtain ⟨hresults, hafter⟩ := hcreate
    cases r with
    | error e =>
      cases r' with
      | error e' => exact ⟨.dataset .none, hafter⟩
      | ok ds' => cases hresults
    | ok ds =>
      cases r' with
      | error e' => cases hresults
      | ok ds' =>
        have hds : ds.Alike ds' := by
          cases hresults with
          | some hds => exact hds
        dsimp only
        rw [putNamed, putNamed, hafter.libraryKey_eq, ← hkey]
        exact ⟨.dataset (.some (hblind hds)), hafter.put (hblind hds) _ _⟩
  | fetch hkey hreads =>
    have hfetch := h.fetch hkey hreads
    exact ⟨.dataset hfetch.1, hfetch.2⟩
  | update hkey hreads hblind =>
    have hupdate := h.update hkey hreads hblind
    exact ⟨.dataset hupdate.1, hupdate.2⟩
  | @insert libref ds ds' hds =>
    rw [Call.run, Call.run]
    rcases h.insert_cases hds libref with
      ⟨e, hinsert, hinsert'⟩ | ⟨stored, stored', hinsert, hinsert', hafter⟩
    · rw [hinsert, hinsert']
      exact ⟨.stored rfl, h⟩
    · rw [hinsert, hinsert']
      exact ⟨.stored rfl, hafter⟩
  | @remove libref name name' hkey =>
    have hremove := h.remove hkey libref
    exact ⟨.removed hremove.1, hremove.2⟩
  | assign libref path => exact ⟨.done, h.assign libref path⟩
  | @load libref name name' path hkey =>
    rw [Call.run, Call.run]
    rcases h.load_cases hkey libref path with
      ⟨e, e', hload, hload'⟩ | ⟨count, stored, stored', hload, hload', hafter⟩
    · rw [hload, hload']
      exact ⟨.loaded rfl, h⟩
    · rw [hload, hload']
      exact ⟨.loaded rfl, hafter⟩
  | replaceFiles files =>
    exact ⟨.done, ⟨⟨h.default_eq, h.delimiter_eq, rfl, h.path_eq⟩, h.current_eq, h.find?_rel⟩⟩

/-! ## Names that denote the same -/

/-- Two catalogs come from two others by the same operations in two spellings: calls, and edits of
the current data set. -/
inductive Reached (cat cat' : Catalog) : Catalog → Catalog → Prop
  | start : Reached cat cat' cat cat'
  | call {mid mid' : Catalog} (h : Reached cat cat' mid mid') {call call' : Call}
    (hcall : mid.Respelled call call') : Reached cat cat' (call.run mid).2 (call'.run mid').2
  | editCurrent {mid mid' : Catalog} (h : Reached cat cat' mid mid') {f g : Dataset → Dataset}
    (hblind : Dataset.Blind f g) : Reached cat cat' (mid.updateCurrent f).2 (mid'.updateCurrent g).2

/-- **Catalogs that are alike stay alike.** -/
theorem Alike.reached {mid mid' : Catalog} (h : cat.Alike cat')
    (hreached : Reached cat cat' mid mid') :
    mid.Alike mid' := by
  induction hreached with
  | start => exact h
  | call _ hcall ih => exact (ih.run hcall).2
  | editCurrent _ hblind ih => exact (ih.updateCurrent hblind).2

/-- Every operation is answered alike at two catalogs, in whatever spelling. -/
structure AnswerAlike (cat cat' : Catalog) : Prop where
  call : ∀ {call call' : Call}, cat.Respelled call call' → (call.run cat).1.Alike (call'.run cat').1
  editCurrent : ∀ {f g : Dataset → Dataset}, Dataset.Blind f g →
    ResultsAlike (cat.updateCurrent f).1 (cat'.updateCurrent g).1
  current : ResultsAlike cat.current? cat'.current?
  contains_eq : ∀ {name name' : String}, datasetKey name = datasetKey name' →
    ∀ libref, cat'.contains libref name' = cat.contains libref name
  hasLibrary_eq : ∀ libref, cat'.hasLibrary libref = cat.hasLibrary libref
  libraryPath_eq : ∀ libref, cat'.libraryPath libref = cat.libraryPath libref

/-- Two names denote the same data set of a library: a look-up of one succeeds as a look-up of the
other does, and with the same rows and columns, and so does every operation after it. -/
structure DenoteSame (cat : Catalog) (libref name name' : String) : Prop where
  results : ResultsAlike (cat.fetch libref name).1 (cat.fetch libref name').1
  later : ∀ {mid mid' : Catalog},
    Reached (cat.fetch libref name).2 (cat.fetch libref name').2 mid mid' →
    mid.AnswerAlike mid'

theorem Alike.answerAlike (h : cat.Alike cat') : cat.AnswerAlike cat' where
  call hcall := (h.run hcall).1
  editCurrent hblind := (h.updateCurrent hblind).1
  current := by
    unfold current?
    rw [h.current_eq]
    cases cat.current with
    | none => exact .none
    | some key =>
      have hfind := h.find?_rel key.1 key.2
      simp only [Option.bind_some]
      cases hmem : cat.find? key.1 key.2 with
      | none =>
        rw [hmem] at hfind
        rw [eq_none_of_rel_none hfind]
        exact .none
      | some ds =>
        rw [hmem] at hfind
        obtain ⟨ds', hmem', hds⟩ := exists_of_rel_some hfind
        rw [hmem']
        exact .some hds
  contains_eq := by
    intro name name' hkey libref
    have hnamed := h.named?_rel hkey libref
    change (cat'.named? libref name').isSome = (cat.named? libref name).isSome
    cases hmem : cat.named? libref name with
    | none =>
      rw [hmem] at hnamed
      rw [eq_none_of_rel_none hnamed]
    | some ds =>
      rw [hmem] at hnamed
      obtain ⟨ds', hmem', -⟩ := exists_of_rel_some hnamed
      rw [hmem']
      rfl
  hasLibrary_eq := h.hasLibrary_eq
  libraryPath_eq libref := by
    rw [libraryPath, libraryPath, h.libraryKey_eq, h.directory_eq]

/-- **Two spellings of a name denote the same data set if it is in memory or what they read is
alike**, and in a library whose key is its own reference only then. -/
theorem denoteSame_iff_readsAlike (hkey : datasetKey name = datasetKey name') :
    (cat.ReadsAlike libref name name' → cat.DenoteSame libref name name') ∧
      (cat.libraryKey (cat.libraryKey libref) = cat.libraryKey libref →
        (cat.DenoteSame libref name name' ↔ cat.ReadsAlike libref name name')) := by
  have hsame : cat.ReadsAlike libref name name' → cat.DenoteSame libref name name' := by
    intro hreads
    have hfetch := (Alike.refl cat).fetch hkey hreads
    exact ⟨hfetch.1, fun hreached => (hfetch.2.reached hreached).answerAlike⟩
  refine ⟨hsame, fun hown => ⟨fun h => ?_, hsame⟩⟩
  cases hmem : cat.named? libref name with
  | some ds => exact .inl (hmem ▸ rfl)
  | none =>
    have hmem' : cat.named? libref name' = none := by
      rw [named?, ← hkey]
      exact hmem
    have hresults := h.results
    rw [ResultsAlike, toOption_fetch hown hmem, toOption_fetch hown hmem'] at hresults
    exact .inr hresults

/-- Control: a name with blanks around it denotes the data set that is read from
the file of the name. -/
theorem denoteSame_iff_readsAlike_blanks :
    let cat := (new .standard (FileTree.ofList [("d/a.csv", "x\n1\n")])).assign "lib" "d"
    datasetKey " a " = datasetKey "a" ∧
    cat.libraryKey (cat.libraryKey "lib") = cat.libraryKey "lib" ∧
      ((cat.fetch "lib" " a ").1.toOption.map (·.columns)) = some ["x"] ∧
      cat.DenoteSame "lib" " a " "a" := by
  intro cat
  have hkey : datasetKey " a " = datasetKey "a" := by decide +kernel
  have hown : cat.libraryKey (cat.libraryKey "lib") = cat.libraryKey "lib" := by decide +kernel
  have hreads : cat.ReadsAlike "lib" " a " "a" :=
    readsAlike_of_trimString_eq (by decide +kernel) cat "lib"
  exact ⟨hkey, hown, by decide +kernel, ((denoteSame_iff_readsAlike hkey).2 hown).2 hreads⟩

/-- A file whose name is in lower case is not found under the name in upper case. -/
theorem not_denoteSame_upper_case :
    let cat := (new .standard (FileTree.ofList [("d/a.csv", "x\n1\n")])).assign "lib" "d"
    datasetKey "A" = datasetKey "a" ∧ ¬ cat.DenoteSame "lib" "A" "a" := by
  intro cat
  refine ⟨by decide +kernel, fun h => ?_⟩
  have hupper : (cat.fetch "lib" "A").1.toOption = none := by decide +kernel
  have hlower : (cat.fetch "lib" "a").1.toOption.isSome = true := by decide +kernel
  have hresults := h.results
  rw [ResultsAlike, hupper] at hresults
  rw [eq_none_of_rel_none hresults] at hlower
  cases hlower

end Catalog

end DataStep
