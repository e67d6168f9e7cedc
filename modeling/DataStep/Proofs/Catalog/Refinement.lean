import DataStep.Proofs.Catalog.Fetch
import DataStep.Proofs.Catalog.Inventory

/-!
# Catalogs and their inventories

A catalog keeps its data sets in libraries, computes the keys of a name at several places, and
reads a key as a reference once more when it stores what a file describes. An inventory has one
map and one key. Main statement: calls on a new catalog answer what they answer on its
inventory and lead to the same contents, so that every look-up of the catalog can be read off
the map (`refines_inventory`).
-/

set_option autoImplicit false

namespace DataStep

namespace Catalog

variable {cat cat' : Catalog} {inv inv' : Inventory} {libref name path : String} {k : DatasetKey}
  {ds : Dataset} {f : Dataset → Dataset}

/-! ## What an inventory shows -/

/-- A catalog has the contents of an inventory. -/
structure Shows (cat : Catalog) (inv : Inventory) : Prop where
  default_eq : cat.defaultLibrary = inv.defaultLibrary
  delimiter_eq : cat.delimiter = inv.delimiter
  files_eq : cat.files = inv.files
  directory : ∀ l, (cat.libraries.get? l).map (·.path) = inv.directories.lookup l
  dataset : ∀ l d, cat.find? l d = inv.datasets.lookup (l, d)
  current_eq : cat.current = inv.current

namespace Shows

theorem new (config : Config) (files : FileTree) :
    (Catalog.new config files).Shows (Inventory.new config files) where
  default_eq := rfl
  delimiter_eq := rfl
  files_eq := rfl
  directory l := by
    by_cases h : l = Text.upper config.defaultLibrary
    · rw [h, Catalog.new, OrderedMap.get?_insert_self, Inventory.new, Finmap.lookup_singleton_eq]
      rfl
    · have hnot : l ∉ (Finmap.singleton (Text.upper config.defaultLibrary) none :
          Finmap fun _ : String => Option String) := by rwa [Finmap.mem_singleton]
      rw [Catalog.new, OrderedMap.get?_insert_of_ne _ _ (Ne.symm h), Inventory.new,
        Finmap.lookup_eq_none.2 hnot]
      rfl
  dataset l d := by
    rw [Catalog.new, find?, OrderedMap.get?_insert, Inventory.new, Finmap.lookup_empty]
    split <;> rfl
  current_eq := rfl

variable (h : cat.Shows inv)

include h

theorem libraryKey_eq (libref : String) : cat.libraryKey libref = inv.libraryKey libref := by
  rw [libraryKey, Inventory.libraryKey, h.default_eq]

theorem hasLibrary_eq (libref : String) :
    cat.hasLibrary libref = inv.declares (inv.libraryKey libref) := by
  rw [hasLibrary, Inventory.declares, ← h.directory, Option.isSome_map, h.libraryKey_eq,
    OrderedMap.contains]

theorem named?_eq (libref name : String) :
    cat.named? libref name = inv.datasets.lookup (inv.keyOf libref name) := by
  rw [named?, h.dataset, h.libraryKey_eq]
  rfl

theorem stored?_eq (library name : String) : cat.stored? library name = inv.file? library name := by
  have hpath := h.directory library
  unfold stored? Inventory.file?
  cases hlib : cat.libraries.get? library with
  | none =>
    rw [hlib] at hpath
    rw [← hpath]
    rfl
  | some lib =>
    rw [hlib] at hpath
    rw [← hpath]
    cases hdirectory : lib.path with
    | none => simp [hdirectory]
    | some directory =>
      simp only [Option.bind_some, hdirectory, Option.map_some, Inventory.read, h.files_eq,
        h.delimiter_eq]
      cases hread : inv.files.read? (FileTree.join directory (Text.trimString name ++ ".csv")) with
      | none => rfl
      | some text => rfl

theorem put (hdeclared : inv.declares k.1 = true) : (cat.put k.1 k.2 ds).Shows (inv.put k ds) where
  default_eq := defaultLibrary_put.trans h.default_eq
  delimiter_eq :=
    (((Puts.refl (D := fun _ => True)).put k.1 k.2 trivial).sameSources.delimiter_eq).trans
    h.delimiter_eq
  files_eq := (((Puts.refl (D := fun _ => True)).put k.1 k.2 trivial).sameSources.files_eq).trans
    h.files_eq
  directory l := (path_put l).trans (h.directory l)
  dataset l d := by
    rw [Inventory.lookup_put]
    split
    · rename_i heq
      subst heq
      have hlib : (cat.libraries.get? l).isSome := by
        rw [Inventory.declares, ← h.directory, Option.isSome_map] at hdeclared
        exact hdeclared
      exact find?_put_self hlib
    · rename_i hne
      rw [← h.dataset]
      apply find?_put_of_ne
      by_cases hl : l = k.1
      · exact .inr fun hd => hne (Prod.ext hl hd)
      · exact .inl hl
  current_eq := by
    rw [Catalog.put]
    split <;> exact h.current_eq

theorem select (k : DatasetKey) : (cat.select k.1 k.2).Shows { inv with current := some k } :=
  { h with current_eq := rfl }

theorem store (hdeclared : inv.declares k.1 = true) :
    ((cat.put k.1 k.2 ds).select k.1 k.2).Shows (inv.store k ds) := (h.put hdeclared).select k

/-- Putting a data set under a name, where it was made current or not. -/
theorem putNamed (hdeclared : inv.declares (inv.libraryKey libref) = true) :
    (cat.putNamed libref name ds).Shows (inv.put (inv.keyOf libref name) ds) := by
  rw [Catalog.putNamed, h.libraryKey_eq]
  exact h.put (k := inv.keyOf libref name) hdeclared

/-- Putting a data set under a name and making it current. -/
theorem storeNamed (hdeclared : inv.declares (inv.libraryKey libref) = true) :
    ((cat.putNamed libref name ds).select (cat.libraryKey libref) (datasetKey name)).Shows
      (inv.store (inv.keyOf libref name) ds) := by
  rw [Catalog.putNamed, h.libraryKey_eq]
  exact h.store (k := inv.keyOf libref name) hdeclared

/-! ## Finding data sets -/

theorem find_of_not_declared (hlib : cat.hasLibrary libref = false) :
    inv.find libref name = .error (.unknownLibrary libref) := by
  rw [h.hasLibrary_eq] at hlib
  rw [Inventory.find, hlib]
  rfl

theorem find_of_named? (hnamed : cat.named? libref name = some ds) :
    inv.find libref name = .ok (.inMemory ds) := by
  have hlib : cat.hasLibrary libref = true := isSome_library_of_named? hnamed
  rw [h.hasLibrary_eq] at hlib
  rw [h.named?_eq] at hnamed
  rw [Inventory.find, if_pos hlib, hnamed]

theorem find_of_named?_eq_none (hlib : cat.hasLibrary libref = true)
    (hnamed : cat.named? libref name = none) : inv.find libref name =
      (cat.stored? (cat.libraryKey libref) name).map fun
        | some ds => .onFile ds
        | none => .nowhere := by
  have hfile : inv.file? (inv.libraryKey libref) name =
      cat.stored? (cat.libraryKey libref) name := by
    rw [h.stored?_eq, h.libraryKey_eq]
  rw [h.hasLibrary_eq] at hlib
  rw [h.named?_eq] at hnamed
  rw [Inventory.find, if_pos hlib, hnamed]
  exact congrArg (Except.map _) hfile

end Shows

/-! ## Creating and removing -/

theorem create_of_not_declared (h : cat.hasLibrary libref = false) :
    cat.create libref name = (.error (.unknownLibrary libref), cat) := by
  simp [create, h]

theorem create_of_named? (h : cat.named? libref name = some ds) :
    cat.create libref name = (.ok ds, cat.select (cat.libraryKey libref) (datasetKey name)) := by
  have hlib : cat.hasLibrary libref = true := isSome_library_of_named? h
  have hfind : cat.find? (cat.libraryKey libref) (datasetKey name) = some ds := h
  simp [create, contains, hlib, hfind]

section NotInMemory

variable (hlib : cat.hasLibrary libref = true) (hnamed : cat.named? libref name = none)

include hnamed

theorem not_contains_of_named? : cat.contains libref name = false := by
  rw [contains]
  exact congrArg Option.isSome hnamed

/-- What the directory of a library holds is put in memory by a creation too. -/
theorem create_of_stored? (hstored : cat.stored? (cat.libraryKey libref) name = .ok (some ds))
    (hown : cat.libraryKey (cat.libraryKey libref) = cat.libraryKey libref) :
    cat.create libref name =
      (.ok ds, (cat.putNamed libref name ds).select (cat.libraryKey libref) (datasetKey name)) := by
  have hdeclared : cat.hasLibrary libref = true := hasLibrary_of_stored? hstored
  have hfind : ((cat.putNamed libref name ds).select (cat.libraryKey libref)
      (datasetKey name)).find? (cat.libraryKey libref) (datasetKey name) = some ds :=
    find?_put_self hdeclared
  simp [create, hdeclared, not_contains_of_named? hnamed, loadFromLibrary_eq, hstored,
    insert_of_stored? hstored hown, Except.map, -find?_select, hfind]
  rfl

include hlib

theorem create_of_stored?_eq_error {e : LibraryError}
    (hstored : cat.stored? (cat.libraryKey libref) name = .error e) :
    cat.create libref name = (.error e, cat) := by
  simp [create, hlib, not_contains_of_named? hnamed, loadFromLibrary_eq, hstored, Except.map]

theorem create_of_stored?_eq_none (hstored : cat.stored? (cat.libraryKey libref) name = .ok none) :
    cat.create libref name = (.ok (.new (Text.trimString name)),
      (cat.putNamed libref name (.new (Text.trimString name))).select (cat.libraryKey libref)
        (datasetKey name)) := by
  have hfind : cat.find? (cat.libraryKey libref) (datasetKey name) = none := hnamed
  simp [create, hlib, not_contains_of_named? hnamed, loadFromLibrary_eq, hstored, Except.map, hfind]
  rfl

end NotInMemory

section Removing

/-- A removal changes one library and perhaps the selection. -/
theorem remove_eq (libref name : String) : cat.remove libref name =
    (cat.named? libref name,
      { cat with
        libraries :=
          match cat.libraries.get? (cat.libraryKey libref) with
          | none => cat.libraries
          | some lib => cat.libraries.insert (cat.libraryKey libref)
              { lib with datasets := lib.datasets.erase (datasetKey name) }
        current :=
          if cat.current = some (cat.libraryKey libref, datasetKey name) then none
          else cat.current }) := by
  by_cases hcurrent : cat.current = some (cat.libraryKey libref, datasetKey name)
  · cases hlib : cat.libraries.get? (cat.libraryKey libref) <;>
      simp [remove, named?, find?, hcurrent, hlib]
  · cases hlib : cat.libraries.get? (cat.libraryKey libref) <;>
      simp [remove, named?, find?, hcurrent, hlib]

theorem path_remove (l : String) :
    ((cat.remove libref name).2.libraries.get? l).map (·.path) =
      (cat.libraries.get? l).map (·.path) := by
  rw [remove_eq]
  dsimp only
  cases hlib : cat.libraries.get? (cat.libraryKey libref) with
  | none => rfl
  | some lib =>
    dsimp only
    by_cases hl : cat.libraryKey libref = l
    · subst hl
      rw [OrderedMap.get?_insert_self, hlib]
      rfl
    · rw [OrderedMap.get?_insert_of_ne _ _ hl]

theorem find?_remove (l d : String) : (cat.remove libref name).2.find? l d =
    if (l, d) = (cat.libraryKey libref, datasetKey name) then none else cat.find? l d := by
  rw [find?, find?, remove_eq]
  dsimp only
  cases hlib : cat.libraries.get? (cat.libraryKey libref) with
  | none =>
    dsimp only
    split
    · rename_i hkeys
      cases hkeys
      rw [hlib]
      rfl
    · rfl
  | some lib =>
    dsimp only
    by_cases hl : cat.libraryKey libref = l
    · subst hl
      rw [OrderedMap.get?_insert_self, hlib]
      simp [OrderedMap.get?_erase]
    · rw [OrderedMap.get?_insert_of_ne _ _ hl,
        if_neg fun hkeys => hl (congrArg Prod.fst hkeys).symm]

end Removing

/-! ## Calls -/

/-- A result on a catalog is the result on its inventory. -/
def Matches {α : Type} (real : α × Catalog) (ideal : α × Inventory) : Prop :=
  real.1 = ideal.1 ∧ real.2.Shows ideal.2

section Calls

variable (h : cat.Shows inv) (hsound : inv.Sound)

include h hsound

theorem libraryKey_own (libref : String) :
    cat.libraryKey (cat.libraryKey libref) = cat.libraryKey libref := by
  rw [h.libraryKey_eq, h.libraryKey_eq, Inventory.libraryKey_libraryKey hsound.default_own]

theorem matches_fetch (libref name : String) :
    Matches (cat.fetch libref name) (inv.fetch libref name) := by
  cases hlib : cat.hasLibrary libref with
  | false =>
    rw [fetch_of_not_declared hlib, Inventory.fetch, h.find_of_not_declared hlib]
    exact ⟨rfl, h⟩
  | true =>
    have hdeclared : inv.declares (inv.libraryKey libref) = true := h.hasLibrary_eq libref ▸ hlib
    cases hnamed : cat.named? libref name with
    | some ds =>
      rw [fetch_of_named? hnamed, Inventory.fetch, h.find_of_named? hnamed]
      exact ⟨rfl, h⟩
    | none =>
      have hfind := h.find_of_named?_eq_none hlib hnamed
      cases hstored : cat.stored? (cat.libraryKey libref) name with
      | error e =>
        rw [hstored] at hfind
        rw [fetch_of_named?_eq_none hlib hnamed, hstored, Inventory.fetch, hfind]
        exact ⟨rfl, h⟩
      | ok found =>
        rw [hstored] at hfind
        cases found with
        | none =>
          rw [fetch_of_named?_eq_none hlib hnamed, hstored, Inventory.fetch, hfind, h.libraryKey_eq]
          exact ⟨rfl, h⟩
        | some ds =>
          have hown := libraryKey_own h hsound libref
          rw [fetch_of_stored? hnamed hstored hown, Inventory.fetch, hfind]
          exact ⟨rfl, h.storeNamed hdeclared⟩

omit h hsound in
/-- A data set that was stored and is put anew is stored in its new state. -/
theorem putNamed_of_store {stored changed : Dataset}
    (h : cat.Shows (inv.store (inv.keyOf libref name) stored))
    (hdeclared : inv.declares (inv.libraryKey libref) = true) :
    (cat.putNamed libref name changed).Shows (inv.store (inv.keyOf libref name) changed) := by
  rw [← Inventory.put_store stored changed]
  exact h.putNamed hdeclared

theorem matches_update (libref name : String) (f : Dataset → Dataset) :
    Matches (cat.update libref name f) (inv.update libref name f) := by
  have hfetch := matches_fetch h hsound libref name
  rw [update]
  cases hreal : cat.fetch libref name with
  | mk r mid =>
    rw [hreal, Inventory.fetch] at hfetch
    obtain ⟨hanswer, hshows⟩ := hfetch
    rw [Inventory.update]
    cases hfind : inv.find libref name with
    | error e =>
      rw [hfind] at hanswer hshows
      dsimp only at hanswer hshows
      subst hanswer
      exact ⟨rfl, hshows⟩
    | ok found =>
      have hdeclared := Inventory.declares_of_find hfind
      rw [hfind] at hanswer hshows
      cases found with
      | nowhere =>
        dsimp only at hanswer hshows
        subst hanswer
        exact ⟨rfl, hshows⟩
      | inMemory ds =>
        dsimp only at hanswer hshows
        subst hanswer
        exact ⟨rfl, hshows.putNamed hdeclared⟩
      | onFile ds =>
        dsimp only at hanswer hshows
        subst hanswer
        exact ⟨rfl, putNamed_of_store hshows hdeclared⟩

theorem matches_create (libref name : String) :
    Matches (cat.create libref name) (inv.create libref name id) := by
  cases hlib : cat.hasLibrary libref with
  | false =>
    rw [create_of_not_declared hlib, Inventory.create, h.find_of_not_declared hlib]
    exact ⟨rfl, h⟩
  | true =>
    have hdeclared : inv.declares (inv.libraryKey libref) = true := h.hasLibrary_eq libref ▸ hlib
    cases hnamed : cat.named? libref name with
    | some ds =>
      rw [create_of_named? hnamed, Inventory.create, h.find_of_named? hnamed]
      refine ⟨rfl, ?_⟩
      dsimp only [Found.dataset?, Option.getD_some, id_eq]
      rw [h.named?_eq] at hnamed
      rw [h.libraryKey_eq, Inventory.store, Inventory.put_of_lookup hnamed]
      exact h.select (inv.keyOf libref name)
    | none =>
      have hfind := h.find_of_named?_eq_none hlib hnamed
      cases hstored : cat.stored? (cat.libraryKey libref) name with
      | error e =>
        rw [hstored] at hfind
        rw [create_of_stored?_eq_error hlib hnamed hstored, Inventory.create, hfind]
        exact ⟨rfl, h⟩
      | ok found =>
        rw [hstored] at hfind
        cases found with
        | none =>
          rw [create_of_stored?_eq_none hlib hnamed hstored, Inventory.create, hfind]
          exact ⟨rfl, h.storeNamed hdeclared⟩
        | some ds =>
          have hown := libraryKey_own h hsound libref
          rw [create_of_stored? hnamed hstored hown, Inventory.create, hfind]
          exact ⟨rfl, h.storeNamed hdeclared⟩

omit hsound in
/-- A data set is stored exactly where its inventory stores it. -/
theorem insert_cases (libref : String) (ds : Dataset) :
    (∃ e, cat.insert libref ds = .error e ∧ inv.insert libref ds = .error e) ∨
      ∃ cat' inv', cat.insert libref ds = .ok cat' ∧ inv.insert libref ds = .ok inv' ∧
        cat'.Shows inv' := by
  rw [Catalog.insert, Inventory.insert, h.hasLibrary_eq]
  cases hdeclared : inv.declares (inv.libraryKey libref) with
  | false => exact .inl ⟨_, rfl, rfl⟩
  | true =>
    refine .inr ⟨_, _, rfl, rfl, ?_⟩
    rw [h.libraryKey_eq]
    exact h.store (k := inv.keyOf libref ds.name) hdeclared

omit hsound in
theorem load_cases (libref name path : String) :
    (∃ e, cat.load libref name path = .error e ∧ inv.load libref name path = .error e) ∨
      ∃ count cat' inv', cat.load libref name path = .ok (count, cat') ∧
        inv.load libref name path = .ok (count, inv') ∧ cat'.Shows inv' := by
  have hread : cat.load libref name path = (inv.read name path).bind fun ds =>
      (cat.insert libref ds).map fun stored => (ds.size, stored) := by
    rw [Catalog.load, Inventory.read, h.files_eq, h.delimiter_eq]
    cases inv.files.read? path with
    | none => rfl
    | some text => rfl
  have hload : inv.load libref name path = (inv.read name path).bind fun ds =>
      (inv.insert libref ds).map fun stored => (ds.size, stored) := rfl
  rw [hread, hload]
  cases inv.read name path with
  | error e => exact .inl ⟨e, rfl, rfl⟩
  | ok ds =>
    rcases insert_cases h libref ds with
      ⟨e, hreal, hideal⟩ | ⟨stored, stored', hreal, hideal, hshows⟩
    · exact .inl ⟨e, by rw [Except.bind, hreal]; rfl, by rw [Except.bind, hideal]; rfl⟩
    · exact .inr ⟨ds.size, stored, stored', by rw [Except.bind, hreal]; rfl,
        by rw [Except.bind, hideal]; rfl, hshows⟩

omit hsound in
theorem matches_remove (libref name : String) :
    Matches (cat.remove libref name) (inv.remove libref name) := by
  refine ⟨?_, ?_⟩
  · rw [remove_eq]
    exact h.named?_eq libref name
  · exact
      { default_eq := by rw [remove_eq]; exact h.default_eq
        delimiter_eq := by rw [remove_eq]; exact h.delimiter_eq
        files_eq := by rw [remove_eq]; exact h.files_eq
        directory := fun l => (path_remove l).trans (h.directory l)
        dataset := by
          intro l d
          rw [find?_remove, Inventory.lookup_remove, h.dataset, h.libraryKey_eq]
          rfl
        current_eq := by
          rw [remove_eq, h.current_eq, h.libraryKey_eq]
          rfl }

omit hsound in
theorem shows_assign (libref path : String) :
    (cat.assign libref path).Shows (inv.assign libref path) where
  default_eq := h.default_eq
  delimiter_eq := h.delimiter_eq
  files_eq := h.files_eq
  directory l := by
    rw [Catalog.assign, Inventory.assign, h.libraryKey_eq]
    by_cases hl : l = inv.libraryKey libref
    · rw [hl, OrderedMap.get?_insert_self, Finmap.lookup_insert]
      rfl
    · rw [OrderedMap.get?_insert_of_ne _ _ (Ne.symm hl), Finmap.lookup_insert_of_ne _ hl]
      exact h.directory l
  dataset l d := (find?_assign libref path l d).trans (h.dataset l d)
  current_eq := h.current_eq

end Calls

end Catalog

/-- What a call does to a catalog. -/
def Call.run : Call → Catalog → Answer × Catalog
  | create libref name edit, cat =>
    match cat.create libref name with
    | (.error e, cat) => (.dataset (.error e), cat)
    | (.ok ds, cat) => (.dataset (.ok (edit.change ds)), cat.putNamed libref name (edit.change ds))
  | fetch libref name, cat =>
    let (r, cat) := cat.fetch libref name
    (.dataset r, cat)
  | update libref name edit, cat =>
    let (r, cat) := cat.update libref name edit.change
    (.dataset r, cat)
  | insert libref ds, cat =>
    match cat.insert libref ds with
    | .error e => (.stored (.error e), cat)
    | .ok cat => (.stored (.ok ()), cat)
  | remove libref name, cat =>
    let (found, cat) := cat.remove libref name
    (.removed found, cat)
  | assign libref path, cat => (.done, cat.assign libref path)
  | load libref name path, cat =>
    match cat.load libref name path with
    | .error e => (.loaded (.error e), cat)
    | .ok (count, cat) => (.loaded (.ok count), cat)
  | replaceFiles files, cat => (.done, { cat with files })

namespace Catalog

variable {cat : Catalog} {inv : Inventory}

/-- **A call on a catalog answers what it answers on the inventory and leads
to the same contents.** -/
theorem matches_run (h : cat.Shows inv) (hsound : inv.Sound) (call : Call) :
    Matches (call.run cat) (call.apply inv) := by
  cases call with
  | create libref name edit =>
    have hcreate := matches_create h hsound libref name
    rw [Call.run, Call.apply]
    cases hreal : cat.create libref name with
    | mk r mid =>
      rw [hreal, Inventory.create] at hcreate
      obtain ⟨hanswer, hshows⟩ := hcreate
      rw [Inventory.create]
      cases hfind : inv.find libref name with
      | error e =>
        rw [hfind] at hanswer hshows
        dsimp only at hanswer hshows
        subst hanswer
        exact ⟨rfl, hshows⟩
      | ok found =>
        have hdeclared := Inventory.declares_of_find hfind
        rw [hfind] at hanswer hshows
        dsimp only [id_eq] at hanswer hshows ⊢
        generalize found.dataset?.getD (.new (Text.trimString name)) = ds at hanswer hshows ⊢
        subst hanswer
        exact ⟨rfl, putNamed_of_store hshows hdeclared⟩
  | fetch libref name =>
    have hfetch := matches_fetch h hsound libref name
    exact ⟨congrArg Answer.dataset hfetch.1, hfetch.2⟩
  | update libref name edit =>
    have hupdate := matches_update h hsound libref name edit.change
    exact ⟨congrArg Answer.dataset hupdate.1, hupdate.2⟩
  | insert libref ds =>
    rw [Call.run, Call.apply]
    rcases insert_cases h libref ds with
      ⟨e, hreal, hideal⟩ | ⟨stored, stored', hreal, hideal, hshows⟩
    · rw [hreal, hideal]
      exact ⟨rfl, h⟩
    · rw [hreal, hideal]
      exact ⟨rfl, hshows⟩
  | remove libref name =>
    have hremove := matches_remove h libref name
    exact ⟨congrArg Answer.removed hremove.1, hremove.2⟩
  | assign libref path => exact ⟨rfl, shows_assign h libref path⟩
  | load libref name path =>
    rw [Call.run, Call.apply]
    rcases load_cases h libref name path with
      ⟨e, hreal, hideal⟩ | ⟨count, stored, stored', hreal, hideal, hshows⟩
    · rw [hreal, hideal]
      exact ⟨rfl, h⟩
    · rw [hreal, hideal]
      exact ⟨rfl, hshows⟩
  | replaceFiles files => exact ⟨rfl, { h with files_eq := rfl }⟩

/-- **Calls one after another answer what they answer on the inventory and lead to the same
contents.** -/
theorem matches_after (h : cat.Shows inv) (hsound : inv.Sound) (calls : List Call) :
    Call.answers Call.run calls cat = Call.answers Call.apply calls inv ∧
      (Call.after Call.run calls cat).Shows (Call.after Call.apply calls inv) := by
  induction calls generalizing cat inv with
  | nil => exact ⟨rfl, h⟩
  | cons call calls ih =>
    obtain ⟨hanswer, hshows⟩ := matches_run h hsound call
    obtain ⟨hanswers, hafter⟩ := ih hshows ((hsound.effect call).sound hsound)
    exact ⟨by rw [Call.answers, Call.answers, hanswer, hanswers], hafter⟩

/-! ## Names -/

theorem pairwise_datasetNames (libref : String) : (cat.datasetNames libref).Pairwise (· ≤ ·) := by
  unfold datasetNames
  split
  · rename_i lib hlib
    have htrans : ∀ a b c : String, decide (a ≤ b) → decide (b ≤ c) → decide (a ≤ c) := by
      simp only [decide_eq_true_eq]
      exact fun a b c => String.le_trans
    have htotal : ∀ a b : String, decide (a ≤ b) || decide (b ≤ a) := by
      simp only [Bool.or_eq_true, decide_eq_true_eq]
      exact fun a b => String.le_total a b
    have hsorted := List.pairwise_mergeSort htrans htotal (lib.datasets.entries.map (·.2.name))
    simpa only [decide_eq_true_eq] using hsorted
  · exact List.Pairwise.nil

namespace Shows

variable (h : cat.Shows inv)

include h

theorem contains_eq (libref name : String) :
    cat.contains libref name = (inv.datasets.lookup (inv.keyOf libref name)).isSome := by
  rw [← h.named?_eq]
  rfl

theorem lookup_eq_some_iff {library key : String} {ds : Dataset} :
    inv.datasets.lookup (library, key) = some ds ↔
      ∃ lib, cat.libraries.get? library = some lib ∧ (key, ds) ∈ lib.datasets.entries := by
  rw [← h.dataset, find?, Option.bind_eq_some_iff]
  simp only [OrderedMap.get?_eq_some_iff]

theorem mem_datasetNames_iff {libref name : String} : name ∈ cat.datasetNames libref ↔
    ∃ key ds, inv.datasets.lookup (inv.libraryKey libref, key) = some ds ∧ ds.name = name := by
  simp only [h.lookup_eq_some_iff, ← h.libraryKey_eq]
  unfold datasetNames
  cases cat.libraries.get? (cat.libraryKey libref) with
  | none => simp
  | some lib =>
    simp only [List.mem_mergeSort, List.mem_map, Prod.exists, Option.some.injEq, exists_eq_left']

/-- The keys are free of repetitions, and the key of a name is a function of it. -/
theorem nodup_datasetNames (hsound : inv.Sound) (libref : String) :
    (cat.datasetNames libref).Nodup := by
  unfold datasetNames
  cases hlib : cat.libraries.get? (cat.libraryKey libref) with
  | none => exact List.nodup_nil
  | some lib =>
    have hkeys : (lib.datasets.entries.map (·.2.name)).map datasetKey =
        Entries.keys lib.datasets.entries := by
      rw [List.map_map]
      apply List.map_congr_left
      intro entry hentry
      have hlookup := h.lookup_eq_some_iff.2 ⟨lib, hlib, hentry⟩
      exact (hsound.own_name _ _ hlookup).symm
    refine (List.mergeSort_perm _ _).nodup_iff.2 ?_
    apply List.Nodup.of_map
    rw [hkeys]
    exact lib.datasets.distinct

end Shows

/-! ## Refinement -/

/-- A catalog behaves as an inventory after calls on a new catalog. -/
structure Refines (config : Config) (files : FileTree) (calls : List Call) (cat : Catalog)
    (inv : Inventory) : Prop where
  /-- Every call has answered what it answers on a map. -/
  answers_eq : Call.answers Call.run calls (new config files) =
    Call.answers Call.apply calls (Inventory.new config files)
  find?_eq : ∀ library key, cat.find? library key = inv.datasets.lookup (library, key)
  contains_eq : ∀ libref name,
    cat.contains libref name = (inv.datasets.lookup (inv.keyOf libref name)).isSome
  keyOf_eq : ∀ libref name, inv.keyOf libref name =
    (if Text.isBlankString libref then Text.upper config.defaultLibrary
      else Text.upper (Text.trimString libref), Text.lower (Text.trimString name))
  own_name : ∀ library key ds, inv.datasets.lookup (library, key) = some ds →
    key = Text.lower (Text.trimString ds.name)
  names_ascending : ∀ libref, (cat.datasetNames libref).Pairwise (· ≤ ·)
  names_nodup : ∀ libref, (cat.datasetNames libref).Nodup
  mem_names_iff : ∀ libref name, name ∈ cat.datasetNames libref ↔
    ∃ key ds, inv.datasets.lookup (inv.libraryKey libref, key) = some ds ∧ ds.name = name
  /-- What was declared after some of the calls is declared after all of them. -/
  stays_declared : ∀ before since libref, calls = before ++ since →
    (Call.after Call.run before (new config files)).hasLibrary libref = true →
      cat.hasLibrary libref = true
  assign_keeps : ∀ libref path library key,
    (cat.assign libref path).find? library key = cat.find? library key
  default_declared : cat.hasLibrary config.defaultLibrary = true ∧
    ∀ libref, Text.isBlankString libref = true → cat.hasLibrary libref = true
  current_present : ∀ key, cat.current = some key →
    ∃ ds, inv.datasets.lookup key = some ds ∧ cat.current? = .ok ds
  lapsed : cat.current? = .error .noCurrentDataset →
    Inventory.Lapsed calls (Inventory.new config files)

/-- **A catalog refines a finite map from keys to data sets.** -/
theorem refines_inventory {config : Config}
    (hdefault : Text.trimString config.defaultLibrary = config.defaultLibrary) (files : FileTree)
    (calls : List Call) :
    Refines config files calls (Call.after Call.run calls (new config files))
      (Call.after Call.apply calls (Inventory.new config files)) := by
  have hnew := Inventory.Sound.new hdefault files
  have hsound := hnew.after calls
  have hall := matches_after (Shows.new config files) hnew
  have hshows := (hall calls).2
  generalize hinv : Call.after Call.apply calls (Inventory.new config files) = inv at hsound hshows
  generalize hcat : Call.after Call.run calls (new config files) = cat at hshows
  have hdefaultLibrary : inv.defaultLibrary = Text.upper config.defaultLibrary :=
    hinv ▸ hnew.defaultLibrary_after calls
  have hkey : ∀ libref, inv.libraryKey libref = if Text.isBlankString libref
      then Text.upper config.defaultLibrary else Text.upper (Text.trimString libref) := by
    intro libref
    rw [Inventory.libraryKey, hdefaultLibrary]
  have hdeclared : ∀ libref, inv.libraryKey libref = inv.defaultLibrary →
      cat.hasLibrary libref = true := by
    intro libref heq
    rw [hshows.hasLibrary_eq, heq]
    exact hsound.default_declared
  have hcurrent : ∀ key, cat.current = some key →
      ∃ ds, inv.datasets.lookup key = some ds ∧ cat.current? = .ok ds := by
    rintro ⟨library, key⟩ hselected
    obtain ⟨ds, hds⟩ := Option.isSome_iff_exists.1
      (hsound.current_present (library, key) (hshows.current_eq ▸ hselected))
    refine ⟨ds, hds, ?_⟩
    rw [← hshows.dataset] at hds
    rw [current?, hselected]
    dsimp only [Option.bind_some]
    rw [hds]
  exact
    { answers_eq := (hall calls).1
      find?_eq := hshows.dataset
      contains_eq := hshows.contains_eq
      keyOf_eq := fun libref name => by rw [Inventory.keyOf, hkey]
      own_name := fun library key ds h => hsound.own_name (library, key) ds h
      names_ascending := pairwise_datasetNames
      names_nodup := hshows.nodup_datasetNames hsound
      mem_names_iff := fun libref name => hshows.mem_datasetNames_iff
      stays_declared := by
        intro before since libref hcalls hbefore
        have hmid := (hall before).2
        rw [hmid.hasLibrary_eq] at hbefore
        have hkept := (hnew.after before).declares_after hbefore since
        rw [← Call.after_append, ← hcalls, hinv] at hkept
        rw [hshows.hasLibrary_eq, hkey]
        rw [Inventory.libraryKey, hnew.defaultLibrary_after] at hkept
        exact hkept
      assign_keeps := fun libref path library key => find?_assign libref path library key
      default_declared := by
        refine ⟨hdeclared _ ?_,
          fun libref hblank => hdeclared _ (by rw [Inventory.libraryKey, if_pos hblank])⟩
        rw [hkey, hdefault, ite_self, hdefaultLibrary]
      current_present := hcurrent
      lapsed := by
        intro hfails
        apply hnew.lapsed_of_current_eq_none
        rw [hinv, ← hshows.current_eq]
        cases hselected : cat.current with
        | none => rfl
        | some key =>
          obtain ⟨ds, -, hds⟩ := hcurrent key hselected
          rw [hfails] at hds
          cases hds }

/-- Control: a file is read from a library by a reference with blanks and in lower case, and a data
set of the default library is removed. -/
theorem refines_inventory_two_libraries :
    let files := FileTree.ofList [("dir/b.csv", "x\n1\n")]
    let calls : List Call := [.create "" "A" ⟨id, fun _ => rfl⟩, .assign " lib " "dir",
      .fetch "Lib" " b ", .remove "work" "a "]
    let cat := Call.after Call.run calls (new .standard files)
    Text.trimString Config.standard.defaultLibrary = Config.standard.defaultLibrary ∧
      cat.contains "LIB " "B" = true ∧ cat.contains "" "a" = false ∧
      cat.current = some ("LIB", "b") ∧
      Refines .standard files calls cat
        (Call.after Call.apply calls (Inventory.new .standard files)) := by
  intro files calls cat
  have hdefault : Text.trimString Config.standard.defaultLibrary =
      Config.standard.defaultLibrary := by
    decide +kernel
  exact ⟨hdefault, by decide +kernel, by decide +kernel, by decide +kernel,
    refines_inventory hdefault files calls⟩

end Catalog

end DataStep
