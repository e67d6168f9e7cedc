import DataStep.Catalog
import DataStep.Proofs.Dataset
import DataStep.Proofs.Text
import Mathlib.Data.Finmap

/-!
# Inventories

An inventory is what a catalog comes to if one forgets how it is stored: a finite map from pairs of
keys to data sets, the directories of the declared libraries, and the key of the current data set.
The calls on a catalog are given here by what they do to an inventory (`Call.apply`).

What a call can do is said once (`Inventory.Sound.effect`), and the invariants are read off it. Main
statements: after any calls every data set lies under the key of its own name in a declared library,
and the current key has a data set (`Inventory.Sound.after`); declared libraries stay
(`Inventory.Sound.declares_after`); and nothing is current only if nothing was selected since the
start or since the current data set was removed (`Inventory.Sound.lapsed_of_current_eq_none`).
-/

set_option autoImplicit false

namespace DataStep

/-- The keys of a data set: that of its library and that of its name. -/
abbrev DatasetKey := String × String

/-! ## Calls -/

/-- A change to a data set that leaves its name. -/
structure Edit where
  change : Dataset → Dataset
  name_change : ∀ ds, (change ds).name = ds.name

/-- A call on a catalog. -/
inductive Call where
  /-- The data set is created if need be, and then edited. -/
  | create (libref name : String) (edit : Edit)
  | fetch (libref name : String)
  | update (libref name : String) (edit : Edit)
  | insert (libref : String) (ds : Dataset)
  | remove (libref name : String)
  | assign (libref path : String)
  | load (libref name path : String)
  /-- The files are changed from outside. -/
  | replaceFiles (files : FileTree)

/-- What a call answers. -/
inductive Answer where
  | dataset (r : Except LibraryError Dataset)
  | stored (r : Except LibraryError Unit)
  | removed (found : Option Dataset)
  | loaded (r : Except LibraryError Nat)
  | done

namespace Call

variable {σ : Type}

/-- The state after calls. -/
def after (step : Call → σ → Answer × σ) (calls : List Call) (s : σ) : σ :=
  calls.foldl (fun s call => (step call s).2) s

/-- What calls answer one after another. -/
def answers (step : Call → σ → Answer × σ) : List Call → σ → List Answer
  | [], _ => []
  | call :: calls, s => (step call s).1 :: answers step calls (step call s).2

theorem after_append (step : Call → σ → Answer × σ) (calls more : List Call) (s : σ) :
    after step (calls ++ more) s = after step more (after step calls s) := List.foldl_append

theorem after_concat (step : Call → σ → Answer × σ) (calls : List Call) (call : Call) (s : σ) :
    after step (calls ++ [call]) s = (step call (after step calls s)).2 :=
  after_append step calls [call] s

end Call

/-! ## Inventories -/

/-- What a catalog holds. -/
structure Inventory where
  defaultLibrary : String
  delimiter : Char
  files : FileTree
  /-- The declared libraries by key, with the directories that they have. -/
  directories : Finmap fun _ : String => Option String
  datasets : Finmap fun _ : DatasetKey => Dataset
  current : Option DatasetKey

/-- Where a data set is found. -/
inductive Found where
  | inMemory (ds : Dataset)
  | onFile (ds : Dataset)
  | nowhere

/-- The data set that is found. -/
def Found.dataset? : Found → Option Dataset
  | inMemory ds => some ds
  | onFile ds => some ds
  | nowhere => none

namespace Inventory

/-- The inventory of a new catalog. -/
def new (config : Config) (files : FileTree) : Inventory :=
  let key := Text.upper config.defaultLibrary
  ⟨key, config.delimiter, files, Finmap.singleton key none, ∅, none⟩

/-- The key of a library: its reference in upper case without the blanks around it, or the default
library if the reference is blank. -/
def libraryKey (inv : Inventory) (libref : String) : String :=
  if Text.isBlankString libref then inv.defaultLibrary else Text.upper (Text.trimString libref)

/-- The keys of a data set: its name counts in lower case without the blanks around it. -/
def keyOf (inv : Inventory) (libref name : String) : DatasetKey :=
  (inv.libraryKey libref, Text.lower (Text.trimString name))

/-- Whether a library is declared. -/
def declares (inv : Inventory) (library : String) : Bool := (inv.directories.lookup library).isSome

/-- Puts a data set under a key. -/
def put (inv : Inventory) (k : DatasetKey) (ds : Dataset) : Inventory :=
  { inv with datasets := inv.datasets.insert k ds }

/-- Puts a data set under a key and makes it current. -/
def store (inv : Inventory) (k : DatasetKey) (ds : Dataset) : Inventory :=
  { inv.put k ds with current := some k }

/-- The data set that a file describes. -/
def read (inv : Inventory) (name path : String) : Except LibraryError Dataset :=
  match inv.files.read? path with
  | none => .error (.unreadableFile path)
  | some text => Delimited.read name text inv.delimiter path

/-- The data set of the file of a name in the directory of a library, if there is one. -/
def file? (inv : Inventory) (library name : String) : Except LibraryError (Option Dataset) :=
  match inv.directories.lookup library with
  | some (some directory) =>
    let path := FileTree.join directory (Text.trimString name ++ ".csv")
    if inv.files.isFile path then (inv.read name path).map some else .ok none
  | _ => .ok none

/-- Where the data set of a name is found: in memory, or else on file. -/
def find (inv : Inventory) (libref name : String) : Except LibraryError Found :=
  if inv.declares (inv.libraryKey libref) then
    match inv.datasets.lookup (inv.keyOf libref name) with
    | some ds => .ok (.inMemory ds)
    | none => (inv.file? (inv.libraryKey libref) name).map fun
      | some ds => .onFile ds
      | none => .nowhere
  else .error (.unknownLibrary libref)

/-! ## Calls on inventories -/

/-- The data set of a name; one that is on file is stored. -/
def fetch (inv : Inventory) (libref name : String) : Except LibraryError Dataset × Inventory :=
  match inv.find libref name with
  | .error e => (.error e, inv)
  | .ok .nowhere => (.error (.datasetNotFound (inv.libraryKey libref) name), inv)
  | .ok (.inMemory ds) => (.ok ds, inv)
  | .ok (.onFile ds) => (.ok ds, inv.store (inv.keyOf libref name) ds)

/-- Changes the data set of a name; one that is on file is stored. -/
def update (inv : Inventory) (libref name : String) (f : Dataset → Dataset) :
    Except LibraryError Dataset × Inventory :=
  match inv.find libref name with
  | .error e => (.error e, inv)
  | .ok .nowhere => (.error (.datasetNotFound (inv.libraryKey libref) name), inv)
  | .ok (.inMemory ds) => (.ok (f ds), inv.put (inv.keyOf libref name) (f ds))
  | .ok (.onFile ds) => (.ok (f ds), inv.store (inv.keyOf libref name) (f ds))

/-- Selects the data set of a name, a new one if there is none, and changes it. -/
def create (inv : Inventory) (libref name : String) (f : Dataset → Dataset) :
    Except LibraryError Dataset × Inventory :=
  match inv.find libref name with
  | .error e => (.error e, inv)
  | .ok found =>
    let ds := f (found.dataset?.getD (.new (Text.trimString name)))
    (.ok ds, inv.store (inv.keyOf libref name) ds)

/-- Stores a data set under its own name. -/
def insert (inv : Inventory) (libref : String) (ds : Dataset) : Except LibraryError Inventory :=
  if inv.declares (inv.libraryKey libref) then .ok (inv.store (inv.keyOf libref ds.name) ds)
  else .error (.unknownLibrary libref)

/-- Takes a data set out; if it is the current one, none is. -/
def remove (inv : Inventory) (libref name : String) : Option Dataset × Inventory :=
  let k := inv.keyOf libref name
  (inv.datasets.lookup k,
    { inv with
      datasets := inv.datasets.erase k
      current := if inv.current = some k then none else inv.current })

/-- Declares a library with a directory. -/
def assign (inv : Inventory) (libref path : String) : Inventory :=
  { inv with directories := inv.directories.insert (inv.libraryKey libref) (some path) }

/-- Stores the data set that a file describes; answers the number of rows. -/
def load (inv : Inventory) (libref name path : String) : Except LibraryError (Nat × Inventory) := do
  let ds ← inv.read name path
  let inv ← inv.insert libref ds
  return (ds.size, inv)

end Inventory

/-- What a call does to an inventory. -/
def Call.apply : Call → Inventory → Answer × Inventory
  | create libref name edit, inv =>
    let (r, inv) := inv.create libref name edit.change
    (.dataset r, inv)
  | fetch libref name, inv =>
    let (r, inv) := inv.fetch libref name
    (.dataset r, inv)
  | update libref name edit, inv =>
    let (r, inv) := inv.update libref name edit.change
    (.dataset r, inv)
  | insert libref ds, inv =>
    match inv.insert libref ds with
    | .error e => (.stored (.error e), inv)
    | .ok inv => (.stored (.ok ()), inv)
  | remove libref name, inv =>
    let (found, inv) := inv.remove libref name
    (.removed found, inv)
  | assign libref path, inv => (.done, inv.assign libref path)
  | load libref name path, inv =>
    match inv.load libref name path with
    | .error e => (.loaded (.error e), inv)
    | .ok (count, inv) => (.loaded (.ok count), inv)
  | replaceFiles files, inv => (.done, { inv with files })

/-- The key that a call makes current. -/
def Call.selected? : Call → Inventory → Option DatasetKey
  | create libref name _, inv =>
    match inv.find libref name with
    | .ok _ => some (inv.keyOf libref name)
    | .error _ => none
  | fetch libref name, inv | update libref name _, inv =>
    match inv.find libref name with
    | .ok (.onFile _) => some (inv.keyOf libref name)
    | _ => none
  | insert libref ds, inv =>
    match inv.insert libref ds with
    | .ok _ => some (inv.keyOf libref ds.name)
    | .error _ => none
  | load libref name path, inv =>
    match inv.load libref name path with
    | .ok _ => some (inv.keyOf libref name)
    | .error _ => none
  | remove _ _, _ | assign _ _, _ | replaceFiles _, _ => none

namespace Inventory

variable {inv : Inventory} {libref name path : String} {k : DatasetKey} {ds : Dataset}
  {found : Found} {f : Dataset → Dataset}

/-! ## What is found -/

theorem exists_of_map_eq_ok {ε α β : Type} {g : α → β} {x : Except ε α} {b : β}
    (h : x.map g = .ok b) : ∃ a, x = .ok a ∧ g a = b := by
  cases x with
  | error e => cases h
  | ok a => exact ⟨a, rfl, Except.ok.inj h⟩

theorem name_of_read (h : inv.read name path = .ok ds) : ds.name = name := by
  unfold read at h
  split at h
  · cases h
  · exact (Delimited.represented_read h).1

theorem name_of_file? {library : String} (h : inv.file? library name = .ok (some ds)) :
    ds.name = name := by
  unfold file? at h
  split at h
  · dsimp only at h
    split at h
    · obtain ⟨stored, hstored, heq⟩ := exists_of_map_eq_ok h
      exact Option.some.inj heq ▸ name_of_read hstored
    · cases h
  · cases h

theorem declares_of_find (h : inv.find libref name = .ok found) :
    inv.declares (inv.libraryKey libref) = true := by
  unfold find at h
  split at h
  · assumption
  · cases h

/-- What a load reads bears the name and is stored like any other data set. -/
theorem exists_of_load {count : Nat} {inv' : Inventory}
    (h : inv.load libref name path = .ok (count, inv')) :
    ∃ ds, ds.name = name ∧ inv.insert libref ds = .ok inv' := by
  unfold load at h
  cases hread : inv.read name path with
  | error e => rw [hread] at h; cases h
  | ok ds =>
    cases hinsert : inv.insert libref ds with
    | error e => simp [hread, hinsert, bind, Except.bind] at h
    | ok stored =>
      simp only [hread, hinsert, bind, Except.bind, pure, Except.pure, Except.ok.injEq,
        Prod.mk.injEq] at h
      exact ⟨ds, name_of_read hread, h.2 ▸ hinsert⟩

/-- What is found in memory lies under the keys of the name. -/
theorem lookup_of_find (h : inv.find libref name = .ok (.inMemory ds)) :
    inv.datasets.lookup (inv.keyOf libref name) = some ds := by
  unfold find at h
  split at h
  · split at h
    · rename_i stored hstored
      cases h
      exact hstored
    · obtain ⟨file, -, heq⟩ := exists_of_map_eq_ok h
      cases file <;> cases heq
  · cases h

/-- What is found on file bears the name. -/
theorem name_of_find (h : inv.find libref name = .ok (.onFile ds)) : ds.name = name := by
  unfold find at h
  split at h
  · split at h
    · cases h
    · obtain ⟨file, hfile, heq⟩ := exists_of_map_eq_ok h
      cases file with
      | none => cases heq
      | some stored =>
        cases heq
        exact name_of_file? hfile
  · cases h

/-! ## The invariant -/

/-- The default library is its own reference and is declared, every data set lies under the key of
its own name in a declared library, and the current key has a data set. -/
structure Sound (inv : Inventory) : Prop where
  default_own : Text.upper (Text.trimString inv.defaultLibrary) = inv.defaultLibrary
  default_declared : inv.declares inv.defaultLibrary = true
  own_name : ∀ k ds, inv.datasets.lookup k = some ds → k.2 = Text.lower (Text.trimString ds.name)
  declared : ∀ k ds, inv.datasets.lookup k = some ds → inv.declares k.1 = true
  current_present : ∀ k, inv.current = some k → (inv.datasets.lookup k).isSome

@[simp] theorem put_put (a b : Dataset) : (inv.put k a).put k b = inv.put k b := by
  rw [put, put, Finmap.insert_insert]
  rfl

/-- A stored data set that is put anew stays current. -/
theorem put_store (a b : Dataset) : (inv.store k a).put k b = inv.store k b := by
  have hdatasets : ((inv.put k a).put k b).datasets = (inv.put k b).datasets :=
    congrArg Inventory.datasets (put_put a b)
  rw [store, store, put]
  exact congrArg (fun datasets => { inv.put k b with datasets, current := some k }) hdatasets

theorem put_of_lookup (h : inv.datasets.lookup k = some ds) : inv.put k ds = inv := by
  have hdatasets : inv.datasets.insert k ds = inv.datasets := by
    apply Finmap.ext_lookup
    intro k'
    by_cases hk : k' = k
    · rw [hk, Finmap.lookup_insert, h]
    · rw [Finmap.lookup_insert_of_ne _ hk]
  rw [put, hdatasets]

theorem trimString_trimString (s : String) :
    Text.trimString (Text.trimString s) = Text.trimString s := by
  rw [Text.trimString, Text.trimString, String.toList_ofList,
    Text.trim_eq_self_iff.2 (Text.trimmed_trim s.toList)]

/-- A key of a library is its own reference. -/
theorem libraryKey_libraryKey
    (h : Text.upper (Text.trimString inv.defaultLibrary) = inv.defaultLibrary) (libref : String) :
    inv.libraryKey (inv.libraryKey libref) = inv.libraryKey libref := by
  cases hblank : Text.isBlankString libref with
  | true =>
    rw [libraryKey, libraryKey, if_pos hblank, h]
    exact ite_self _
  | false =>
    have hkey : inv.libraryKey libref = Text.upper (Text.trimString libref) := by
      rw [libraryKey, if_neg (by simp [hblank])]
    have htrimmed : Text.Trimmed (Text.upper (Text.trimString libref)).toList := by
      apply Text.trimmed_upper
      rw [Text.trimString, String.toList_ofList]
      exact Text.trimmed_trim _
    have hnot : ¬ Text.isBlankString (Text.upper (Text.trimString libref)) = true := by
      intro hupper
      have hnil := Text.eq_nil_of_allBlank htrimmed hupper
      rw [Text.upper_eq_nil_iff, Text.trimString, String.toList_ofList,
        Text.trim_eq_nil_iff] at hnil
      rw [Text.isBlankString, hnil] at hblank
      cases hblank
    rw [hkey, libraryKey, if_neg hnot, Text.trimString, Text.trim_eq_self_iff.2 htrimmed,
      String.ofList_toList, Text.upper_upper]

theorem lookup_put (k' : DatasetKey) :
    (inv.put k ds).datasets.lookup k' = if k' = k then some ds else inv.datasets.lookup k' := by
  by_cases h : k' = k
  · subst h
    simp [put, Finmap.lookup_insert]
  · simp [put, Finmap.lookup_insert_of_ne _ h, h]

theorem lookup_remove (k : DatasetKey) : (inv.remove libref name).2.datasets.lookup k =
    if k = inv.keyOf libref name then none else inv.datasets.lookup k := by
  by_cases h : k = inv.keyOf libref name
  · rw [if_pos h, h, remove, Finmap.lookup_erase]
  · rw [if_neg h, remove, Finmap.lookup_erase_ne h]

theorem lookup_of_lookup_remove (h : (inv.remove libref name).2.datasets.lookup k = some ds) :
    inv.datasets.lookup k = some ds := by
  rw [lookup_remove] at h
  split at h
  · cases h
  · exact h

namespace Sound

/-- The inventory of a new catalog is sound if no blanks stand around the name of the default
library. -/
protected theorem new {config : Config}
    (h : Text.trimString config.defaultLibrary = config.defaultLibrary)
    (files : FileTree) : (Inventory.new config files).Sound where
  default_own := by
    have htrimmed : Text.Trimmed config.defaultLibrary.toList := by
      rw [← h, Text.trimString, String.toList_ofList]
      exact Text.trimmed_trim _
    change Text.upper (Text.trimString (Text.upper config.defaultLibrary)) =
        Text.upper config.defaultLibrary
    rw [Text.trimString, Text.trim_eq_self_iff.2 (Text.trimmed_upper htrimmed),
      String.ofList_toList, Text.upper_upper]
  default_declared := by simp [Inventory.new, declares, Finmap.lookup_singleton_eq]
  own_name k ds h := by simp [Inventory.new] at h
  declared k ds h := by simp [Inventory.new] at h
  current_present k h := by cases h

variable (h : inv.Sound)

include h

theorem put (hdeclared : inv.declares k.1 = true)
    (hname : k.2 = Text.lower (Text.trimString ds.name)) :
    (inv.put k ds).Sound where
  default_own := h.default_own
  default_declared := h.default_declared
  own_name k' other hlookup := by
    rw [lookup_put] at hlookup
    split at hlookup
    · rename_i heq
      cases hlookup
      exact heq ▸ hname
    · exact h.own_name k' other hlookup
  declared k' other hlookup := by
    rw [lookup_put] at hlookup
    split at hlookup
    · rename_i heq
      exact heq ▸ hdeclared
    · exact h.declared k' other hlookup
  current_present k' hcurrent := by
    rw [lookup_put]
    split
    · rfl
    · exact h.current_present k' hcurrent

theorem store (hdeclared : inv.declares k.1 = true)
    (hname : k.2 = Text.lower (Text.trimString ds.name)) : (inv.store k ds).Sound :=
  { h.put hdeclared hname with
    current_present := by
      intro k' hcurrent
      cases hcurrent
      rw [Inventory.store, lookup_put, if_pos rfl]
      rfl }

/-- What is found under a name has the key of the name. -/
theorem name_found (hfind : inv.find libref name = .ok found) (hds : found.dataset? = some ds) :
    (inv.keyOf libref name).2 = Text.lower (Text.trimString ds.name) := by
  cases found with
  | inMemory stored =>
    cases hds
    exact h.own_name _ _ (lookup_of_find hfind)
  | onFile stored =>
    cases hds
    rw [name_of_find hfind, keyOf]
  | nowhere => cases hds

theorem remove : (inv.remove libref name).2.Sound where
  default_own := h.default_own
  default_declared := h.default_declared
  own_name k ds hlookup := h.own_name k ds (lookup_of_lookup_remove hlookup)
  declared k ds hlookup := h.declared k ds (lookup_of_lookup_remove hlookup)
  current_present k hcurrent := by
    rw [Inventory.remove] at hcurrent
    dsimp only at hcurrent
    split at hcurrent
    · cases hcurrent
    · rename_i hother
      have hk : k ≠ inv.keyOf libref name := fun heq => hother (heq ▸ hcurrent)
      rw [lookup_remove, if_neg hk]
      exact h.current_present k hcurrent

end Sound

/-- A library that gets a directory is declared, and the others are as before. -/
theorem declares_assign (library : String) : (inv.assign libref path).declares library =
    (decide (library = inv.libraryKey libref) || inv.declares library) := by
  rw [declares, declares, assign]
  by_cases h : library = inv.libraryKey libref
  · rw [h, Finmap.lookup_insert]
    simp
  · rw [Finmap.lookup_insert_of_ne _ h]
    simp [h]

theorem Sound.assign (h : inv.Sound) : (inv.assign libref path).Sound where
  default_own := h.default_own
  default_declared := by
    have hdefault := h.default_declared
    rw [declares_assign, Bool.or_eq_true]
    exact .inr hdefault
  own_name := h.own_name
  declared k ds hlookup := by
    rw [declares_assign, Bool.or_eq_true]
    exact .inr (h.declared k ds hlookup)
  current_present := h.current_present

/-! ## What calls do -/

/-- What a call can do to an inventory, with the key that it makes current. -/
inductive Effect (inv : Inventory) : Call → Option DatasetKey → Inventory → Prop where
  | nothing {call : Call} : Effect inv call none inv
  | stores {call : Call} {k : DatasetKey} {ds : Dataset} (hdeclared : inv.declares k.1 = true)
      (hname : k.2 = Text.lower (Text.trimString ds.name)) :
      Effect inv call (some k) (inv.store k ds)
  /-- A data set in memory is edited. -/
  | puts {call : Call} {k : DatasetKey} {ds : Dataset} (hdeclared : inv.declares k.1 = true)
      (hname : k.2 = Text.lower (Text.trimString ds.name)) : Effect inv call none (inv.put k ds)
  | removes (libref name : String) :
      Effect inv (.remove libref name) none (inv.remove libref name).2
  | assigns (libref path : String) : Effect inv (.assign libref path) none (inv.assign libref path)
  | replacesFiles (files : FileTree) : Effect inv (.replaceFiles files) none { inv with files }

/-- What is found under a name, or else a new data set, has the key of the name. -/
theorem Sound.name_created (h : inv.Sound) (hfind : inv.find libref name = .ok found) :
    (inv.keyOf libref name).2 =
      Text.lower (Text.trimString (found.dataset?.getD (.new (Text.trimString name))).name) := by
  cases hds : found.dataset? with
  | some ds => exact h.name_found hfind hds
  | none => rw [Option.getD_none, Dataset.new, trimString_trimString, keyOf]

theorem effect_of_insert {call : Call} {inv' : Inventory}
    (hinsert : inv.insert libref ds = .ok inv') :
    Effect inv call (some (inv.keyOf libref ds.name)) inv' := by
  unfold insert at hinsert
  split at hinsert
  · rename_i hdeclared
    cases hinsert
    exact .stores hdeclared rfl
  · cases hinsert

/-- **What every call does to a sound inventory.** -/
theorem Sound.effect (h : inv.Sound) (call : Call) :
    Effect inv call (call.selected? inv) (call.apply inv).2 := by
  cases call with
  | create libref name edit =>
    change Effect inv _ _ (inv.create libref name edit.change).2
    rw [Call.selected?, create]
    cases hfind : inv.find libref name with
    | error e => exact .nothing
    | ok found =>
      exact .stores (declares_of_find hfind) ((edit.name_change _).symm ▸ h.name_created hfind)
  | fetch libref name =>
    change Effect inv _ _ (inv.fetch libref name).2
    rw [Call.selected?, fetch]
    cases hfind : inv.find libref name with
    | error e => exact .nothing
    | ok found =>
      cases found with
      | nowhere => exact .nothing
      | inMemory ds => exact .nothing
      | onFile ds => exact .stores (declares_of_find hfind) (h.name_found hfind rfl)
  | update libref name edit =>
    change Effect inv _ _ (inv.update libref name edit.change).2
    rw [Call.selected?, update]
    cases hfind : inv.find libref name with
    | error e => exact .nothing
    | ok found =>
      have hname : ∀ ds, found.dataset? = some ds →
          (inv.keyOf libref name).2 = Text.lower (Text.trimString (edit.change ds).name) :=
        fun ds hds => (edit.name_change ds).symm ▸ h.name_found hfind hds
      cases found with
      | nowhere => exact .nothing
      | inMemory ds => exact .puts (declares_of_find hfind) (hname ds rfl)
      | onFile ds => exact .stores (declares_of_find hfind) (hname ds rfl)
  | insert libref ds =>
    rw [Call.selected?, Call.apply]
    cases hinsert : inv.insert libref ds with
    | error e => exact .nothing
    | ok stored => exact effect_of_insert hinsert
  | remove libref name => exact .removes libref name
  | assign libref path => exact .assigns libref path
  | load libref name path =>
    rw [Call.selected?, Call.apply]
    cases hload : inv.load libref name path with
    | error e => exact .nothing
    | ok result =>
      obtain ⟨count, stored⟩ := result
      obtain ⟨ds, rfl, hinsert⟩ := exists_of_load hload
      exact effect_of_insert hinsert
  | replaceFiles files => exact .replacesFiles files

namespace Effect

variable {call : Call} {selected : Option DatasetKey} {inv' : Inventory}

theorem sound (e : Effect inv call selected inv') (h : inv.Sound) : inv'.Sound := by
  cases e with
  | nothing => exact h
  | stores hdeclared hname => exact h.store hdeclared hname
  | puts hdeclared hname => exact h.put hdeclared hname
  | removes libref name => exact h.remove
  | assigns libref path => exact h.assign
  | replacesFiles files => exact { h with }

theorem defaultLibrary_eq (e : Effect inv call selected inv') :
    inv'.defaultLibrary = inv.defaultLibrary := by
  cases e <;> rfl

/-- **No call takes the declaration of a library back.** -/
theorem declares (e : Effect inv call selected inv') {library : String}
    (h : inv.declares library = true) : inv'.declares library = true := by
  cases e with
  | nothing | stores | puts | removes | replacesFiles => exact h
  | assigns libref path => rw [declares_assign, h, Bool.or_true]

/-- What a call selects is current behind it. -/
theorem current_eq (e : Effect inv call (some k) inv') : inv'.current = some k := by
  cases e
  rfl

/-- A call that selects nothing leaves the current data set, or takes it out. -/
theorem current_cases (e : Effect inv call none inv') : inv'.current = inv.current ∨
    ∃ libref name, call = .remove libref name ∧ inv.current = some (inv.keyOf libref name) := by
  cases e with
  | nothing | puts | assigns | replacesFiles => exact .inl rfl
  | removes libref name =>
    by_cases hcurrent : inv.current = some (inv.keyOf libref name)
    · exact .inr ⟨libref, name, rfl, hcurrent⟩
    · exact .inl (if_neg hcurrent)

end Effect

/-! ## What runs of calls do -/

section Runs

variable (h : inv.Sound)

include h

/-- **Calls keep an inventory sound.** -/
theorem Sound.after (calls : List Call) : (Call.after Call.apply calls inv).Sound := by
  induction calls generalizing inv with
  | nil => exact h
  | cons call calls ih => exact ih ((h.effect call).sound h)

theorem Sound.defaultLibrary_after (calls : List Call) :
    (Call.after Call.apply calls inv).defaultLibrary = inv.defaultLibrary := by
  induction calls generalizing inv with
  | nil => rfl
  | cons call calls ih =>
    exact (ih ((h.effect call).sound h)).trans (h.effect call).defaultLibrary_eq

theorem Sound.declares_after {library : String} (hdeclared : inv.declares library = true)
    (calls : List Call) : (Call.after Call.apply calls inv).declares library = true := by
  induction calls generalizing inv with
  | nil => exact hdeclared
  | cons call calls ih => exact ih ((h.effect call).sound h) ((h.effect call).declares hdeclared)

end Runs

/-- No call has selected a data set since the start or since the current one was removed. -/
def Lapsed (calls : List Call) (inv : Inventory) : Prop :=
  ∃ before since, calls = before ++ since ∧
    (before = [] ∨ ∃ earlier libref name, before = earlier ++ [.remove libref name] ∧
      (Call.after Call.apply earlier inv).current =
        some ((Call.after Call.apply earlier inv).keyOf libref name)) ∧
    ∀ sofar call rest, since = sofar ++ call :: rest →
      call.selected? (Call.after Call.apply (before ++ sofar) inv) = none

/-- **Where nothing is current, nothing was selected since the start or since the current
data set was removed.** -/
theorem Sound.lapsed_of_current_eq_none (hsound : inv.Sound) {calls : List Call}
    (h : (Call.after Call.apply calls inv).current = none) : Lapsed calls inv := by
  induction calls using List.reverseRecOn with
  | nil => exact ⟨[], [], rfl, .inl rfl, fun sofar call rest hsplit => by simp at hsplit⟩
  | append_singleton calls call ih =>
    rw [Call.after_concat] at h
    have heffect := (hsound.after calls).effect call
    cases hselected : call.selected? (Call.after Call.apply calls inv) with
    | some k =>
      rw [hselected] at heffect
      rw [heffect.current_eq] at h
      cases h
    | none =>
      rw [hselected] at heffect
      rcases heffect.current_cases with hstays | ⟨libref, name, rfl, hcurrent⟩
      · -- the last call is one more that selected nothing
        obtain ⟨before, since, rfl, hbefore, hsince⟩ := ih (hstays ▸ h)
        refine ⟨before, since ++ [call], by rw [List.append_assoc], hbefore, ?_⟩
        intro sofar other rest hsplit
        rcases List.eq_nil_or_concat rest with rfl | ⟨rest, last, rfl⟩
        · obtain ⟨rfl, hlast⟩ := List.append_inj' hsplit rfl
          cases hlast
          exact hselected
        · rw [List.concat_eq_append, ← List.cons_append, ← List.append_assoc] at hsplit
          obtain ⟨rfl, -⟩ := List.append_inj' hsplit rfl
          exact hsince sofar other rest rfl
      · -- the last call removed the current data set
        refine ⟨calls ++ [.remove libref name], [], by rw [List.append_nil], ?_, ?_⟩
        · exact .inr ⟨calls, libref, name, rfl, hcurrent⟩
        · intro sofar other rest hsplit
          simp at hsplit

end Inventory

end DataStep
