import DataStep.Proofs.Catalog.Refinement

/-!
# Calls that fail

A call that fails leaves the catalog as it was, be it that a data set is not found, that its file
cannot be read or that a record of it is malformed. A look-up may read a file on its way, and what
it reads goes to the library that the key of the library refers to, so a look-up can fail after it
has stored something only if that key is not its own reference (`fetch_of_error`). No call and no
edit of a data set in memory changes the default library, so in every catalog that comes from
settings without blanks around the name of the default library each key is its own reference
(`Reachable.libraryKey_libraryKey`). Main statement: `Reachable.run_of_error`.
-/

set_option autoImplicit false

namespace DataStep

/-- The error that a call answers with, if it fails. -/
def Answer.error? : Answer → Option LibraryError
  | dataset (.error e) => some e
  | stored (.error e) => some e
  | loaded (.error e) => some e
  | _ => none

namespace Catalog

variable {config : Config} {cat cat' : Catalog} {libref name path : String} {e : LibraryError}

/-! ## The default library -/

/-- Where the default library is its own reference, the key of every library is. -/
theorem libraryKey_libraryKey
    (h : Text.upper (Text.trimString cat.defaultLibrary) = cat.defaultLibrary)
    (libref : String) : cat.libraryKey (cat.libraryKey libref) = cat.libraryKey libref :=
  let inv : Inventory := ⟨cat.defaultLibrary, cat.delimiter, cat.files, ∅, ∅, none⟩
  inv.libraryKey_libraryKey h libref

/-- What a load reads is stored like any other data set. -/
theorem exists_insert_of_load {count : Nat} (h : cat.load libref name path = .ok (count, cat')) :
    ∃ ds, cat.insert libref ds = .ok cat' := by
  unfold load at h
  cases hread : cat.files.read? path with
  | none => rw [hread] at h; cases h
  | some text =>
    cases hds : Delimited.read name text cat.delimiter path with
    | error e => simp [hread, hds, bind, Except.bind] at h
    | ok ds =>
      cases hinsert : cat.insert libref ds with
      | error e => simp [hread, hds, hinsert, bind, Except.bind] at h
      | ok stored =>
        simp only [hread, hds, hinsert, bind, Except.bind, pure, Except.pure, Except.ok.injEq,
          Prod.mk.injEq] at h
        exact ⟨ds, h.2 ▸ hinsert⟩

theorem defaultLibrary_insert {ds : Dataset} (h : cat.insert libref ds = .ok cat') :
    cat'.defaultLibrary = cat.defaultLibrary :=
  (Puts.of_insert (D := fun _ => True) h trivial).sameSources.default_eq

/-- **No call changes the default library.** -/
theorem defaultLibrary_run (call : Call) (cat : Catalog) :
    (call.run cat).2.defaultLibrary = cat.defaultLibrary := by
  have hputs : ∀ {cat' : Catalog}, cat.Puts (fun _ => True) cat' →
      cat'.defaultLibrary = cat.defaultLibrary := fun h => h.sameSources.default_eq
  cases call with
  | create libref name edit =>
    have hcreate := hputs (puts_create (fun _ _ => trivial) cat libref name)
    rw [Call.run]
    split
    · rename_i e mid hmid
      rwa [hmid] at hcreate
    · rename_i ds mid hmid
      rw [hmid] at hcreate
      rwa [putNamed, defaultLibrary_put]
  | fetch libref name => exact hputs (puts_fetch (fun _ _ => trivial) cat libref name)
  | update libref name edit =>
    have hupdate : cat.Puts (fun _ => True) (cat.update libref name edit.change).2 :=
      puts_update (fun _ _ => trivial) fun _ _ => trivial
    exact hputs hupdate
  | insert libref ds =>
    rw [Call.run]
    split
    · rfl
    · rename_i stored hinsert
      exact defaultLibrary_insert hinsert
  | remove libref name => rw [Call.run, remove_eq]
  | assign libref path => rfl
  | load libref name path =>
    rw [Call.run]
    split
    · rfl
    · rename_i count stored hload
      obtain ⟨ds, hinsert⟩ := exists_insert_of_load hload
      exact defaultLibrary_insert hinsert
  | replaceFiles files => rfl

/-- A catalog that arises from a new one by calls, whether they fail or not, and by edits of the
data sets in memory, which may change their names. -/
inductive Reachable (config : Config) : Catalog → Prop
  | new (files : FileTree) : Reachable config (new config files)
  | call {cat : Catalog} (h : Reachable config cat)
      (call : Call) : Reachable config (call.run cat).2
  | edit {cat : Catalog} (h : Reachable config cat) (l d : String) (ds : Dataset) :
    Reachable config (cat.put l d ds)

theorem Reachable.defaultLibrary_eq (h : Reachable config cat) :
    cat.defaultLibrary = Text.upper config.defaultLibrary := by
  induction h with
  | new files => rfl
  | call _ call ih => exact (defaultLibrary_run call _).trans ih
  | edit _ l d ds ih => exact defaultLibrary_put.trans ih

/-- In a catalog that comes from settings without blanks around the name of the default library, the
key of every library is its own reference. -/
theorem Reachable.libraryKey_libraryKey (h : Reachable config cat)
    (hdefault : Text.trimString config.defaultLibrary = config.defaultLibrary) (libref : String) :
    cat.libraryKey (cat.libraryKey libref) = cat.libraryKey libref := by
  apply Catalog.libraryKey_libraryKey
  rw [h.defaultLibrary_eq]
  exact (Inventory.Sound.new hdefault .empty).default_own

/-! ## Failures -/

/-- A look-up that fails stores nothing in a library whose key is its own reference. -/
theorem fetch_of_error (hown : cat.libraryKey (cat.libraryKey libref) = cat.libraryKey libref)
    (h : cat.fetch libref name = (.error e, cat')) : cat' = cat := by
  rcases fetch_snd cat libref name with hsame | ⟨ds, hstored, -⟩
  · rwa [h] at hsame
  · cases hnamed : cat.named? libref name with
    | some found =>
      rw [fetch_of_named? hnamed] at h
      cases h
    | none =>
      -- what the directory holds is found where it was stored
      rw [fetch_of_stored? hnamed hstored hown] at h
      cases h

theorem update_of_error {f : Dataset → Dataset}
    (hown : cat.libraryKey (cat.libraryKey libref) = cat.libraryKey libref)
    (h : cat.update libref name f = (.error e, cat')) : cat' = cat := by
  unfold update at h
  split at h
  · rename_i e' mid hfetch
    cases h
    exact fetch_of_error hown hfetch
  · cases h

/-- **A call that fails leaves the catalog as it was**: the libraries with their directories, all
data sets in memory and the current data set. -/
theorem Reachable.run_of_error (h : Reachable config cat)
    (hdefault : Text.trimString config.defaultLibrary = config.defaultLibrary) {call : Call}
    (hfails : (call.run cat).1.error? = some e) : (call.run cat).2 = cat := by
  have hown := h.libraryKey_libraryKey hdefault
  cases call with
  | create libref name edit =>
    rw [Call.run] at hfails ⊢
    split at hfails
    · rename_i e' mid hcreate
      exact create_of_error hcreate
    · cases hfails
  | fetch libref name =>
    rw [Call.run] at hfails ⊢
    cases hfetch : cat.fetch libref name with
    | mk r mid =>
      rw [hfetch] at hfails
      cases r with
      | error e' => exact fetch_of_error (hown libref) hfetch
      | ok ds => cases hfails
  | update libref name edit =>
    rw [Call.run] at hfails ⊢
    cases hupdate : cat.update libref name edit.change with
    | mk r mid =>
      rw [hupdate] at hfails
      cases r with
      | error e' => exact update_of_error (hown libref) hupdate
      | ok ds => cases hfails
  | insert libref ds =>
    rw [Call.run] at hfails ⊢
    split at hfails
    · rfl
    · cases hfails
  | load libref name path =>
    rw [Call.run] at hfails ⊢
    split at hfails
    · rfl
    · cases hfails
  | remove libref name => cases hfails
  | assign libref path => cases hfails
  | replaceFiles files => cases hfails

/-- Control: of two files in a directory outside the working directory, one has a record that ends
inside quotes and one cannot be read. The calls that need them leave the data set of the default
library selected. -/
theorem Reachable.run_of_error_bad_files :
    let cat := Call.after Call.run [.create "" "b" ⟨id, fun _ => rfl⟩, .assign "lib" "/d"]
      (Catalog.new .standard
        (FileTree.ofList [("/d/a.csv", "x\n1\n\"2\n"), ("/d/c.csv", none)]))
    let look : Call := .fetch "lib" "a"
    let make : Call := .create "lib" "c" ⟨id, fun _ => rfl⟩
    Reachable .standard cat ∧
      Text.trimString Config.standard.defaultLibrary = Config.standard.defaultLibrary ∧
      cat.current = some ("WORK", "b") ∧
      (look.run cat).1.error? = some (.malformedRecord "/d/a.csv" 3) ∧ (look.run cat).2 = cat ∧
      (make.run cat).1.error? = some (.unreadableFile "/d/c.csv") ∧ (make.run cat).2 = cat := by
  intro cat look make
  have hreachable : Reachable .standard cat :=
    ((Reachable.new (FileTree.ofList _)).call (.create _ _ _)).call (.assign _ _)
  have hdefault : Text.trimString Config.standard.defaultLibrary =
      Config.standard.defaultLibrary := by decide +kernel
  have hmalformed : (look.run cat).1.error? = some (.malformedRecord "/d/a.csv" 3) := by
    decide +kernel
  have hunreadable : (make.run cat).1.error? = some (.unreadableFile "/d/c.csv") := by
    decide +kernel
  exact ⟨hreachable, hdefault, by decide +kernel, hmalformed,
    hreachable.run_of_error hdefault hmalformed, hunreadable,
    hreachable.run_of_error hdefault hunreadable⟩

/-- With blanks around the name of the default library a look-up that fails may store what
it has read: the key of the library has the blanks, and as a reference it means the
library without them. -/
example :
    let cat := (((new { Config.standard with defaultLibrary := " work " }
      (FileTree.ofList [("d/a.csv", "x\n1\n")])).assign "" "d").assign "work" "d")
    (cat.fetch "" "a").1 = .error (.datasetNotFound "" "a") ∧
      (cat.fetch "" "a").2.current = some ("WORK", "a") := by
  decide +kernel

end Catalog

end DataStep
