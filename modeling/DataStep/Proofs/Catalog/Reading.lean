import DataStep.Proofs.Merge.Participants

/-!
# Data sets that are read on demand

A data set that is asked for and not in memory is read from the directory of its library, stored
under its keys and made current. Beside that nothing in the catalog changes (`OnlyReads`), with one
exception: what is read is stored by the key of the library, which is read as a reference once more.
A library that is not found under its own key therefore loses the data set to another library, where
it replaces what has its name. Main statement: asking for a data set reads at most this data set
exactly if nothing changes or its library has its own key (`onlyReads_fetch_iff`).
-/

set_option autoImplicit false

namespace DataStep

namespace Catalog

variable {cat cat' : Catalog} {m : String × String}

/-- The library that a name leads to is found under its own key. The default library is not, if
there are blanks around its name. -/
def OwnKey (cat : Catalog) (m : String × String) : Prop :=
  cat.libraryKey (cat.libraryKey m.1) = cat.libraryKey m.1

instance (cat : Catalog) (m : String × String) : Decidable (cat.OwnKey m) :=
  inferInstanceAs (Decidable (_ = _))

/-- At most the data set of a name was read. The data sets in memory are as they were, and nothing
changed unless the named data set was not in memory; then it is what the directory of its library
holds, stored and selected under its keys. -/
structure OnlyReads (named? : Option (String × String)) (cat cat' : Catalog) : Prop where
  untouched : ∀ k ds, cat.at? k = some ds → cat'.at? k = some ds
  reads : cat' = cat ∨ ∃ m ds, named? = some m ∧ cat.at? (cat.keysOf m) = none ∧
    cat.stored? (cat.libraryKey m.1) m.2 = .ok (some ds) ∧
    cat' = (cat.putNamed m.1 m.2 ds).select (cat.keysOf m).1 (cat.keysOf m).2

namespace OnlyReads

protected theorem refl (named? : Option (String × String)) (cat : Catalog) :
    OnlyReads named? cat cat :=
  ⟨fun _ _ h => h, .inl rfl⟩

/-- What a directory holds is stored beside the data sets in memory. -/
theorem of_stored? {ds : Dataset} (hnone : cat.at? (cat.keysOf m) = none)
    (hstored : cat.stored? (cat.libraryKey m.1) m.2 = .ok (some ds)) :
    OnlyReads (some m) cat
      ((cat.putNamed m.1 m.2 ds).select (cat.keysOf m).1 (cat.keysOf m).2) where
  untouched k old hold := by
    have hne : k ≠ cat.keysOf m := by
      rintro rfl
      rw [hnone] at hold
      cases hold
    exact (at?_putNamed_of_ne hne).trans hold
  reads := .inr ⟨m, ds, rfl, hnone, hstored, rfl⟩

end OnlyReads

/-- **Asking for a data set reads at most this data set, unless its library is not found under its
own key and something was read.** -/
theorem onlyReads_fetch_iff (cat : Catalog) (m : String × String) :
    cat.OnlyReads (some m) (cat.fetch m.1 m.2).2 ↔ (cat.fetch m.1 m.2).2 = cat ∨ cat.OwnKey m := by
  rcases cat.fetch_snd m.1 m.2 with hsame | ⟨ds, hstored, hinsert⟩
  · rw [hsame]
    exact ⟨fun _ => .inl rfl, fun _ => .refl _ cat⟩
  · constructor
    · rintro ⟨-, hsame | ⟨named, found, hnamed, -, -, hcat⟩⟩
      · exact .inl hsame
      · -- the data set that is current afterwards tells where it was stored
        cases hnamed
        rw [(insert_eq_ok_iff.1 hinsert).2] at hcat
        have hcurrent := congrArg Catalog.current hcat
        exact .inr (Prod.mk.inj (Option.some.inj hcurrent)).1
    · rintro (hsame | hown)
      · rw [hsame]
        exact .refl _ cat
      · cases hnamed : cat.named? m.1 m.2 with
        | some found =>
          rw [fetch_of_named? hnamed]
          exact .refl _ cat
        | none =>
          rw [insert_of_stored? hstored hown] at hinsert
          rw [← Except.ok.inj hinsert]
          exact .of_stored? hnamed hstored

end Catalog

namespace Session

variable {α : Type} {s : Session} {k : String × String} {columns : List String}

/-! ## Runs that fail -/

/-- The columns of a data set in memory at the end of a run that fails. -/
def columnsAfterFailure (k : String × String) : Except RunError α × Session → Option (List String)
  | (.ok _, _) => none
  | (.error _, t) => (t.catalog.at? k).map (·.columns)

theorem exists_failure {act : SessionM α}
    (h : (act.start s).toOption.bind (columnsAfterFailure k) = some columns) :
    ∃ e t, act.start s = .ok (.error e, t) ∧ (t.catalog.at? k).map (·.columns) = some columns := by
  obtain ⟨r, t, hrun, hcolumns⟩ := Run.exists_start_eq_ok h
  cases r with
  | ok => cases hcolumns
  | error e => exact ⟨e, t, hrun, hcolumns⟩

/-- A session whose default library has blanks around its name and a directory with a data set `b`.
The library without the blanks has a data set `b` as well, which is in memory. -/
def blanksAroundDefault : Session :=
  let s := new { Config.standard with defaultLibrary := " w " } (.ofList [("d/b.csv", "id\n7\n")]) 0
  s.mapCatalog fun cat => ((cat.assign "" "d").assign "w" "e").putNamed "w" "b"
    (.ofRows "b" [.ofList [("id", .number (.ofNat 1)), ("y", .number (.ofNat 2))]])

end Session

end DataStep
