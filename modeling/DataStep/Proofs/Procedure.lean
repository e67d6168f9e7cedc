import DataStep.Proofs.Catalog.Reading
import DataStep.Proofs.Frame
import DataStep.Proofs.Sort.Procedure

/-!
# What procedures leave of the catalog

A procedure asks for one data set, its input. A sort that succeeds stores its target; all other
ends of a procedure leave the data sets as they are, however far a sort came. What they may change
is what asking for the input changes: a data set that is not in memory is read from the directory
of its library. Then the catalog is as before but for this data set, which is in memory and
current (`Catalog.OnlyReads`).

Main statement: this holds of every procedure that stores nothing, unless the input is read from a
library that is not found under its own key (`procedure_onlyReads_iff`). There the data set that is
read is stored in another library, over a data set that was not asked for
(`not_onlyReads_blanks_around_default`).
-/

set_option autoImplicit false

namespace DataStep

open Run (Keeps)

/-- The name of the data set that a procedure reads. -/
def Procedure.source? : Procedure → Option String
  | .sort p => some p.input
  | .means dataset _ => some dataset
  | .print dataset _ _ _ => some dataset
  | .other _ => none

/-- Whether a procedure that ends with a result has stored a data set: a sort that succeeds has. -/
def Procedure.Stores (r : Except RunError Unit) : Procedure → Prop
  | .sort _ => r = .ok ()
  | _ => False

namespace Session

variable {p : Procedure} {s t : Session} {r : Except RunError Unit}

/-! ## The catalog after a procedure -/

/-- Wherever a run ends with a result, it leaves the catalog as it was. -/
def LeavesCatalog (r : Except RunError Unit) (act : SessionM Unit) : Prop :=
  ∀ ⦃s t : Session⦄, act.start s = .ok (r, t) → t.catalog = s.catalog

namespace LeavesCatalog

theorem of_keeps {act : SessionM Unit} (h : Keeps Session.catalog act) : LeavesCatalog r act :=
  fun _ _ hs => h hs

theorem bind {α : Type} {act : SessionM α} {next : α → SessionM Unit}
    (hact : Keeps Session.catalog act)
    (hnext : ∀ a, LeavesCatalog r (next a)) : LeavesCatalog r (act >>= next) := by
  intro s t h
  rcases Run.start_bind_eq_ok.1 h with ⟨_, hfails, -⟩ | ⟨a, u, hok, hrest⟩
  · exact hact hfails
  · exact (hnext a hrest).trans (hact hok)

end LeavesCatalog

theorem keeps_catalog_note (message : String) : Keeps Session.catalog (note message) :=
  Keeps.modify fun _ => rfl

theorem keeps_catalog_writeListing (lines : List String) :
    Keeps Session.catalog (writeListing lines) :=
  Keeps.modify fun _ => rfl

/-- A library that is not declared is found out before anything is stored. -/
theorem leavesCatalog_storeSorted (e : RunError) (q : SortProc)
    (source : Dataset) (selected : List Row) :
    LeavesCatalog (.error e) (storeSorted q source selected) := by
  intro s t h
  rw [storeSorted, Run.start_bind_of_ok (splitName_start q.target s)] at h
  generalize s.config.splitName q.target = named at h
  obtain ⟨libref, name⟩ := named
  rcases Run.start_bind_eq_ok.1 h with ⟨_, hfails, -⟩ | ⟨_, _, -, hnote⟩
  · rw [onCatalog, Run.start_bind_of_ok (onCatalog?_start _ s)] at hfails
    cases hinsert : s.catalog.insert libref (q.result selected name source) with
    | ok cat => rw [hinsert] at hfails; cases hfails
    | error e =>
      rw [hinsert] at hfails
      cases hfails
      rfl
  · cases hnote

theorem leavesCatalog_finishSort (e : RunError) (q : SortProc)
    (source : Dataset) (selected : List Row) :
    LeavesCatalog (.error e) (finishSort q source selected) := by
  have hstore := leavesCatalog_storeSorted e q source selected
  unfold finishSort
  cases q.reportDuplicates <;> cases q.dropDuplicates
  · exact hstore
  · exact .bind (keeps_catalog_note _) fun _ => hstore
  · exact .bind (keeps_catalog_note _) fun _ => hstore
  · exact .bind (keeps_catalog_note _) fun _ => .bind (keeps_catalog_note _) fun _ => hstore

/-- A run that asks for a data set first and then leaves the catalog. -/
theorem catalog_of_dataset_bind {qualified : String} {next : Dataset → SessionM Unit}
    (h : (dataset qualified >>= next).start s = .ok (r, t))
    (hnext : ∀ ds, LeavesCatalog r (next ds)) :
    t.catalog =
      (s.catalog.fetch (s.config.splitName qualified).1 (s.config.splitName qualified).2).2 := by
  have hasked := dataset_start qualified s
  rcases Run.start_bind_eq_ok.1 h with ⟨e, hfails, -⟩ | ⟨ds, u, hok, hrest⟩
  · rw [hfails] at hasked
    exact congrArg Session.catalog (Prod.mk.inj (Except.ok.inj hasked)).2
  · rw [hok] at hasked
    exact (hnext ds hrest).trans (congrArg Session.catalog (Prod.mk.inj (Except.ok.inj hasked)).2)

/-- **A procedure that stores nothing leaves what asking for its input leaves.** -/
theorem catalog_procedure (h : (procedure p).start s = .ok (r, t)) (hstores : ¬ p.Stores r) :
    t.catalog = match p.source? with
      | none => s.catalog
      | some source =>
        (s.catalog.fetch (s.config.splitName source).1 (s.config.splitName source).2).2 := by
  cases p with
  | sort q =>
    cases r with
    | ok => exact absurd rfl hstores
    | error e =>
      rw [procedure, sortProc_eq] at h
      refine catalog_of_dataset_bind h fun ds => ?_
      exact .bind (keeps_onContext (fun _ _ => rfl) _) fun _ => leavesCatalog_finishSort e q ds _
  | means qualified vars =>
    refine catalog_of_dataset_bind h fun ds => .of_keeps ?_
    apply Keeps.bind Keeps.get
    intro s
    exact .bind (keeps_catalog_writeListing _) fun _ => keeps_catalog_note _
  | print qualified vars limit withoutNumbers =>
    refine catalog_of_dataset_bind h fun ds => .of_keeps ?_
    apply Keeps.bind Keeps.get
    intro s
    exact .bind (keeps_catalog_writeListing _) fun _ => keeps_catalog_note _
  | other name =>
    cases h
    rfl

/-- **A procedure that stores nothing reads at most its input.** No data set in memory changes, and
the only change to the catalog is that the input was read from the directory of its library. The
exception is an input that is read from a library which is not found under its own key. -/
theorem procedure_onlyReads_iff (h : (procedure p).start s = .ok (r, t)) (hstores : ¬ p.Stores r) :
    s.catalog.OnlyReads (p.source?.map s.config.splitName) t.catalog ↔
      t.catalog = s.catalog ∨
        ∀ source, p.source? = some source → s.catalog.OwnKey (s.config.splitName source) := by
  have hcatalog := catalog_procedure h hstores
  cases hsource : p.source? with
  | none =>
    rw [hsource] at hcatalog
    rw [hcatalog]
    exact iff_of_true (.refl _ _) (.inl rfl)
  | some source =>
    rw [hsource] at hcatalog
    rw [hcatalog, Option.map_some, Catalog.onlyReads_fetch_iff]
    simp only [Option.some.injEq, forall_eq']

/-- A new session in which the directory of a library has a data set with two rows. -/
def rowsInDirectory : Session :=
  let s := Session.new .standard (.ofList [("d/b.csv", "x\n2\n1\n")]) 0
  s.mapCatalog fun cat => cat.assign "lib" "d"

/-- Sorts these rows into a library that is not declared. -/
def sortIntoNowhere : SortProc := ⟨"lib.b", some "no.c", ["x"], some (.variable "x"), true, false⟩

/-- Control: a sort reads its input, selects and sorts its rows and fails, and
the input is in memory. -/
theorem procedure_onlyReads_iff_undeclared : ∃ e t,
    (procedure (.sort sortIntoNowhere)).start rowsInDirectory = .ok (.error e, t) ∧
      (t.catalog.at? ("LIB", "b")).map (·.columns) = some ["x"] ∧
      rowsInDirectory.catalog.OnlyReads (some ("lib", "b")) t.catalog := by
  obtain ⟨e, t, hrun, hread⟩ : ∃ e t,
      (procedure (.sort sortIntoNowhere)).start rowsInDirectory = .ok (.error e, t) ∧
        (t.catalog.at? ("LIB", "b")).map (·.columns) = some ["x"] :=
          exists_failure (by decide +kernel)
  refine ⟨e, t, hrun, hread, ?_⟩
  refine (procedure_onlyReads_iff hrun (fun hstores => by cases hstores)).2
    (.inr fun source hsource => ?_)
  cases hsource
  decide +kernel

/-- Control: the data set to be printed is read from the directory of the default library and lost
to the library without the blanks, where it replaces another data set. -/
theorem not_onlyReads_blanks_around_default :
    let print : Procedure := .print "b" [] none false
    (blanksAroundDefault.catalog.at? ("W", "b")).map (·.columns) = some ["id", "y"] ∧
      ∃ e t, (procedure print).start blanksAroundDefault = .ok (.error e, t) ∧
        (t.catalog.at? ("W", "b")).map (·.columns) = some ["id"] ∧
        ¬ blanksAroundDefault.catalog.OnlyReads (some ("", "b")) t.catalog := by
  intro print
  have hbefore : (blanksAroundDefault.catalog.at? ("W", "b")).map (·.columns) =
      some ["id", "y"] := by
    decide +kernel
  obtain ⟨e, t, hrun, hafter⟩ : ∃ e t,
      (procedure print).start blanksAroundDefault = .ok (.error e, t) ∧
      (t.catalog.at? ("W", "b")).map (·.columns) = some ["id"] := exists_failure (by decide +kernel)
  refine ⟨hbefore, e, t, hrun, hafter, fun honly => ?_⟩
  -- the data set in memory would have its columns still
  obtain ⟨ds, hds, hcolumns⟩ := Option.map_eq_some_iff.1 hbefore
  rw [honly.untouched _ _ hds, Option.map_some, hcolumns] at hafter
  exact absurd hafter (by decide)

end Session

end DataStep
