import DataStep.Delimited

/-!
# Rows and columns of data sets

What a map made from a list of entries holds (`OrderedMap.mem_keys_ofList`,
`OrderedMap.keys_ofList`, `OrderedMap.get?_ofList_append`, `OrderedMap.entries_ofList`), what
declaring columns and adding rows do to the columns of a data set (`Dataset.foldl_declare`,
`Dataset.foldl_addRow_clear`), and the invariant of data sets: no row and no declaration names a
column twice, and every column of a row is declared (`Dataset.Represented`). Every way of building a
data set keeps it, delimited text included (`Delimited.represented_read`).
-/

set_option autoImplicit false

namespace DataStep

/-! ## Ordered maps -/

section OrderedMap

variable {α : Type}

theorem OrderedMap.nodup_keys (m : OrderedMap α) : m.keys.Nodup := m.distinct

/-- A map from a list of entries has the names of the list. -/
theorem OrderedMap.mem_keys_ofList {es : List (String × α)} {name : String} :
    name ∈ (ofList es).keys ↔ name ∈ es.map (·.1) := by
  have hfold : ∀ m : OrderedMap α, name ∈ (es.foldl (fun m e => m.insert e.1 e.2) m).keys ↔
      name ∈ m.keys ∨ name ∈ es.map (·.1) := by
    induction es with
    | nil => simp
    | cons e es ih =>
      intro m
      have hinsert : name ∈ (m.insert e.1 e.2).keys ↔ name ∈ m.keys ∨ name = e.1 := by
        rw [keys_insert]
        split
        case isTrue hmem =>
          constructor
          · exact .inl
          · rintro (h | rfl)
            · exact h
            · exact hmem
        case isFalse => simp
      simp only [List.foldl_cons, ih, hinsert, List.map_cons, List.mem_cons, or_assoc]
  exact (hfold empty).trans (by simp)

/-- An ordered map answers with what stands in it. -/
theorem OrderedMap.get?_eq_some_iff {m : OrderedMap α} {name : String} {a : α} :
    m.get? name = some a ↔ (name, a) ∈ m.entries := by
  have hentries : ∀ es : List (String × α), (Entries.keys es).Nodup →
      (Entries.find? name es = some a ↔ (name, a) ∈ es) := by
    intro es hes
    induction es with
    | nil => simp [Entries.find?]
    | cons e es ih =>
      obtain ⟨k, v⟩ := e
      rw [Entries.keys_cons, List.nodup_cons] at hes
      by_cases h : k = name
      · subst h
        -- a second entry of the name would repeat it
        have hnot : (k, a) ∉ es := fun hmem => hes.1 (List.mem_map_of_mem (f := (·.1)) hmem)
        simp [Entries.find?, hnot, eq_comm]
      · simp [Entries.find?, h, Ne.symm h, ih hes.2]
  exact hentries m.entries m.distinct

theorem Entries.insert_of_not_mem {name : String} {es : List (String × α)} (a : α)
    (h : name ∉ Entries.keys es) : Entries.insert name a es = es ++ [(name, a)] := by
  induction es with
  | nil => rfl
  | cons e es ih =>
    obtain ⟨k, v⟩ := e
    rw [Entries.keys_cons, List.mem_cons, not_or] at h
    rw [Entries.insert, if_neg (Ne.symm h.1), ih h.2]
    rfl

/-- Entries with distinct names are the entries of their map. -/
theorem OrderedMap.entries_ofList {es : List (String × α)} (h : (Entries.keys es).Nodup) :
    (OrderedMap.ofList es).entries = es := by
  have hfold : ∀ m : OrderedMap α, (Entries.keys (m.entries ++ es)).Nodup →
      (es.foldl (fun m e => m.insert e.1 e.2) m).entries = m.entries ++ es := by
    clear h
    induction es with
    | nil =>
      intro m _
      exact (List.append_nil _).symm
    | cons e es ih =>
      intro m hm
      have hnew : e.1 ∉ Entries.keys m.entries := by
        intro hmem
        rw [Entries.keys, List.map_append, List.map_cons] at hm
        exact (List.nodup_append.1 hm).2.2 e.1 hmem e.1 List.mem_cons_self rfl
      have hentries : (m.insert e.1 e.2).entries = m.entries ++ [e] :=
        Entries.insert_of_not_mem e.2 hnew
      have hm' : (Entries.keys ((m.insert e.1 e.2).entries ++ es)).Nodup := by
        rw [hentries, List.append_assoc]
        exact hm
      rw [List.foldl_cons, ih _ hm', hentries, List.append_assoc]
      rfl
  exact hfold .empty h

/-- Of the entries of a name the last one counts. -/
theorem OrderedMap.get?_ofList_append {before after : List (String × α)} {name : String} {a : α}
    (h : name ∉ after.map (·.1)) : (ofList (before ++ (name, a) :: after)).get? name = some a := by
  have hlater : ∀ m : OrderedMap α,
      (after.foldl (fun m e => m.insert e.1 e.2) m).get? name = m.get? name := by
    induction after with
    | nil => exact fun _ => rfl
    | cons e after ih =>
      intro m
      rw [List.map_cons, List.mem_cons, not_or] at h
      rw [List.foldl_cons, ih h.2, get?_insert, if_neg (Ne.symm h.1)]
  rw [ofList, List.foldl_append, List.foldl_cons, hlater, get?_insert, if_pos rfl]

end OrderedMap

namespace Dataset

/-! ## Declaring columns -/

/-- Declaring columns one after another adds those that are new, at their first appearance. -/
theorem foldl_declare (columns names : List String) : names.foldl declare columns =
    columns ++ (names.filter fun name => !columns.contains name).eraseDups := by
  induction names generalizing columns with
  | nil => simp
  | cons name names ih =>
    rw [List.foldl_cons, ih, declare]
    by_cases h : name ∈ columns
    · rw [if_pos h, List.filter_cons_of_neg (by simpa using h)]
    · have hfilter : (names.filter fun other => !(columns ++ [name]).contains other) =
          (names.filter fun other => !columns.contains other).filter fun other =>
            !other == name := by
        rw [List.filter_filter]
        refine List.filter_congr fun other _ => ?_
        by_cases ho : other = name <;> simp [ho]
      rw [if_neg h, List.filter_cons_of_pos (by simpa using h), List.eraseDups_cons, hfilter,
        List.append_assoc, List.singleton_append]

/-- The first declarations of names are the names themselves, each at its first appearance. -/
theorem foldl_declare_nil (names : List String) : names.foldl declare [] = names.eraseDups := by
  have hnew : names.filter (fun name => !([] : List String).contains name) = names :=
    List.filter_eq_self.2 fun _ _ => rfl
  rw [foldl_declare, hnew, List.nil_append]

theorem mem_declare {columns : List String} {name other : String} :
    other ∈ declare columns name ↔ other ∈ columns ∨ other = name := by
  rw [declare]
  split
  case isTrue hmem =>
    constructor
    · exact .inl
    · rintro (h | rfl)
      · exact h
      · exact hmem
  case isFalse => simp

theorem nodup_declare {columns : List String} (h : columns.Nodup) (name : String) :
    (declare columns name).Nodup := by
  rw [declare]
  split
  case isTrue => exact h
  case isFalse hmem => simpa [List.nodup_append] using ⟨h, fun a ha hne => hmem (hne ▸ ha)⟩

theorem mem_foldl_declare {columns names : List String} {name : String} :
    name ∈ names.foldl declare columns ↔ name ∈ columns ∨ name ∈ names := by
  induction names generalizing columns with
  | nil => simp
  | cons first names ih => simp only [List.foldl_cons, ih, mem_declare, List.mem_cons, or_assoc]

theorem nodup_foldl_declare {columns : List String} (h : columns.Nodup) (names : List String) :
    (names.foldl declare columns).Nodup := by
  induction names generalizing columns with
  | nil => exact h
  | cons name names ih => exact ih (nodup_declare h name)

/-- Distinct columns are all new. -/
theorem foldl_declare_of_nodup {columns names : List String} (h : (columns ++ names).Nodup) :
    names.foldl declare columns = columns ++ names := by
  induction names generalizing columns with
  | nil => exact (List.append_nil columns).symm
  | cons name names ih =>
    have hnew : name ∉ columns := fun hmem =>
      (List.nodup_append.1 h).2.2 name hmem name List.mem_cons_self rfl
    rw [List.append_cons] at h
    rw [List.foldl_cons, declare, if_neg hnew, ih h, ← List.append_cons]

/-- Declaring the columns of rows is declaring the columns that they have together. -/
theorem foldl_declare_rows (columns : List String) (rows : List Row) :
    rows.foldl (fun cs row => row.keys.foldl declare cs) columns =
      (rows.flatMap OrderedMap.keys).foldl declare columns := by
  induction rows generalizing columns with
  | nil => rfl
  | cons row rows ih => rw [List.foldl_cons, ih, List.flatMap_cons, List.foldl_append]

/-- Columns that are declared are not declared again. -/
theorem foldl_declare_of_forall_mem {columns names : List String}
    (h : ∀ name ∈ names, name ∈ columns) :
    names.foldl declare columns = columns := by
  induction names with
  | nil => rfl
  | cons name names ih =>
    rw [List.forall_mem_cons] at h
    rw [List.foldl_cons, declare, if_pos h.1, ih h.2]

/-- Rows that replace themselves declare nothing new. -/
theorem replaceRows_replaceRows (ds : Dataset) (rows : List Row) :
    (ds.replaceRows rows).replaceRows rows = ds.replaceRows rows := by
  have hcolumns : (rows.flatMap OrderedMap.keys).foldl declare (ds.replaceRows rows).columns =
      (ds.replaceRows rows).columns := by
    apply foldl_declare_of_forall_mem
    intro name hname
    rw [replaceRows, foldl_declare_rows, mem_foldl_declare]
    exact .inr hname
  rw [replaceRows, foldl_declare_rows, hcolumns]
  rfl

/-- What rows declare stands behind what is declared and is not declared already. -/
theorem exists_columns_replaceRows (ds : Dataset) (rows : List Row) :
    ∃ extra, (ds.replaceRows rows).columns = ds.columns ++ extra ∧
      ∀ name ∈ extra, name ∉ ds.columns ∧ ∃ row ∈ rows, name ∈ row.keys := by
  refine ⟨((rows.flatMap OrderedMap.keys).filter fun name => !ds.columns.contains name).eraseDups,
    (foldl_declare_rows ds.columns rows).trans (foldl_declare ds.columns _), ?_⟩
  intro name hname
  rw [List.mem_eraseDups, List.mem_filter] at hname
  exact ⟨by simpa using hname.2, List.mem_flatMap.1 hname.1⟩

/-- Adding rows to a data set that was cleared gives it these rows, with the columns in the order of
their first appearance. -/
theorem foldl_addRow_clear (ds : Dataset) (rows : List Row) : rows.foldl addRow ds.clear =
    ⟨ds.name, (rows.flatMap OrderedMap.keys).eraseDups, rows⟩ := by
  have hfold : ∀ acc : Dataset, rows.foldl addRow acc =
      ⟨acc.name, (rows.flatMap OrderedMap.keys).foldl declare acc.columns, acc.rows ++ rows⟩ := by
    induction rows with
    | nil => simp
    | cons row rows ih =>
      intro acc
      rw [List.foldl_cons, ih, List.flatMap_cons, List.foldl_append]
      simp [addRow, declareColumns]
  rw [hfold, clear, foldl_declare_nil, List.nil_append]

/-! ## The invariant of data sets -/

/-- No row and no declaration names a column twice, and every column of a row is declared. -/
structure Represented (ds : Dataset) : Prop where
  keys_nodup : ∀ row ∈ ds.rows, row.keys.Nodup
  columns_nodup : ds.columns.Nodup
  declared : ∀ row ∈ ds.rows, ∀ name ∈ row.keys, name ∈ ds.columns

namespace Represented

variable {ds : Dataset}

protected theorem new (name : String) : (Dataset.new name).Represented := by
  constructor <;> simp [Dataset.new]

protected theorem clear (ds : Dataset) : ds.clear.Represented := by
  constructor <;> simp [Dataset.clear]

/-- Rows in another order are represented as before. -/
theorem sorted (h : ds.Represented) (vars : List String) :
    ({ ds with rows := Row.sortBy vars ds.rows } : Dataset).Represented := by
  have hmem : ∀ row, row ∈ Row.sortBy vars ds.rows ↔ row ∈ ds.rows :=
    fun row => (List.mergeSort_perm ds.rows _).mem_iff
  exact
    { keys_nodup := fun row hrow => h.keys_nodup row ((hmem row).1 hrow)
      columns_nodup := h.columns_nodup
      declared := fun row hrow => h.declared row ((hmem row).1 hrow) }

/-- Replacing the rows declares their columns, so only the old declarations matter. -/
theorem replaceRows (h : ds.columns.Nodup) (rows : List Row) :
    (ds.replaceRows rows).Represented where
  keys_nodup row _ := row.nodup_keys
  columns_nodup := by
    rw [Dataset.replaceRows, foldl_declare_rows]
    exact nodup_foldl_declare h _
  declared row hrow name hname := by
    rw [Dataset.replaceRows, foldl_declare_rows, mem_foldl_declare]
    exact .inr (List.mem_flatMap.2 ⟨row, hrow, hname⟩)

theorem addRow (h : ds.Represented) (row : Row) : (ds.addRow row).Represented where
  keys_nodup row _ := row.nodup_keys
  columns_nodup := nodup_foldl_declare h.columns_nodup row.keys
  declared other hother name hname := by
    rw [Dataset.addRow, declareColumns, mem_foldl_declare]
    rcases List.mem_append.1 hother with hold | hnew
    · exact .inl (h.declared other hold name hname)
    · rw [List.mem_singleton] at hnew
      exact .inr (hnew ▸ hname)

end Represented

end Dataset

/-! ## Names of maps -/

/-- A map from a list of entries has the names of the list in the order of their first appearance,
as they would be declared. -/
theorem OrderedMap.keys_ofList {α : Type} (es : List (String × α)) :
    (ofList es).keys = (es.map (·.1)).eraseDups := by
  have hfold : ∀ m : OrderedMap α, (es.foldl (fun m e => m.insert e.1 e.2) m).keys =
      (es.map (·.1)).foldl Dataset.declare m.keys := by
    induction es with
    | nil => exact fun _ => rfl
    | cons e es ih =>
      intro m
      rw [List.foldl_cons, ih, keys_insert]
      rfl
  rw [ofList, hfold, keys_empty, Dataset.foldl_declare_nil]

/-- Items paired with the fields at their places look at no more fields than there are items. -/
theorem map_zipIdx_take {α β γ : Type} (f : α → Option β → γ) (items : List α) (fields : List β) :
    (items.zipIdx.map fun (item, i) => f item (fields.take items.length)[i]?) =
      items.zipIdx.map fun (item, i) => f item fields[i]? := by
  refine List.map_congr_left fun e he => ?_
  have hlt : e.2 < items.length := by simpa using List.snd_lt_of_mem_zipIdx he
  dsimp only
  rw [List.getElem?_take_of_lt hlt]

/-! ## Delimited text -/

namespace Delimited

/-- The row of a record has no other columns than the header. -/
theorem mem_header_of_mem_recordRow {header : List String}
    {fields : List (List Char)} {name : String}
    (h : name ∈ (recordRow header fields).keys) : name ∈ header := by
  rw [recordRow, OrderedMap.mem_keys_ofList, List.map_map] at h
  obtain ⟨⟨column, i⟩, hmem, rfl⟩ := List.mem_map.1 h
  exact List.fst_mem_of_mem_zipIdx hmem

/-- A data set that is read bears the given name and is represented. -/
theorem represented_read {name text source : String} {delimiter : Char} {ds : Dataset}
    (h : read name text delimiter source = .ok ds) : ds.name = name ∧ ds.Represented := by
  unfold read at h
  split at h
  · cases h
    exact ⟨rfl, .new name⟩
  · rename_i first records hlines
    cases hfirst : lineFields source delimiter first with
    | error e => rw [hfirst] at h; cases h
    | ok names =>
      cases hrecords : records.mapM (lineFields source delimiter) with
      | error e => rw [hfirst] at h; simp only [bind, Except.bind, hrecords] at h; cases h
      | ok fields =>
        rw [hfirst] at h
        simp only [bind, Except.bind, hrecords] at h
        cases h
        refine ⟨rfl, fun row _ => row.nodup_keys, Dataset.nodup_foldl_declare List.nodup_nil _, ?_⟩
        intro row hrow column hcolumn
        obtain ⟨record, -, rfl⟩ := List.mem_map.1 hrow
        exact Dataset.mem_foldl_declare.2 (.inr (mem_header_of_mem_recordRow hcolumn))

end Delimited

end DataStep
