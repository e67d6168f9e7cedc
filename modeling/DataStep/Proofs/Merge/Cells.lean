import DataStep.Proofs.Merge.Plan
import Mathlib.Data.List.Perm.Subperm

/-!
# The cells of a combined row

The cells of a round are stored one after another behind the BY variables, each under its own name
or, where that name is taken, under its name behind that of the first column of its row. A stored
cell may therefore meet a name that is taken as well, and then it replaces what stands there.

`places` computes the names that a round uses, `Keeps` says that a row holds every cell of the round
under a name of its own and every BY variable beside them, and `Free` is the condition on the names
alone. Main statement: in every merge a round keeps its cells exactly if its names are free
(`exists_plan_keeps_iff`). They need not be (`not_keepsCells_renamed_name_taken`).
-/

set_option autoImplicit false

namespace DataStep.Merge

variable {vars : List String} {key out : Row}

/-- A cell on its way to a combined row. -/
structure Cell where
  /-- The first column of the row that the cell comes from. -/
  owner : String
  name : String
  value : Value

namespace Cell

/-- The name of a cell whose own name is taken. -/
def renamed (c : Cell) : String := s!"{c.owner}_{c.name}"

/-- The name under which a cell is stored beside names that are taken. -/
def place (taken : List String) (c : Cell) : String :=
  if c.name ∈ taken then c.renamed else c.name

/-- Stores a cell in a row. -/
def store (out : Row) (c : Cell) : Row :=
  out.insert (if out.contains c.name then c.renamed else c.name) c.value

end Cell

/-- The cells of a row that are not BY variables. -/
def rowCells (vars : List String) (row : Row) : List Cell :=
  (row.entries.filter fun e => !vars.contains e.1).map fun e =>
    ⟨(row.firstKey?).getD "", e.1, e.2⟩

/-- The cells of the rows of a round. -/
def roundCells (vars : List String) (rows : List Row) : List Cell := rows.flatMap (rowCells vars)

/-- The names under which cells are stored, beside names that are taken. -/
def places (taken : List String) : List Cell → List String
  | [] => []
  | c :: cs => c.place taken :: places (c.place taken :: taken) cs

/-- Every cell is stored under a name of its own that is not a BY variable. -/
def Free (vars : List String) (cs : List Cell) : Prop :=
  (places vars cs).Nodup ∧ ∀ p ∈ places vars cs, p ∉ vars

instance (vars : List String) (cs : List Cell) : Decidable (Free vars cs) :=
  inferInstanceAs (Decidable (_ ∧ _))

/-- A row keeps cells under a list of names: the BY variables have the values of the key, each
cell is found under its name, which is its own or, where another cell has that, the renamed one,
and no name serves twice. -/
structure Keeps (vars : List String) (key : Row) (cs : List Cell) (out : Row)
    (names : List String) : Prop where
  by_values : ∀ v ∈ vars, out.get? v = some (Row.value key v)
  length_eq : names.length = cs.length
  cell : ∀ (i : Nat) (c : Cell) (name : String), cs[i]? = some c → names[i]? = some name →
    out.get? name = some c.value ∧ (name = c.name ∨ name = c.renamed ∧ c.name ∈ names)
  nodup : names.Nodup
  not_by : ∀ name ∈ names, name ∉ vars

/-- A row keeps all cells of the rows of a round. -/
def KeepsCells (vars : List String) (key : Row) (rows : List Row) (out : Row) : Prop :=
  ∃ names, Keeps vars key (roundCells vars rows) out names

/-! ## Storing cells one after another -/

/-- The BY variables with the values of the key. -/
def byRow (vars : List String) (key : Row) : Row :=
  OrderedMap.ofList (vars.map fun v => (v, Row.value key v))

theorem addCells_eq (out row : Row) :
    addCells vars out row = (rowCells vars row).foldl Cell.store out := by
  rw [addCells, rowCells, List.foldl_map]
  rfl

/-- A combined row arises from the BY variables by storing the cells of its rows. -/
theorem combine_eq (rows : List Row) :
    combine vars key rows = (roundCells vars rows).foldl Cell.store (byRow vars key) := by
  unfold combine roundCells
  rw [← byRow]
  generalize byRow vars key = start
  induction rows generalizing start with
  | nil => rfl
  | cons row rows ih =>
    rw [List.foldl_cons, List.flatMap_cons, List.foldl_append, ih, addCells_eq]

theorem get?_byRow (v : String) :
    (byRow vars key).get? v = if v ∈ vars then some (Row.value key v) else none := by
  have h : ∀ (m : Row) (vs : List String),
      ((vs.map fun v => (v, Row.value key v)).foldl (fun m e => m.insert e.1 e.2) m).get? v =
        if v ∈ vs then some (Row.value key v) else m.get? v := by
    intro m vs
    induction vs generalizing m with
    | nil => simp
    | cons w vs ih =>
      rw [List.map_cons, List.foldl_cons, ih, OrderedMap.get?_insert]
      by_cases hw : w = v
      · subst hw
        simp
      · simp [hw, Ne.symm hw]
  rw [byRow, OrderedMap.ofList, h]
  rfl

theorem mem_keys_byRow (v : String) : v ∈ (byRow vars key).keys ↔ v ∈ vars := by
  rw [← OrderedMap.contains_iff, OrderedMap.contains, get?_byRow]
  split <;> simp [*]

theorem length_places (taken : List String) (cs : List Cell) :
    (places taken cs).length = cs.length := by
  induction cs generalizing taken with
  | nil => rfl
  | cons c cs ih => rw [places, List.length_cons, List.length_cons, ih]

section Store

variable {taken : List String}

/-- The place of a cell in a row whose names are known. -/
theorem store_eq (h : ∀ n, n ∈ taken ↔ n ∈ out.keys) (c : Cell) :
    c.store out = out.insert (c.place taken) c.value := by
  rw [Cell.store, Cell.place]
  congr 1
  simp only [OrderedMap.contains_iff, h]

theorem mem_keys_store (h : ∀ n, n ∈ taken ↔ n ∈ out.keys) (c : Cell) (n : String) :
    n ∈ c.place taken :: taken ↔ n ∈ (c.store out).keys := by
  rw [store_eq h, OrderedMap.keys_insert, List.mem_cons, h]
  split
  case isTrue hmem => exact ⟨fun hn => hn.elim (fun e => e ▸ hmem) id, .inr⟩
  case isFalse => rw [List.mem_append, List.mem_singleton, or_comm]

/-- The names of a row after storing cells. -/
theorem mem_keys_foldl_store (h : ∀ n, n ∈ taken ↔ n ∈ out.keys) (cs : List Cell) (n : String) :
    n ∈ (cs.foldl Cell.store out).keys ↔ n ∈ taken ∨ n ∈ places taken cs := by
  induction cs generalizing out taken with
  | nil => simp [places, h]
  | cons c cs ih =>
    rw [List.foldl_cons, ih (mem_keys_store h c), places]
    simp only [List.mem_cons]
    tauto

/-- Cells that are stored under other names leave a name as it is. -/
theorem get?_foldl_store_of_not_mem (h : ∀ n, n ∈ taken ↔ n ∈ out.keys)
    (cs : List Cell) {n : String}
    (hn : n ∉ places taken cs) : (cs.foldl Cell.store out).get? n = out.get? n := by
  induction cs generalizing out taken with
  | nil => rfl
  | cons c cs ih =>
    rw [places, List.mem_cons, not_or] at hn
    rw [List.foldl_cons, ih (mem_keys_store h c) hn.2, store_eq h, OrderedMap.get?_insert,
      if_neg (Ne.symm hn.1)]

/-- Where no name serves twice, every cell is found under its name. -/
theorem get?_foldl_store (h : ∀ n, n ∈ taken ↔ n ∈ out.keys) {cs : List Cell}
    (hnodup : (places taken cs).Nodup) {i : Nat} {c : Cell} {name : String} (hc : cs[i]? = some c)
    (hname : (places taken cs)[i]? = some name) :
    (cs.foldl Cell.store out).get? name = some c.value := by
  induction cs generalizing out taken i with
  | nil => simp at hc
  | cons first cs ih =>
    rw [places, List.nodup_cons] at hnodup
    rw [List.foldl_cons]
    cases i with
    | zero =>
      obtain rfl : first = c := by simpa using hc
      obtain rfl : first.place taken = name := by simpa [places] using hname
      rw [get?_foldl_store_of_not_mem (mem_keys_store h first) cs hnodup.1, store_eq h,
        OrderedMap.get?_insert, if_pos rfl]
    | succ i => exact ih (mem_keys_store h first) hnodup.2 hc hname

/-- A cell is renamed only where its name is taken, at first or by a cell before it. -/
theorem places_getElem? {cs : List Cell} {i : Nat} {c : Cell} {name : String} (hc : cs[i]? = some c)
    (hname : (places taken cs)[i]? = some name) :
    name = c.name ∨ name = c.renamed ∧ (c.name ∈ taken ∨ c.name ∈ places taken cs) := by
  induction cs generalizing taken i with
  | nil => simp at hc
  | cons first cs ih =>
    cases i with
    | zero =>
      obtain rfl : first = c := by simpa using hc
      obtain rfl : first.place taken = name := by simpa [places] using hname
      rw [Cell.place]
      split
      case isTrue hmem => exact .inr ⟨rfl, .inl hmem⟩
      case isFalse => exact .inl rfl
    | succ i =>
      rcases ih hc hname with heq | ⟨heq, hmem⟩
      · exact .inl heq
      · refine .inr ⟨heq, ?_⟩
        rw [List.mem_cons] at hmem
        rw [places, List.mem_cons]
        tauto

end Store

/-! ## When a round keeps its cells -/

theorem not_mem_vars_of_mem_roundCells {rows : List Row} {c : Cell}
    (h : c ∈ roundCells vars rows) : c.name ∉ vars := by
  obtain ⟨row, -, hc⟩ := List.mem_flatMap.1 h
  obtain ⟨e, he, rfl⟩ := List.mem_map.1 hc
  simpa using (List.mem_filter.1 he).2

/-- Where the names are free, a round keeps its cells under the names that it gives them. -/
theorem keeps_of_free {rows : List Row} (h : Free vars (roundCells vars rows)) :
    Keeps vars key (roundCells vars rows) (combine vars key rows)
      (places vars (roundCells vars rows)) := by
  have hkeys : ∀ n, n ∈ vars ↔ n ∈ (byRow vars key).keys := fun n => (mem_keys_byRow n).symm
  rw [combine_eq]
  refine ⟨fun v hv => ?_, length_places _ _, fun i c name hc hname => ⟨?_, ?_⟩, h.1, h.2⟩
  · have hfree : v ∉ places vars (roundCells vars rows) := fun hmem => h.2 v hmem hv
    rw [get?_foldl_store_of_not_mem hkeys _ hfree, get?_byRow, if_pos hv]
  · exact get?_foldl_store hkeys h.1 hc hname
  · have hby : c.name ∉ vars := not_mem_vars_of_mem_roundCells (List.mem_of_getElem? hc)
    rcases places_getElem? hc hname with heq | ⟨heq, hmem⟩
    · exact .inl heq
    · exact .inr ⟨heq, hmem.resolve_left hby⟩

/-- A row that keeps the cells of a round under any names needs as many names as there are cells, so
the round cannot have used one twice. -/
theorem free_of_keeps {rows : List Row} {names : List String}
    (h : Keeps vars key (roundCells vars rows) (combine vars key rows) names) :
    Free vars (roundCells vars rows) := by
  have hkeys : ∀ n, n ∈ vars ↔ n ∈ (byRow vars key).keys := fun n => (mem_keys_byRow n).symm
  let used := (places vars (roundCells vars rows)).filter (· ∉ vars)
  have hsub : names ⊆ used := by
    intro name hname
    obtain ⟨i, hi⟩ := List.getElem?_of_mem hname
    have hlt : i < (roundCells vars rows).length := by
      rw [← h.length_eq]
      exact (List.getElem?_eq_some_iff.1 hi).1
    obtain ⟨hget, -⟩ := h.cell i _ name (List.getElem?_eq_getElem hlt) hi
    have hmem : name ∈ (combine vars key rows).keys := by
      rw [← OrderedMap.contains_iff, OrderedMap.contains, hget]
      rfl
    rw [combine_eq, mem_keys_foldl_store hkeys] at hmem
    have hnot := h.not_by name hname
    exact List.mem_filter.2 ⟨hmem.resolve_left hnot, by simpa using hnot⟩
  have hsubperm : names.Subperm used := List.subperm_of_subset h.nodup hsub
  have hused : used.length ≤ names.length := by
    rw [h.length_eq, ← length_places vars]
    exact List.length_filter_le ..
  have hall : used = places vars (roundCells vars rows) := by
    refine List.filter_sublist.eq_of_length ?_
    have hle := hsubperm.length_le
    have hlen := List.length_filter_le (fun n => decide (n ∉ vars))
      (places vars (roundCells vars rows))
    rw [length_places, ← h.length_eq] at hlen ⊢
    exact Nat.le_antisymm hlen hle
  constructor
  · rw [← hall]
    exact (hsubperm.perm_of_length_le hused).nodup_iff.1 h.nodup
  · intro p hp
    rw [← hall] at hp
    simpa using (List.mem_filter.1 hp).2

/-- A round keeps its cells exactly if its names are free. -/
theorem keepsCells_iff (rows : List Row) :
    KeepsCells vars key rows (combine vars key rows) ↔ Free vars (roundCells vars rows) :=
  ⟨fun ⟨_, h⟩ => free_of_keeps h, fun h => ⟨_, keeps_of_free h⟩⟩

/-- **A merge keeps the cells of a round exactly if the names of the round are free.** Then every BY
variable has its value in the key and every other cell of a row that the round takes is found under
its own name or the renamed one. -/
theorem exists_plan_keeps_iff {lists : List (List Row)} {rows : List Row}
    (h : mergeRows vars lists = .ok rows) :
    ∃ plan : Plan, plan.Follows vars lists ∧ rows = plan.rows vars lists ∧
      ∀ k < plan.rounds,
        KeepsCells vars (plan.key k) (plan.taken lists k) (plan.combined vars lists k) ↔
          Free vars (roundCells vars (plan.taken lists k)) := by
  obtain ⟨plan, hfollows, hrows⟩ := exists_plan_of_mergeRows h
  exact ⟨plan, hfollows, hrows, fun k _ => keepsCells_iff (plan.taken lists k)⟩

/-- Control: a cell that meets a column of the first list is stored under its renamed name. -/
theorem exists_plan_keeps_iff_renamed :
    let lists : List (List Row) :=
      [[.ofList [("id", .text "1"), ("x", .text "a")]],
        [.ofList [("k", .text "9"), ("id", .text "1"), ("x", .text "b")]]]
    let rows : List Row :=
      [.ofList [("id", .text "1"), ("x", .text "a"), ("k", .text "9"), ("k_x", .text "b")]]
    mergeRows ["id"] lists = .ok rows ∧
      ∃ plan : Plan, plan.Follows ["id"] lists ∧ rows = plan.rows ["id"] lists ∧
        ∀ k < plan.rounds,
          KeepsCells ["id"] (plan.key k) (plan.taken lists k) (plan.combined ["id"] lists k) ↔
            Free ["id"] (roundCells ["id"] (plan.taken lists k)) := by
  intro lists rows
  have hmerge : mergeRows ["id"] lists = .ok rows := by decide +kernel
  exact ⟨hmerge, exists_plan_keeps_iff hmerge⟩

/-- Control: a renamed cell meets a column of its own row that is stored already. The value of that
column is in no cell of the combined row. -/
theorem not_keepsCells_renamed_name_taken :
    let first : Row := .ofList [("id", .text "1"), ("x", .text "a")]
    let second : Row :=
      .ofList [("k", .text "9"), ("k_x", .text "d"), ("x", .text "b"), ("id", .text "1")]
    let out : Row :=
      .ofList [("id", .text "1"), ("x", .text "a"), ("k", .text "9"), ("k_x", .text "b")]
    mergeRows ["id"] [[first], [second]] = .ok [out] ∧
      ¬ KeepsCells ["id"] first [first, second] out ∧ ∀ e ∈ out.entries, e.2 ≠ .text "d" := by
  intro first second out
  have hout : out = combine ["id"] first [first, second] := by decide
  refine ⟨by decide +kernel, ?_, by decide⟩
  rw [hout, keepsCells_iff]
  decide

end DataStep.Merge
