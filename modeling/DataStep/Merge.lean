import DataStep.Error
import DataStep.Row

/-!
# Merging by key

Sorted lists of rows are merged on BY variables in rounds. A round looks at the first remaining
row of every list, takes the least key among them and combines the rows that have it, one of each
list. As soon as one list is exhausted the rest of the others follows unchanged, list after list.

In a combined row the BY variables come first. The other cells of its rows follow in order; a cell
whose name is taken is stored under the name of the first column of its row, an underscore and its
own name.
-/

set_option autoImplicit false

namespace DataStep.Merge

/-- The first remaining row of a list and the rows behind it. -/
structure Head where
  row : Row
  rest : List Row

/-- A head with the rows behind it. -/
def Head.rows (head : Head) : List Row := head.row :: head.rest

/-- The heads of all lists; none if a list is exhausted. -/
def heads? : List (List Row) → Option (List Head)
  | [] => some []
  | [] :: _ => none
  | (row :: rest) :: lists => (heads? lists).map (⟨row, rest⟩ :: ·)

/-- Whether a BY variable is a number in one row and a text in another. -/
def mixesTypes (rows : List Row) (v : String) : Bool :=
  rows.any (fun row => (Row.value row v).isNumber) && rows.any fun row => (Row.value row v).isText

/-- The first of the rows with the least key. -/
def leastRow (vars : List String) (first : Row) (rows : List Row) : Row :=
  rows.foldl (fun least row => if (Row.compareBy vars row least).isLT then row else least) first

/-- Whether a row has the key of another. -/
def sameKey (vars : List String) (key row : Row) : Bool := (Row.compareBy vars row key).isEq

/-- The name under which a cell of a row is stored beside the cells that are there. -/
def cellName (out : Row) (owner : Row) (name : String) : String :=
  let first := (owner.firstKey?).getD ""
  if out.contains name then s!"{first}_{name}" else name

/-- Adds the cells of a row that are not BY variables. -/
def addCells (vars : List String) (out : Row) (row : Row) : Row :=
  (row.entries.filter fun e => !vars.contains e.1).foldl
    (fun out e => out.insert (cellName out row e.1) e.2) out

/-- The combined row of a round: the BY variables of the key and the cells of the rows. -/
def combine (vars : List String) (key : Row) (rows : List Row) : Row :=
  rows.foldl (addCells vars) (OrderedMap.ofList (vars.map fun v => (v, Row.value key v)))

/-- What remains of a list after a round: a head with the key is consumed. -/
def advance (vars : List String) (key : Row) (head : Head) : List Row :=
  if sameKey vars key head.row then head.rest else head.rows

/-- How many rows remain. -/
def remaining (lists : List (List Row)) : Nat := lists.flatten.length

theorem compareBy_self (vars : List String) (row : Row) : Row.compareBy vars row row = .eq := by
  induction vars with
  | nil => rfl
  | cons v rest ih =>
    have h : (Row.value row v).compare (Row.value row v) = .eq := by
      cases Row.value row v with
      | number n => simp [Value.compare, Number.compare]
      | text s => simp [Value.compare]
      | missing => rfl
    simp [Row.compareBy, h, ih]

theorem remaining_cons (l : List Row) (lists : List (List Row)) :
    remaining (l :: lists) = l.length + remaining lists := by
  rw [remaining, List.flatten_cons, List.length_append]
  rfl

/-- The lists are the heads with the rows behind them. -/
theorem eq_rows_of_heads {lists : List (List Row)} {hs : List Head} (h : heads? lists = some hs) :
    lists = hs.map Head.rows := by
  induction lists generalizing hs with
  | nil =>
    rw [heads?, Option.some.injEq] at h
    rw [← h]
    rfl
  | cons l lists ih =>
    cases l with
    | nil => exact absurd h (by simp [heads?])
    | cons row rest =>
      rw [heads?, Option.map_eq_some_iff] at h
      obtain ⟨hs', hh, rfl⟩ := h
      rw [ih hh]
      rfl

theorem leastRow_mem (vars : List String) (first : Row) (rows : List Row) :
    leastRow vars first rows ∈ first :: rows := by
  unfold leastRow
  induction rows generalizing first with
  | nil => exact List.mem_cons_self ..
  | cons row rows ih =>
    rw [List.foldl_cons]
    split
    · exact List.mem_cons_of_mem _ (ih row)
    · rcases List.mem_cons.1 (ih first) with h | h
      · rw [h]
        exact List.mem_cons_self ..
      · exact List.mem_cons_of_mem _ (List.mem_cons_of_mem _ h)

theorem length_advance_le (vars : List String) (key : Row) (head : Head) :
    (advance vars key head).length ≤ head.rows.length := by
  unfold advance
  split
  · exact Nat.le_succ _
  · exact Nat.le_refl _

/-- A head that is its own key is consumed. -/
theorem length_advance_self (vars : List String) (head : Head) :
    (advance vars head.row head).length < head.rows.length := by
  have h : advance vars head.row head = head.rest := by
    rw [advance, sameKey, compareBy_self]
    rfl
  rw [h]
  exact Nat.lt_succ_self _

theorem remaining_advance_le (vars : List String) (key : Row) (hs : List Head) :
    remaining (hs.map (advance vars key)) ≤ remaining (hs.map Head.rows) := by
  induction hs with
  | nil => exact Nat.le_refl _
  | cons head hs ih =>
    rw [List.map_cons, List.map_cons, remaining_cons, remaining_cons]
    exact Nat.add_le_add (length_advance_le vars key head) ih

/-- A round whose key is the row of one of the heads consumes a row. -/
theorem remaining_advance_lt {vars : List String} {key : Row} {hs : List Head}
    (h : key ∈ hs.map Head.row) :
    remaining (hs.map (advance vars key)) < remaining (hs.map Head.rows) := by
  induction hs with
  | nil => exact absurd h List.not_mem_nil
  | cons head hs ih =>
    rw [List.map_cons, List.map_cons, remaining_cons, remaining_cons]
    rcases List.mem_cons.1 h with hk | hk
    · rw [hk]
      exact Nat.add_lt_add_of_lt_of_le (length_advance_self vars head)
        (remaining_advance_le vars head.row hs)
    · exact Nat.add_lt_add_of_le_of_lt (length_advance_le vars key head) (ih hk)

/-- The rounds on lists of sorted rows. -/
def rounds (vars : List String) (lists : List (List Row)) : Except MergeError (List Row) :=
  match _heads : heads? lists with
  -- a list is exhausted, and whatever is left follows
  | none => .ok lists.flatten
  | some [] => .ok []
  | some (h :: hs) =>
    let rows := (h :: hs).map Head.row
    -- the heads are compared only if their keys have one type
    match vars.find? (mixesTypes rows) with
    | some v => .error (.keyTypeMismatch v)
    | none =>
      let key := leastRow vars h.row (hs.map Head.row)
      let out := combine vars key (rows.filter (sameKey vars key))
      (rounds vars ((h :: hs).map (advance vars key))).map (out :: ·)
  termination_by remaining lists
  decreasing_by
    rw [eq_rows_of_heads _heads]
    exact remaining_advance_lt (leastRow_mem vars h.row (hs.map Head.row))

/-- Merges lists of sorted rows on BY variables. -/
def mergeRows (vars : List String) (lists : List (List Row)) : Except MergeError (List Row) :=
  if vars.isEmpty then .error .missingBy else rounds vars lists

end DataStep.Merge
