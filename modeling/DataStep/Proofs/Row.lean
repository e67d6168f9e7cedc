import DataStep.Proofs.Dataset
import DataStep.Row
import Mathlib.Data.List.Induction

/-!
# Rows as insertion-ordered maps

What can be done to a row is an `Operation`: it is made from pairs, a column is set or removed, or
columns are kept by a test. The same operations act on plain entries (`Operation.onEntries`), whose
names nothing keeps apart. Both come to the same entries, step by step and over every history
(`entries_onMap`, `entries_replay`), so that no history of plain entries repeats a name.

Main statement: after every history the operations act as on an insertion-ordered map
(`Row.replay_insertionOrdered`).
-/

set_option autoImplicit false

namespace DataStep

namespace OrderedMap

variable {α : Type}

/-! ## Operations -/

/-- What is done to a map. -/
inductive Operation (α : Type) where
  /-- The map is made anew: the pairs are set one after another. -/
  | build (pairs : List (String × α))
  | set (name : String) (value : α)
  | remove (name : String)
  /-- The names that pass a test stay. -/
  | keep (p : String → Bool)

/-- The map after an operation. -/
def Operation.onMap (m : OrderedMap α) : Operation α → OrderedMap α
  | build pairs => ofList pairs
  | set name value => m.insert name value
  | remove name => (m.remove name).2
  | keep p => m.filterKeys p

/-- Plain entries after an operation. -/
def Operation.onEntries (es : List (String × α)) : Operation α → List (String × α)
  | build pairs => pairs.foldl (fun es e => Entries.insert e.1 e.2 es) []
  | set name value => Entries.insert name value es
  | remove name => (Entries.remove name es).2
  | keep p => es.filter fun e => p e.1

/-- The map after a history of operations. -/
def replay (ops : List (Operation α)) : OrderedMap α := ops.foldl Operation.onMap empty

/-- **An operation does to the entries of a map what it does to plain entries.** -/
theorem entries_onMap (m : OrderedMap α) (op : Operation α) :
    (op.onMap m).entries = op.onEntries m.entries := by
  cases op with
  | build pairs =>
    have hfold : ∀ m : OrderedMap α, (pairs.foldl (fun m e => m.insert e.1 e.2) m).entries =
        pairs.foldl (fun es e => Entries.insert e.1 e.2 es) m.entries := by
      induction pairs with
      | nil => exact fun _ => rfl
      | cons e pairs ih => exact fun m => ih (m.insert e.1 e.2)
    exact hfold empty
  | set name value => rfl
  | remove name => rfl
  | keep p => rfl

/-- **Every history of plain entries comes to the entries of a map.** -/
theorem entries_replay (ops : List (Operation α)) :
    (replay ops).entries = ops.foldl Operation.onEntries [] := by
  have hfold : ∀ m : OrderedMap α,
      (ops.foldl Operation.onMap m).entries = ops.foldl Operation.onEntries m.entries := by
    induction ops with
    | nil => exact fun _ => rfl
    | cons op ops ih =>
      intro m
      rw [List.foldl_cons, List.foldl_cons, ih, entries_onMap]
  exact hfold empty

/-! ## Names and values -/

theorem mem_erase {m : OrderedMap α} {name : String} {e : String × α} :
    e ∈ (m.erase name).entries ↔ e ∈ m.entries ∧ e.1 ≠ name := by
  change e ∈ m.entries.filter _ ↔ _
  rw [List.mem_filter, bne_iff_ne]

theorem mem_filterKeys {m : OrderedMap α} {p : String → Bool} {e : String × α} :
    e ∈ (m.filterKeys p).entries ↔ e ∈ m.entries ∧ p e.1 = true := List.mem_filter

/-- The last of the pairs with a name gives its value. -/
theorem get?_ofList (pairs : List (String × α)) (name : String) :
    (ofList pairs).get? name = (pairs.findRev? fun e => e.1 == name).map (·.2) := by
  induction pairs using List.reverseRecOn with
  | nil => rfl
  | append_singleton pairs e ih =>
    have hlast : ofList (pairs ++ [e]) = (ofList pairs).insert e.1 e.2 := by
      rw [ofList, List.foldl_append]
      rfl
    rw [hlast, get?_insert, ih]
    by_cases h : e.1 = name <;> simp [h]

end OrderedMap

namespace Row

open OrderedMap

/-- **A row on which the operations act as on an insertion-ordered map.** -/
structure InsertionOrdered (row : Row) : Prop where
  distinct : row.keys.Nodup
  get?_set : ∀ name value, (row.insert name value).get? name = some value
  get?_set_other : ∀ name value other, other ≠ name →
    (row.insert name value).get? other = row.get? other
  /-- A column that is present keeps its place, as all others do. -/
  set_present : ∀ name value, name ∈ row.keys → (row.insert name value).keys = row.keys
  /-- A column that is absent goes to the end. -/
  set_absent : ∀ name value, name ∉ row.keys →
    (row.insert name value).entries = row.entries ++ [(name, value)]
  removed_value : ∀ name, (row.remove name).1 = row.get? name
  removed_rest : ∀ name, (row.remove name).2.entries.Sublist row.entries ∧
    ∀ e, e ∈ (row.remove name).2.entries ↔ e ∈ row.entries ∧ e.1 ≠ name
  kept : ∀ p, (row.filterKeys p).entries.Sublist row.entries ∧
    ∀ e, e ∈ (row.filterKeys p).entries ↔ e ∈ row.entries ∧ p e.1 = true
  /-- Of the pairs with one name the first gives the place and the last the value. -/
  built : ∀ pairs : List (String × Value), (ofList pairs).keys = (pairs.map (·.1)).eraseDups ∧
    ∀ name, (ofList pairs).get? name = (pairs.findRev? fun e => e.1 == name).map (·.2)

/-- **After every history of operations, plain entries are those of an insertion-ordered map.** -/
theorem replay_insertionOrdered (ops : List (Operation Value)) :
    (replay ops).entries = ops.foldl Operation.onEntries [] ∧ InsertionOrdered (replay ops) := by
  refine ⟨entries_replay ops, ?_⟩
  generalize replay ops = row
  constructor
  case distinct => exact row.nodup_keys
  case get?_set =>
    intro name value
    rw [get?_insert, if_pos rfl]
  case get?_set_other =>
    intro name value other hother
    rw [get?_insert, if_neg hother.symm]
  case set_present =>
    intro name value hmem
    rw [keys_insert, if_pos hmem]
  case set_absent =>
    intro name value hmem
    exact Entries.insert_of_not_mem value hmem
  case removed_value =>
    intro name
    rw [remove_eq]
  case removed_rest =>
    intro name
    rw [remove_eq]
    exact ⟨List.filter_sublist, fun e => mem_erase⟩
  case kept => exact fun p => ⟨List.filter_sublist, fun e => mem_filterKeys⟩
  case built => exact fun pairs => ⟨keys_ofList pairs, get?_ofList pairs⟩

/-- A column that was removed comes back at the end, and one that is set again keeps its place. -/
example : (replay [.build [("a", 1), ("b", 2), ("a", 3)], .remove "b", .set "c" 4,
      .set "b" 5, .set "a" 6]).entries =
    [("a", 6), ("c", 4), ("b", 5)] := by decide

end Row

end DataStep
