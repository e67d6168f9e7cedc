import DataStep.Catalog

/-!
# Looking up and changing data sets

What a look-up under two keys answers after a data set was put (`find?_put_self`,
`find?_put_of_ne`), and what the operations by name do to a data set that is in memory
(`fetch_of_named?`, `update_of_named?`).
-/

set_option autoImplicit false

namespace DataStep

/-! ## Ordered maps -/

section OrderedMap

variable {α : Type}

theorem Entries.insert_insert (name : String) (a b : α) (es : List (String × α)) :
    Entries.insert name b (Entries.insert name a es) = Entries.insert name b es := by
  induction es with
  | nil => simp [Entries.insert]
  | cons e es ih =>
    obtain ⟨k, v⟩ := e
    by_cases h : k = name
    · simp [Entries.insert, h]
    · simp [Entries.insert, h, ih]

/-- The second of two values of a name replaces the first. -/
theorem OrderedMap.insert_insert (m : OrderedMap α) (name : String) (a b : α) :
    (m.insert name a).insert name b = m.insert name b :=
  OrderedMap.ext (Entries.insert_insert name a b m.entries)

@[simp] theorem OrderedMap.get?_insert_self (m : OrderedMap α) (name : String) (a : α) :
    (m.insert name a).get? name = some a := by
  rw [OrderedMap.get?_insert, if_pos rfl]

theorem OrderedMap.get?_insert_of_ne (m : OrderedMap α) {name other : String} (a : α)
    (h : name ≠ other) : (m.insert name a).get? other = m.get? other := by
  rw [OrderedMap.get?_insert, if_neg h]

end OrderedMap

namespace Catalog

variable {cat : Catalog} {l d l' d' libref name : String} {ds : Dataset}

/-! ## Putting data sets -/

theorem exists_library_of_find? (h : cat.find? l d = some ds) :
    ∃ lib, cat.libraries.get? l = some lib ∧ lib.datasets.get? d = some ds :=
  Option.bind_eq_some_iff.1 h

theorem find?_put_self (h : (cat.libraries.get? l).isSome) :
    (cat.put l d ds).find? l d = some ds := by
  obtain ⟨lib, hlib⟩ := Option.isSome_iff_exists.1 h
  simp [put, find?, hlib]

/-- Other data sets are where they were. -/
theorem find?_put_of_ne (h : l' ≠ l ∨ d' ≠ d) :
    (cat.put l d ds).find? l' d' = cat.find? l' d' := by
  unfold put
  cases hlib : cat.libraries.get? l with
  | none => rfl
  | some lib =>
    by_cases hl : l' = l
    · subst hl
      have hd : d ≠ d' := fun he => (h.resolve_left fun hne => hne rfl) he.symm
      simp [find?, hlib, OrderedMap.get?_insert_of_ne _ _ hd]
    · simp [find?, OrderedMap.get?_insert_of_ne _ _ (Ne.symm hl)]

theorem put_put (a b : Dataset) : (cat.put l d a).put l d b = cat.put l d b := by
  unfold put
  cases hlib : cat.libraries.get? l with
  | none => simp [hlib]
  | some lib => simp [OrderedMap.insert_insert]

@[simp] theorem defaultLibrary_put : (cat.put l d ds).defaultLibrary = cat.defaultLibrary := by
  unfold put
  split <;> rfl

@[simp] theorem libraryKey_put : (cat.put l d ds).libraryKey libref = cat.libraryKey libref := by
  rw [libraryKey, libraryKey, defaultLibrary_put]

/-- A library that gets a directory keeps its data sets. -/
theorem find?_assign (libref path l d : String) :
    (cat.assign libref path).find? l d = cat.find? l d := by
  by_cases h : cat.libraryKey libref = l
  · subst h
    cases hlib : cat.libraries.get? (cat.libraryKey libref) with
    | none => simp [assign, find?, hlib]
    | some lib => simp [assign, find?, hlib]
  · simp [assign, find?, OrderedMap.get?_insert_of_ne _ _ h]

/-! ## Data sets in memory -/

/-- The data set of a name in memory. -/
def named? (cat : Catalog) (libref name : String) : Option Dataset :=
  cat.find? (cat.libraryKey libref) (datasetKey name)

/-- Puts a data set under the keys of a name. -/
def putNamed (cat : Catalog) (libref name : String) (ds : Dataset) : Catalog :=
  cat.put (cat.libraryKey libref) (datasetKey name) ds

theorem isSome_library_of_named? (h : cat.named? libref name = some ds) :
    (cat.libraries.get? (cat.libraryKey libref)).isSome := by
  obtain ⟨lib, hlib, -⟩ := exists_library_of_find? h
  exact hlib ▸ rfl

theorem named?_putNamed (h : (cat.libraries.get? (cat.libraryKey libref)).isSome) :
    (cat.putNamed libref name ds).named? libref name = some ds := by
  rw [named?, putNamed, libraryKey_put, find?_put_self h]

theorem putNamed_putNamed (a b : Dataset) :
    (cat.putNamed libref name a).putNamed libref name b = cat.putNamed libref name b := by
  rw [putNamed, putNamed, libraryKey_put, put_put, putNamed]

theorem fetch_of_named? (h : cat.named? libref name = some ds) :
    cat.fetch libref name = (.ok ds, cat) := by
  have hlib : cat.hasLibrary libref = true := isSome_library_of_named? h
  have hfind : cat.find? (cat.libraryKey libref) (datasetKey name) = some ds := h
  simp [fetch, hlib, hfind]

theorem update_of_named? (h : cat.named? libref name = some ds) (f : Dataset → Dataset) :
    cat.update libref name f = (.ok (f ds), cat.putNamed libref name (f ds)) := by
  rw [update, fetch_of_named? h]
  rfl

end Catalog

end DataStep
