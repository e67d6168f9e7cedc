/-!
# Ordered maps

A map from names to values that remembers the order in which its names came. A new name goes to the
end and a name that is present keeps its place, so every list of names is free of repetitions; the
type carries that fact.

Main statements: what a look-up answers after each operation (`get?_insert`, `get?_erase`,
`get?_filterKeys`) and what each operation does to the list of names (`keys_insert`, `keys_erase`,
`keys_filterKeys`). Names are removed by their first entry, which is their only one (`remove_eq`).
-/

set_option autoImplicit false

namespace DataStep

universe u

/-! ## Lists of entries -/

namespace Entries

variable {α : Type u}

/-- The names of a list of entries. -/
def keys (es : List (String × α)) : List String := es.map (·.1)

/-- The value of the first entry with a name. -/
def find? (name : String) : List (String × α) → Option α
  | [] => none
  | (k, v) :: es => if k = name then some v else find? name es

/-- Replaces the value of the first entry with a name, or adds an entry at the end. -/
def insert (name : String) (value : α) : List (String × α) → List (String × α)
  | [] => [(name, value)]
  | (k, v) :: es => if k = name then (k, value) :: es else (k, v) :: insert name value es

/-- Leaves out the entries with a name. -/
def erase (name : String) (es : List (String × α)) : List (String × α) :=
  es.filter fun e => e.1 != name

/-- Takes out the first entry with a name: its value, if there is one, and the other entries. -/
def remove (name : String) : List (String × α) → Option α × List (String × α)
  | [] => (none, [])
  | (k, v) :: es =>
    if k = name then (some v, es) else ((remove name es).1, (k, v) :: (remove name es).2)

@[simp] theorem keys_nil : keys ([] : List (String × α)) = [] := rfl

@[simp] theorem keys_cons (e : String × α) (es : List (String × α)) :
    keys (e :: es) = e.1 :: keys es := rfl

theorem find?_eq_none_iff {name : String} {es : List (String × α)} :
    find? name es = none ↔ name ∉ keys es := by
  induction es with
  | nil => simp [find?]
  | cons e es ih =>
    obtain ⟨k, v⟩ := e
    by_cases h : k = name
    · simp [find?, h]
    · simp [find?, h, ih, Ne.symm h]

theorem keys_insert (name : String) (value : α) (es : List (String × α)) :
    keys (insert name value es) = if name ∈ keys es then keys es else keys es ++ [name] := by
  induction es with
  | nil => simp [insert, keys]
  | cons e es ih =>
    obtain ⟨k, v⟩ := e
    by_cases h : k = name
    · simp [insert, h]
    · simp only [insert, h, if_false, keys_cons, ih, List.mem_cons, Ne.symm h, false_or]
      split <;> simp

theorem nodup_keys_insert {name : String} {value : α} {es : List (String × α)}
    (h : (keys es).Nodup) : (keys (insert name value es)).Nodup := by
  rw [keys_insert]
  split
  · exact h
  · rename_i hn
    rw [List.nodup_append]
    refine ⟨h, by simp, ?_⟩
    intro a ha b hb hab
    rw [List.mem_singleton] at hb
    exact hn (hb ▸ hab ▸ ha)

theorem nodup_keys_filter {p : String × α → Bool} {es : List (String × α)}
    (h : (keys es).Nodup) : (keys (es.filter p)).Nodup :=
  List.Nodup.sublist (List.Sublist.map _ List.filter_sublist) h

theorem find?_insert (name other : String) (value : α) (es : List (String × α)) :
    find? other (insert name value es) = if name = other then some value else find? other es := by
  induction es with
  | nil => simp [insert, find?]
  | cons e es ih =>
    obtain ⟨k, v⟩ := e
    by_cases h : k = name
    · subst h
      by_cases ho : k = other <;> simp [insert, find?, ho]
    · by_cases ho : k = other
      · subst ho
        simp [insert, find?, h, Ne.symm h]
      · simp [insert, find?, h, ho, ih]

theorem find?_filter_key (p : String → Bool) (name : String) (es : List (String × α)) :
    find? name (es.filter fun e => p e.1) = if p name then find? name es else none := by
  induction es with
  | nil => simp [find?]
  | cons e es ih =>
    obtain ⟨k, v⟩ := e
    by_cases h : k = name
    · subst h
      by_cases hp : p k
      · simp [List.filter, hp, find?]
      · simp [List.filter, hp, ih]
    · by_cases hp : p k
      · simp only [List.filter, hp, find?, h, if_false, ih]
      · simp only [List.filter, hp, find?, h, if_false, ih]

theorem keys_filter_key (p : String → Bool) (es : List (String × α)) :
    keys (es.filter fun e => p e.1) = (keys es).filter p := by
  induction es with
  | nil => rfl
  | cons e es ih =>
    simp only [List.filter, keys_cons]
    split <;> simp only [keys_cons, ih]

/-- What is taken out is what a look-up finds. -/
theorem remove_fst (name : String) (es : List (String × α)) :
    (remove name es).1 = find? name es := by
  induction es with
  | nil => rfl
  | cons e es ih =>
    obtain ⟨k, v⟩ := e
    by_cases h : k = name <;> simp [remove, find?, h, ih]

theorem remove_snd_sublist (name : String) (es : List (String × α)) :
    (remove name es).2.Sublist es := by
  induction es with
  | nil => exact List.Sublist.refl _
  | cons e es ih =>
    obtain ⟨k, v⟩ := e
    by_cases h : k = name
    · simp only [remove, h, if_true]
      exact List.sublist_cons_self _ _
    · simp only [remove, h, if_false]
      exact ih.cons_cons _

/-- Where no name is repeated the first entry with a name is the only one. -/
theorem remove_snd {name : String} {es : List (String × α)} (h : (keys es).Nodup) :
    (remove name es).2 = erase name es := by
  induction es with
  | nil => rfl
  | cons e es ih =>
    obtain ⟨k, v⟩ := e
    rw [keys_cons, List.nodup_cons] at h
    by_cases hk : k = name
    · subst hk
      have hnone : ∀ e ∈ es, (e.1 != k) = true := by
        intro e he
        rw [bne_iff_ne]
        rintro rfl
        exact h.1 (List.mem_map_of_mem (f := (·.1)) he)
      rw [remove, if_pos rfl, erase, List.filter_cons_of_neg (by simp), List.filter_eq_self.2 hnone]
    · rw [remove, if_neg hk, ih h.2, erase, erase, List.filter_cons_of_pos (by simp [hk])]

end Entries

/-! ## The map -/

/-- Names with values, in the order in which the names came. -/
structure OrderedMap (α : Type u) where
  /-- The entries in order. -/
  entries : List (String × α)
  distinct : (Entries.keys entries).Nodup

namespace OrderedMap

variable {α : Type u}

instance [DecidableEq α] : DecidableEq (OrderedMap α) := fun a b =>
  decidable_of_iff (a.entries = b.entries)
    ⟨fun h => by cases a; cases b; simp_all, fun h => by rw [h]⟩

/-- The map without entries. -/
def empty : OrderedMap α := ⟨[], List.nodup_nil⟩

instance : EmptyCollection (OrderedMap α) := ⟨empty⟩

instance : Inhabited (OrderedMap α) := ⟨empty⟩

/-- The names in order. -/
def keys (m : OrderedMap α) : List String := Entries.keys m.entries

/-- The value of a name, if the name is present. -/
def get? (m : OrderedMap α) (name : String) : Option α := Entries.find? name m.entries

/-- Whether a name is present. -/
def contains (m : OrderedMap α) (name : String) : Bool := (m.get? name).isSome

/-- Gives a name a value: in its place if it is present, else at the end. -/
def insert (m : OrderedMap α) (name : String) (value : α) : OrderedMap α :=
  ⟨Entries.insert name value m.entries, Entries.nodup_keys_insert m.distinct⟩

/-- Leaves out a name. -/
def erase (m : OrderedMap α) (name : String) : OrderedMap α :=
  ⟨Entries.erase name m.entries, Entries.nodup_keys_filter m.distinct⟩

/-- Takes out a name: its value, if it is present, and the map without it. -/
def remove (m : OrderedMap α) (name : String) : Option α × OrderedMap α :=
  ((Entries.remove name m.entries).1,
    ⟨(Entries.remove name m.entries).2,
      m.distinct.sublist ((Entries.remove_snd_sublist name m.entries).map _)⟩)

/-- Leaves out the names that fail a test. -/
def filterKeys (m : OrderedMap α) (p : String → Bool) : OrderedMap α :=
  ⟨m.entries.filter fun e => p e.1, Entries.nodup_keys_filter m.distinct⟩

/-- The map that arises by inserting the entries one after another. -/
def ofList (es : List (String × α)) : OrderedMap α :=
  es.foldl (fun m e => m.insert e.1 e.2) empty

/-- The first name. -/
def firstKey? (m : OrderedMap α) : Option String := m.keys.head?

/-- How many names there are. -/
def size (m : OrderedMap α) : Nat := m.entries.length

@[ext] theorem ext {a b : OrderedMap α} (h : a.entries = b.entries) : a = b := by
  cases a; cases b; simp_all

@[simp] theorem get?_empty (name : String) : (empty : OrderedMap α).get? name = none := rfl

@[simp] theorem keys_empty : (empty : OrderedMap α).keys = [] := rfl

theorem get?_eq_none_iff {m : OrderedMap α} {name : String} :
    m.get? name = none ↔ name ∉ m.keys := Entries.find?_eq_none_iff

theorem contains_iff {m : OrderedMap α} {name : String} :
    m.contains name = true ↔ name ∈ m.keys := by
  rw [contains, Option.isSome_iff_ne_none, ne_eq, get?_eq_none_iff, Classical.not_not]

theorem get?_insert (m : OrderedMap α) (name other : String) (value : α) :
    (m.insert name value).get? other = if name = other then some value else m.get? other :=
  Entries.find?_insert name other value m.entries

theorem get?_erase (m : OrderedMap α) (name other : String) :
    (m.erase name).get? other = if other = name then none else m.get? other := by
  have h := Entries.find?_filter_key (fun k => k != name) other m.entries
  simp only [bne_iff_ne, ne_eq, ite_not] at h
  exact h

theorem get?_filterKeys (m : OrderedMap α) (p : String → Bool) (name : String) :
    (m.filterKeys p).get? name = if p name then m.get? name else none :=
  Entries.find?_filter_key p name m.entries

theorem keys_insert (m : OrderedMap α) (name : String) (value : α) :
    (m.insert name value).keys = if name ∈ m.keys then m.keys else m.keys ++ [name] :=
  Entries.keys_insert name value m.entries

theorem keys_erase (m : OrderedMap α) (name : String) :
    (m.erase name).keys = m.keys.filter (· != name) :=
  Entries.keys_filter_key (· != name) m.entries

/-- **A removal answers what a look-up would answer, and erases the name.** -/
theorem remove_eq (m : OrderedMap α) (name : String) :
    m.remove name = (m.get? name, m.erase name) :=
  Prod.ext (Entries.remove_fst name m.entries) (ext (Entries.remove_snd m.distinct))

theorem keys_filterKeys (m : OrderedMap α) (p : String → Bool) :
    (m.filterKeys p).keys = m.keys.filter p := Entries.keys_filter_key p m.entries

end OrderedMap

end DataStep
