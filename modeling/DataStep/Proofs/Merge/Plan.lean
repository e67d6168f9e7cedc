import DataStep.Merge
import DataStep.Proofs.KeyOrder
import Mathlib.Data.List.Basic

/-!
# Plans of a merge

A plan records how a merge reads its lists: how many rounds there are, the key of every round, and
how many rows of every list are consumed before each round. `Plan.Follows` is the rule by which the
rounds go; it is kept by putting a round in front of a plan (`Plan.Follows.before`), and so every
merge that succeeds has a plan that follows the rule and describes its rows
(`exists_plan_of_mergeRows`).
-/

set_option autoImplicit false

namespace DataStep.Merge

variable {vars : List String} {lists : List (List Row)}

/-! ## Places -/

/-- The row at a place: the number of its list and its position in the list. -/
def row? (lists : List (List Row)) (i j : Nat) : Option Row := lists[i]?.bind (·[j]?)

/-- How many rows a list has. -/
def height (lists : List (List Row)) (i : Nat) : Nat := (lists.getD i []).length

/-- Leaves out the given number of rows at the front of every list. -/
def dropEach (lists : List (List Row)) (takes : Nat → Nat) : List (List Row) :=
  lists.mapIdx fun i rows => rows.drop (takes i)

theorem row?_eq_some_iff {i j : Nat} {row : Row} :
    row? lists i j = some row ↔ ∃ rows, lists[i]? = some rows ∧ rows[j]? = some row :=
  Option.bind_eq_some_iff

theorem height_eq {i : Nat} (hi : i < lists.length) : height lists i = lists[i].length := by
  simp [height, hi]

theorem exists_row?_iff {i j : Nat} : (∃ row, row? lists i j = some row) ↔ j < height lists i := by
  simp only [row?, height, List.getD_eq_getElem?_getD]
  cases lists[i]? with
  | none => simp
  | some rows => simp [← Option.isSome_iff_exists]

theorem lt_length_of_row? {i j : Nat} {row : Row} (h : row? lists i j = some row) :
    i < lists.length := by
  obtain ⟨rows, hrows, -⟩ := row?_eq_some_iff.1 h
  exact (List.getElem?_eq_some_iff.1 hrows).1

theorem row?_dropEach (takes : Nat → Nat) (i j : Nat) :
    row? (dropEach lists takes) i j = row? lists i (takes i + j) := by
  simp only [row?, dropEach, List.getElem?_mapIdx, Option.bind_map]
  congr 1
  funext rows
  exact List.getElem?_drop

theorem height_dropEach (takes : Nat → Nat) (i : Nat) :
    height (dropEach lists takes) i = height lists i - takes i := by
  simp only [height, dropEach, List.getD_eq_getElem?_getD, List.getElem?_mapIdx]
  cases lists[i]? with
  | none => simp
  | some rows => simp

/-! ## Plans -/

/-- How a merge reads its lists. -/
structure Plan where
  /-- How many rounds there are. -/
  rounds : Nat
  /-- The row whose key a round takes. -/
  key : Nat → Row
  /-- How many rows of a list are consumed before a round: first the round, then the list. -/
  cursor : Nat → Nat → Nat

namespace Plan

/-- What a round takes of a list. -/
def segment (plan : Plan) (k i : Nat) (rows : List Row) : List Row :=
  (rows.drop (plan.cursor k i)).take (plan.cursor (k + 1) i - plan.cursor k i)

/-- The rows that a round takes, in the order of their lists. -/
def taken (plan : Plan) (lists : List (List Row)) (k : Nat) : List Row :=
  (lists.mapIdx (plan.segment k)).flatten

/-- The combined row of a round. -/
def combined (plan : Plan) (vars : List String) (lists : List (List Row)) (k : Nat) : Row :=
  combine vars (plan.key k) (plan.taken lists k)

/-- What the rounds leave of every list. -/
def left (plan : Plan) (lists : List (List Row)) : List (List Row) :=
  dropEach lists (plan.cursor plan.rounds)

/-- The rows of a merge with this plan: those of the rounds, then what is left of the lists. -/
def rows (plan : Plan) (vars : List String) (lists : List (List Row)) : List Row :=
  (List.range plan.rounds).map (plan.combined vars lists) ++ (plan.left lists).flatten

/-- The plan without rounds. -/
def empty : Plan := ⟨0, fun _ => .empty, fun _ _ => 0⟩

/-- The plan with a round in front, which has the given key and takes the given number of rows of
every list. -/
def before (key : Row) (takes : Nat → Nat) (plan : Plan) : Plan where
  rounds := plan.rounds + 1
  key
    | 0 => key
    | k + 1 => plan.key k
  cursor
    | 0, _ => 0
    | k + 1, i => takes i + plan.cursor k i

/-- The rule of the rounds. Before a round no list is exhausted, the key of the round is the least
of the heads, and the heads with that key are consumed. After the last round a list is exhausted. -/
structure Follows (plan : Plan) (vars : List String) (lists : List (List Row)) : Prop where
  cursor_zero : ∀ i, plan.cursor 0 i = 0
  round : ∀ k < plan.rounds, ∀ i < lists.length, ∃ head,
    row? lists i (plan.cursor k i) = some head ∧ (Row.compareBy vars (plan.key k) head).isLE ∧
      plan.cursor (k + 1) i =
        plan.cursor k i + if sameKey vars (plan.key k) head then 1 else 0
  key_head : ∀ k < plan.rounds, ∃ i, row? lists i (plan.cursor k i) = some (plan.key k)
  exhausted : lists ≠ [] →
    ∃ i < lists.length, plan.cursor plan.rounds i = height lists i

theorem rows_empty : empty.rows vars lists = lists.flatten := by
  simp [rows, left, dropEach, empty, List.mapIdx_eq_zipIdx_map]

/-! ## A round in front of a plan -/

section Before

variable {key : Row} {takes : Nat → Nat} {plan : Plan}

theorem taken_before_succ (k : Nat) :
    (plan.before key takes).taken lists (k + 1) = plan.taken (dropEach lists takes) k := by
  have h : (plan.before key takes).segment (k + 1) =
      fun i rows => plan.segment k i (rows.drop (takes i)) := by
    funext i rows
    simp only [segment, before, List.drop_drop, Nat.add_sub_add_left]
  simp only [taken, dropEach, List.mapIdx_mapIdx, Function.comp_def, h]

theorem left_before :
    (plan.before key takes).left lists = plan.left (dropEach lists takes) := by
  simp only [left, dropEach, before, List.mapIdx_mapIdx, Function.comp_def, List.drop_drop]

theorem rows_before :
    (plan.before key takes).rows vars lists =
      (plan.before key takes).combined vars lists 0 :: plan.rows vars (dropEach lists takes) := by
  have h : (plan.before key takes).combined vars lists ∘ Nat.succ =
      plan.combined vars (dropEach lists takes) := by
    funext k
    simp only [Function.comp_apply, combined, Nat.succ_eq_add_one, taken_before_succ]
    rfl
  simp only [rows, left_before]
  rw [show (plan.before key takes).rounds = plan.rounds + 1 from rfl, List.range_succ_eq_map,
    List.map_cons, List.map_map, h, List.cons_append]

/-- A round that goes by the rule may stand in front of a plan that follows it on what the round
leaves of the lists. -/
theorem Follows.before (hkey : ∃ i, row? lists i 0 = some key)
    (hround : ∀ i < lists.length, ∃ head, row? lists i 0 = some head ∧
      (Row.compareBy vars key head).isLE ∧ takes i = if sameKey vars key head then 1 else 0)
    (h : plan.Follows vars (dropEach lists takes)) :
    (plan.before key takes).Follows vars lists where
  cursor_zero _ := rfl
  round k hk i hi := by
    cases k with
    | zero =>
      obtain ⟨head, hhead, hle, htakes⟩ := hround i hi
      refine ⟨head, hhead, hle, ?_⟩
      show takes i + plan.cursor 0 i = 0 + if sameKey vars key head then 1 else 0
      rw [h.cursor_zero, htakes, Nat.add_zero, Nat.zero_add]
    | succ k =>
      obtain ⟨head, hhead, hle, hnext⟩ :=
        h.round k (Nat.lt_of_succ_lt_succ hk) i (by simpa [dropEach] using hi)
      refine ⟨head, by rwa [row?_dropEach] at hhead, hle, ?_⟩
      show takes i + plan.cursor (k + 1) i =
        takes i + plan.cursor k i + if sameKey vars (plan.key k) head then 1 else 0
      rw [hnext, Nat.add_assoc]
  key_head k hk := by
    cases k with
    | zero => exact hkey
    | succ k =>
      obtain ⟨i, hi⟩ := h.key_head k (Nat.lt_of_succ_lt_succ hk)
      exact ⟨i, by rwa [row?_dropEach] at hi⟩
  exhausted hne := by
    have hne' : dropEach lists takes ≠ [] := by simpa [dropEach] using hne
    obtain ⟨i, hi, hend⟩ := h.exhausted hne'
    have hi' : i < lists.length := by simpa [dropEach] using hi
    obtain ⟨head, hhead, -, htakes⟩ := hround i hi'
    have hpos : 0 < height lists i := exists_row?_iff.1 ⟨head, hhead⟩
    have hle : takes i ≤ height lists i := by
      rw [htakes]
      split <;> omega
    refine ⟨i, hi', ?_⟩
    rw [height_dropEach] at hend
    show takes i + plan.cursor plan.rounds i = height lists i
    omega

end Before

end Plan

/-! ## The plan of a merge -/

theorem leastRow_le (vars : List String) (first : Row) (rows : List Row) :
    ∀ row ∈ first :: rows, (Row.compareBy vars (leastRow vars first rows) row).isLE := by
  induction rows generalizing first with
  | nil =>
    intro row h
    rw [List.mem_singleton.1 h, leastRow, List.foldl_nil, compareBy_self]
    rfl
  | cons next rows ih =>
    rw [List.forall_mem_cons, List.forall_mem_cons, leastRow, List.foldl_cons]
    split
    case isTrue hlt =>
      obtain ⟨hnext, hrest⟩ := List.forall_mem_cons.1 (ih next)
      rw [Ordering.isLT_iff_eq_lt] at hlt
      exact ⟨Row.compareBy_isLE_trans hnext (Ordering.isLE_of_eq_lt hlt), hnext, hrest⟩
    case isFalse hge =>
      obtain ⟨hfirst, hrest⟩ := List.forall_mem_cons.1 (ih first)
      have hle := Row.compareBy_isLE_of_not_isLT hge
      exact ⟨hfirst, Row.compareBy_isLE_trans hfirst hle, hrest⟩

theorem sameKey_iff {key row : Row} :
    sameKey vars key row = true ↔ Row.compareBy vars key row = .eq := by
  rw [sameKey, Ordering.isEq_iff_eq_eq, Std.OrientedCmp.eq_comm]

/-- How many rows of a list a round on heads takes. -/
def takes (vars : List String) (key : Row) (hs : List Head) (i : Nat) : Nat :=
  if hs[i]?.any fun head => sameKey vars key head.row then 1 else 0

theorem row?_heads {hs : List Head} {i : Nat} (hi : i < hs.length) :
    row? (hs.map Head.rows) i 0 = some hs[i].row := by
  simp [row?, hi, Head.rows]

theorem map_advance (key : Row) (hs : List Head) :
    hs.map (advance vars key) = dropEach (hs.map Head.rows) (takes vars key hs) := by
  refine List.ext_getElem (by simp [dropEach]) fun i h _ => ?_
  rw [List.length_map] at h
  simp only [List.getElem_map, dropEach, List.getElem_mapIdx, takes, h, getElem?_pos,
    Option.any_some, advance]
  split <;> rfl

/-- The rows that a round takes are those of its heads that have the key. -/
theorem taken_before_zero {plan : Plan} (key : Row) (hs : List Head)
    (h : ∀ i, plan.cursor 0 i = 0) :
    (plan.before key (takes vars key hs)).taken (hs.map Head.rows) 0 =
      (hs.map Head.row).filter (sameKey vars key) := by
  have hsegments : (hs.map Head.rows).mapIdx
      ((plan.before key (takes vars key hs)).segment 0) =
      hs.map fun head => if sameKey vars key head.row then [head.row] else [] := by
    refine List.ext_getElem (by simp) fun i hi _ => ?_
    simp only [List.length_mapIdx, List.length_map] at hi
    simp only [List.getElem_mapIdx, List.getElem_map, Plan.segment, Plan.before, h, takes, hi,
      getElem?_pos, Option.any_some, List.drop_zero, Nat.add_zero, Nat.sub_zero]
    split <;> rfl
  rw [Plan.taken, hsegments]
  clear hsegments
  induction hs with
  | nil => rfl
  | cons head hs ih =>
    simp only [List.map_cons, List.flatten_cons, ih, List.filter_cons]
    split <;> rfl

theorem exists_height_eq_zero (h : heads? lists = none) :
    ∃ i < lists.length, 0 = height lists i := by
  induction lists with
  | nil => simp [heads?] at h
  | cons rows lists ih =>
    cases rows with
    | nil => exact ⟨0, Nat.succ_pos _, rfl⟩
    | cons row rest =>
      rw [heads?, Option.map_eq_none_iff] at h
      obtain ⟨i, hi, hzero⟩ := ih h
      exact ⟨i + 1, Nat.succ_lt_succ hi, hzero⟩

/-- The round on heads goes by the rule. -/
theorem round_of_heads (vars : List String) (head : Head) (hs : List Head) :
    let heads := head :: hs
    let key := leastRow vars head.row (hs.map Head.row)
    (∃ i, row? (heads.map Head.rows) i 0 = some key) ∧
      ∀ i < (heads.map Head.rows).length, ∃ row, row? (heads.map Head.rows) i 0 = some row ∧
        (Row.compareBy vars key row).isLE ∧
        takes vars key heads i = if sameKey vars key row then 1 else 0 := by
  intro heads key
  constructor
  · have hmem : key ∈ heads.map Head.row := leastRow_mem vars head.row (hs.map Head.row)
    obtain ⟨i, hi, hkey⟩ := List.getElem_of_mem hmem
    rw [List.length_map] at hi
    rw [List.getElem_map] at hkey
    exact ⟨i, by rw [row?_heads hi, hkey]⟩
  · intro i hi
    rw [List.length_map] at hi
    refine ⟨heads[i].row, row?_heads hi, ?_, ?_⟩
    · refine leastRow_le vars head.row (hs.map Head.row) _ ?_
      rw [← List.map_cons]
      exact List.mem_map_of_mem (List.getElem_mem hi)
    · simp only [takes, hi, getElem?_pos, Option.any_some]

/-- Rounds that succeed have a plan that follows the rule and whose rows they are. -/
theorem exists_plan_of_rounds {out : List Row} (h : rounds vars lists = .ok out) :
    ∃ plan : Plan, plan.Follows vars lists ∧ out = plan.rows vars lists := by
  -- along the rounds, each of which puts itself in front of the plan of those behind it
  fun_induction rounds vars lists generalizing out with
  | case1 lists hnone =>
    obtain rfl : lists.flatten = out := by simpa using h
    refine ⟨.empty, ⟨fun _ => rfl, ?_, ?_, fun _ => exists_height_eq_zero hnone⟩, ?_⟩
    · exact fun k hk => absurd hk (Nat.not_lt_zero k)
    · exact fun k hk => absurd hk (Nat.not_lt_zero k)
    · exact Plan.rows_empty.symm
  | case2 lists hnil =>
    obtain rfl : lists = [] := eq_rows_of_heads hnil
    obtain rfl : [] = out := by simpa using h
    refine ⟨.empty, ⟨fun _ => rfl, ?_, ?_, fun hne => absurd rfl hne⟩, rfl⟩
    · exact fun k hk => absurd hk (Nat.not_lt_zero k)
    · exact fun k hk => absurd hk (Nat.not_lt_zero k)
  | case3 lists head hs hheads rows v => simp at h
  | case4 lists head hs hheads rows hv key combinedRow =>
    rename_i ih
    cases hrest : rounds vars ((head :: hs).map (advance vars key)) with
    | error e =>
      rw [hrest] at h
      cases h
    | ok rest =>
      rw [hrest] at h
      cases h
      obtain ⟨plan, hfollows, hrows⟩ := ih hrest
      rw [map_advance] at hfollows hrows
      obtain ⟨hkey, hround⟩ := round_of_heads vars head hs
      rw [← eq_rows_of_heads hheads] at hfollows hrows hkey hround
      refine ⟨plan.before key (takes vars key (head :: hs)), hfollows.before hkey hround, ?_⟩
      rw [Plan.rows_before, ← hrows, Plan.combined, eq_rows_of_heads hheads,
        taken_before_zero _ _ hfollows.cursor_zero]
      rfl

theorem mergeRows_of_ne_nil (h : vars ≠ []) : mergeRows vars lists = rounds vars lists := by
  rw [mergeRows, if_neg (by simpa using h)]

/-- A merge that succeeds is made of rounds. -/
theorem rounds_of_mergeRows {out : List Row} (h : mergeRows vars lists = .ok out) :
    rounds vars lists = .ok out := by
  cases vars with
  | nil => cases h
  | cons v vars => rwa [mergeRows_of_ne_nil (List.cons_ne_nil v vars)] at h

/-- A merge that succeeds has a plan that follows the rule and whose rows it gives. -/
theorem exists_plan_of_mergeRows {out : List Row} (h : mergeRows vars lists = .ok out) :
    ∃ plan : Plan, plan.Follows vars lists ∧ out = plan.rows vars lists :=
  exists_plan_of_rounds (rounds_of_mergeRows h)

end DataStep.Merge
