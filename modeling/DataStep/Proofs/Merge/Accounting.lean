import DataStep.Proofs.Merge.Plan
import Mathlib.Algebra.Order.Ring.Nat

/-!
# Accounting for the rows of a merge

Every row of the lists goes to exactly one row of the result: a row that a round takes to the
combined row of the round, and any other row to its copy behind the rounds. `Plan.Accounts` says so
of a plan, together with what a single round may take, and `Plan.Ordered` says in which order the
keys come when the lists ascend. Main statement: every merge that succeeds has a plan that accounts
for its rows, and the plan is ordered if the lists are (`exists_plan_accounts`).
-/

set_option autoImplicit false

namespace DataStep.Merge

variable {vars : List String} {lists : List (List Row)}

namespace Plan

/-! ## What a plan says of each row -/

/-- A round takes the next row of a list. -/
def Takes (plan : Plan) (k i : Nat) : Prop := plan.cursor (k + 1) i = plan.cursor k i + 1

/-- The head of a list in a round. -/
def head? (plan : Plan) (lists : List (List Row)) (k i : Nat) : Option Row :=
  row? lists i (plan.cursor k i)

/-- Where in the result the row at a place goes: to the round that takes it, or else to its copy,
behind the rounds and behind what is left of the lists in front of its own. -/
def Home (plan : Plan) (lists : List (List Row)) (i j p : Nat) : Prop :=
  (p < plan.rounds ∧ plan.cursor p i = j ∧ plan.Takes p i) ∨
    (plan.cursor plan.rounds i ≤ j ∧
      p = plan.rounds + ((plan.left lists).take i).flatten.length +
        (j - plan.cursor plan.rounds i))

/-- The plan accounts for the rows of the lists in a result. -/
structure Accounts (plan : Plan) (vars : List String) (lists : List (List Row))
    (out : List Row) : Prop where
  /-- The combined rows of the rounds come first; what is left of the lists follows as it is. -/
  output : out = (List.range plan.rounds).map (plan.combined vars lists) ++
    (plan.left lists).flatten
  cursor_zero : ∀ i, plan.cursor 0 i = 0
  /-- A round takes no row of a list or the next one. -/
  step : ∀ k < plan.rounds, ∀ i < lists.length,
    plan.cursor (k + 1) i = plan.cursor k i ∨ plan.Takes k i
  cursor_le : ∀ k ≤ plan.rounds, ∀ i < lists.length, plan.cursor k i ≤ height lists i
  /-- A round takes a row. -/
  progress : ∀ k < plan.rounds, ∃ i < lists.length, plan.Takes k i
  /-- The rows that a round takes have one key. -/
  same_key : ∀ k < plan.rounds, ∀ i i' a b, plan.Takes k i → plan.Takes k i' →
    plan.head? lists k i = some a → plan.head? lists k i' = some b →
      Row.compareBy vars a b = .eq
  /-- A round takes every head with its key. -/
  every_head : ∀ k < plan.rounds, ∀ i i' a b, plan.Takes k i →
    plan.head? lists k i = some a → plan.head? lists k i' = some b →
      Row.compareBy vars a b = .eq → plan.Takes k i'
  exhausted : lists ≠ [] → ∃ i < lists.length, plan.cursor plan.rounds i = height lists i
  size : out.length = plan.rounds +
    ((List.range lists.length).map fun i => height lists i - plan.cursor plan.rounds i).sum
  /-- Every row of the lists goes to exactly one row of the result. -/
  home : ∀ i j, j < height lists i → ∃! p, p < out.length ∧ plan.Home lists i j p
  /-- That row is the combined row of a round that takes the row, or the row itself. -/
  at_home : ∀ i j p row, row? lists i j = some row → plan.Home lists i j p →
    (p < plan.rounds ∧ row ∈ plan.taken lists p ∧ out[p]? = some (plan.combined vars lists p)) ∨
      (plan.rounds ≤ p ∧ out[p]? = some row)

/-- The keys of the rounds ascend, and no row that is left lies below one of them. -/
structure Ordered (plan : Plan) (vars : List String) (lists : List (List Row)) : Prop where
  rounds_isLE : ∀ k k' i i' a b, k ≤ k' → k' < plan.rounds → plan.Takes k i → plan.Takes k' i' →
    plan.head? lists k i = some a → plan.head? lists k' i' = some b →
      (Row.compareBy vars a b).isLE
  left_isLE : ∀ k < plan.rounds, ∀ i a, plan.Takes k i → plan.head? lists k i = some a →
    ∀ b ∈ (plan.left lists).flatten, (Row.compareBy vars a b).isLE

/-! ## Cursors -/

namespace Follows

variable {plan : Plan} (h : plan.Follows vars lists) {k i : Nat}

include h

theorem takes_iff (hk : k < plan.rounds) {head : Row} (hhead : plan.head? lists k i = some head) :
    plan.Takes k i ↔ Row.compareBy vars (plan.key k) head = .eq := by
  obtain ⟨row, hrow, -, hnext⟩ := h.round k hk i (lt_length_of_row? hhead)
  obtain rfl : head = row := Option.some.inj (hhead.symm.trans hrow)
  rw [Takes, hnext, ← sameKey_iff]
  split
  case isTrue heq => exact ⟨fun _ => heq, fun _ => rfl⟩
  case isFalse hne => exact ⟨fun hone => by omega, fun heq => absurd heq hne⟩

theorem step (hk : k < plan.rounds) (hi : i < lists.length) :
    plan.cursor (k + 1) i = plan.cursor k i ∨ plan.Takes k i := by
  obtain ⟨row, -, -, hnext⟩ := h.round k hk i hi
  rw [Takes, hnext]
  split
  · exact .inr rfl
  · exact .inl rfl

theorem exists_takes (hk : k < plan.rounds) :
    ∃ i < lists.length, plan.Takes k i ∧ plan.head? lists k i = some (plan.key k) := by
  obtain ⟨i, hi⟩ := h.key_head k hk
  refine ⟨i, lt_length_of_row? hi, ?_, hi⟩
  exact (h.takes_iff hk hi).2 (compareBy_self vars (plan.key k))

theorem cursor_le (hk : k ≤ plan.rounds) (hi : i < lists.length) :
    plan.cursor k i ≤ height lists i := by
  cases k with
  | zero =>
    rw [h.cursor_zero]
    exact Nat.zero_le _
  | succ k =>
    obtain ⟨row, hrow, -, -⟩ := h.round k hk i hi
    have hlt : plan.cursor k i < height lists i := exists_row?_iff.1 ⟨row, hrow⟩
    have hstep := h.step hk hi
    unfold Takes at hstep
    omega

theorem cursor_mono {k' : Nat} (hkk : k ≤ k') (hk' : k' ≤ plan.rounds) (hi : i < lists.length) :
    plan.cursor k i ≤ plan.cursor k' i := by
  induction hkk with
  | refl => exact Nat.le_refl _
  | @step m _ ih =>
    show plan.cursor k i ≤ plan.cursor (m + 1) i
    have hle := ih (Nat.le_of_succ_le hk')
    have hstep := h.step (Nat.lt_of_succ_le hk') hi
    unfold Takes at hstep
    omega

/-- A row in front of the cursor was taken in some round. -/
theorem exists_round_of_lt (hk : k ≤ plan.rounds) (hi : i < lists.length) {j : Nat}
    (hj : j < plan.cursor k i) : ∃ p < k, plan.cursor p i = j ∧ plan.Takes p i := by
  induction k with
  | zero => simp [h.cursor_zero] at hj
  | succ k ih =>
    by_cases hjk : j < plan.cursor k i
    · obtain ⟨p, hp, hcursor, htakes⟩ := ih (Nat.le_of_succ_le hk) hjk
      exact ⟨p, Nat.lt_succ_of_lt hp, hcursor, htakes⟩
    · have hstep := h.step (Nat.lt_of_succ_le hk) hi
      unfold Takes at hstep ⊢
      exact ⟨k, Nat.lt_succ_self k, by omega, by omega⟩

/-- Two rounds that take one row of a list are the same round. -/
theorem round_unique {k' : Nat} (hk : k < plan.rounds) (hk' : k' < plan.rounds)
    (hi : i < lists.length) (hcursor : plan.cursor k i = plan.cursor k' i)
    (htakes : plan.Takes k i) (htakes' : plan.Takes k' i) : k = k' := by
  unfold Takes at htakes htakes'
  rcases Nat.lt_trichotomy k k' with hlt | rfl | hgt
  · have hle : plan.cursor (k + 1) i ≤ plan.cursor k' i :=
      h.cursor_mono hlt (Nat.le_of_lt hk') hi
    omega
  · rfl
  · have hle : plan.cursor (k' + 1) i ≤ plan.cursor k i :=
      h.cursor_mono hgt (Nat.le_of_lt hk) hi
    omega

theorem same_key (hk : k < plan.rounds) {i' : Nat} {a b : Row} (ha : plan.Takes k i)
    (hb : plan.Takes k i') (hra : plan.head? lists k i = some a)
    (hrb : plan.head? lists k i' = some b) : Row.compareBy vars a b = .eq :=
  Std.TransCmp.eq_trans (Std.OrientedCmp.eq_symm ((h.takes_iff hk hra).1 ha))
    ((h.takes_iff hk hrb).1 hb)

theorem every_head (hk : k < plan.rounds) {i' : Nat} {a b : Row} (ha : plan.Takes k i)
    (hra : plan.head? lists k i = some a) (hrb : plan.head? lists k i' = some b)
    (hab : Row.compareBy vars a b = .eq) : plan.Takes k i' :=
  (h.takes_iff hk hrb).2 (Std.TransCmp.eq_trans ((h.takes_iff hk hra).1 ha) hab)

end Follows

/-! ## Places in the result -/

theorem length_left (plan : Plan) (lists : List (List Row)) :
    (plan.left lists).length = lists.length := by simp [left, dropEach]

theorem length_flatten_left (plan : Plan) (lists : List (List Row)) :
    (plan.left lists).flatten.length =
      ((List.range lists.length).map fun i => height lists i - plan.cursor plan.rounds i).sum := by
  rw [List.length_flatten]
  congr 1
  refine List.ext_getElem (by simp [length_left]) fun i hi _ => ?_
  rw [List.length_map, length_left] at hi
  simp [left, dropEach, height_eq hi]

theorem length_rows (plan : Plan) (vars : List String) (lists : List (List Row)) :
    (plan.rows vars lists).length = plan.rounds + (plan.left lists).flatten.length := by
  rw [rows, List.length_append, List.length_map, List.length_range]

/-- A row that a round takes is one of the rows of the round. -/
theorem mem_taken {plan : Plan} {k i : Nat} {row : Row} (htakes : plan.Takes k i)
    (hrow : plan.head? lists k i = some row) : row ∈ plan.taken lists k := by
  obtain ⟨list, hlist, hget⟩ := row?_eq_some_iff.1 hrow
  refine List.mem_flatten.2 ⟨plan.segment k i list, ?_, ?_⟩
  · refine List.mem_of_getElem? (i := i) ?_
    rw [List.getElem?_mapIdx, hlist, Option.map_some]
  · have hone : plan.cursor (k + 1) i - plan.cursor k i = 1 := by
      unfold Takes at htakes
      omega
    refine List.mem_of_getElem? (i := 0) ?_
    rw [segment, hone, List.getElem?_take_of_lt Nat.one_pos, List.getElem?_drop]
    exact hget

end Plan

/-- A row of one of several lists stands in their concatenation behind the rows of the
lists in front of its own. -/
theorem getElem?_flatten {i j : Nat} {row : Row} (h : row? lists i j = some row) :
    lists.flatten[(lists.take i).flatten.length + j]? = some row := by
  obtain ⟨rows, hrows, hrow⟩ := row?_eq_some_iff.1 h
  induction lists generalizing i with
  | nil => simp at hrows
  | cons first lists ih =>
    cases i with
    | zero =>
      obtain rfl : first = rows := by simpa using hrows
      have hj := (List.getElem?_eq_some_iff.1 hrow).1
      simpa [List.getElem?_append_left hj] using hrow
    | succ i =>
      rw [List.getElem?_cons_succ] at hrows
      have hrest := ih (row?_eq_some_iff.2 ⟨rows, hrows, hrow⟩) hrows
      rw [List.take_succ_cons, List.flatten_cons, List.flatten_cons, List.length_append,
        Nat.add_assoc, List.getElem?_append_right (Nat.le_add_right _ _), Nat.add_sub_cancel_left]
      exact hrest

namespace Plan

theorem getElem?_rows_left (vars : List String) {plan : Plan} {i j : Nat} {row : Row}
    (h : row? lists i j = some row) (hj : plan.cursor plan.rounds i ≤ j) :
    (plan.rows vars lists)[plan.rounds + ((plan.left lists).take i).flatten.length +
      (j - plan.cursor plan.rounds i)]? = some row := by
  have hleft : row? (plan.left lists) i (j - plan.cursor plan.rounds i) = some row := by
    rw [left, row?_dropEach, Nat.add_sub_cancel' hj]
    exact h
  have hlen : ((List.range plan.rounds).map (plan.combined vars lists)).length = plan.rounds := by
    rw [List.length_map, List.length_range]
  rw [rows, Nat.add_assoc, List.getElem?_append_right (by omega), hlen, Nat.add_sub_cancel_left]
  exact getElem?_flatten hleft

theorem getElem?_rows_round {plan : Plan} {k : Nat} (hk : k < plan.rounds) :
    (plan.rows vars lists)[k]? = some (plan.combined vars lists k) := by
  rw [rows, List.getElem?_append_left (by simpa using hk), List.getElem?_map,
    List.getElem?_range hk, Option.map_some]

theorem Home.getElem? {plan : Plan} {i j p : Nat} {row : Row} (hhome : plan.Home lists i j p)
    (hrow : row? lists i j = some row) :
    (p < plan.rounds ∧ row ∈ plan.taken lists p ∧
        (plan.rows vars lists)[p]? = some (plan.combined vars lists p)) ∨
      (plan.rounds ≤ p ∧ (plan.rows vars lists)[p]? = some row) := by
  rcases hhome with ⟨hp, hcursor, htakes⟩ | ⟨hj, rfl⟩
  · rw [← hcursor] at hrow
    exact .inl ⟨hp, mem_taken htakes hrow, getElem?_rows_round hp⟩
  · exact .inr ⟨by omega, getElem?_rows_left vars hrow hj⟩

namespace Follows

variable {plan : Plan} (h : plan.Follows vars lists) {i j : Nat}

include h

/-- Every row of the lists has exactly one place in the result. -/
theorem existsUnique_home (hj : j < height lists i) :
    ∃! p, p < (plan.rows vars lists).length ∧ plan.Home lists i j p := by
  obtain ⟨row, hrow⟩ := exists_row?_iff.2 hj
  have hi : i < lists.length := lt_length_of_row? hrow
  by_cases hcase : j < plan.cursor plan.rounds i
  · obtain ⟨p, hp, hcursor, htakes⟩ := h.exists_round_of_lt (Nat.le_refl _) hi hcase
    refine ⟨p, ⟨?_, .inl ⟨hp, hcursor, htakes⟩⟩, ?_⟩
    · rw [length_rows]
      omega
    · rintro q ⟨-, ⟨hq, hcursor', htakes'⟩ | ⟨hle, -⟩⟩
      · exact h.round_unique hq hp hi (hcursor'.trans hcursor.symm) htakes' htakes
      · omega
  · have hle : plan.cursor plan.rounds i ≤ j := Nat.le_of_not_lt hcase
    have hget := getElem?_rows_left vars hrow hle
    refine ⟨_, ⟨(List.getElem?_eq_some_iff.1 hget).1, .inr ⟨hle, rfl⟩⟩, ?_⟩
    rintro q ⟨-, ⟨hq, hcursor', htakes'⟩ | ⟨-, rfl⟩⟩
    · -- the row was not taken: the cursor did not go past it
      have hmono : plan.cursor (q + 1) i ≤ plan.cursor plan.rounds i :=
        h.cursor_mono hq (Nat.le_refl _) hi
      unfold Takes at htakes'
      omega
    · rfl

/-! ## Order -/

/-- In ascending lists no row behind a cursor lies below the key of the round. -/
theorem key_isLE (hsorted : ∀ rows ∈ lists, Row.Ascending vars rows) {k : Nat}
    (hk : k < plan.rounds) {row : Row} (hrow : row? lists i j = some row)
    (hj : plan.cursor k i ≤ j) : (Row.compareBy vars (plan.key k) row).isLE := by
  obtain ⟨head, hhead, hle, -⟩ := h.round k hk i (lt_length_of_row? hrow)
  obtain ⟨list, hlist, hget⟩ := row?_eq_some_iff.1 hrow
  obtain ⟨list', hlist', hget'⟩ := row?_eq_some_iff.1 hhead
  obtain rfl : list = list' := Option.some.inj (hlist.symm.trans hlist')
  rcases Nat.eq_or_lt_of_le hj with heq | hlt
  · rw [heq, hget, Option.some.injEq] at hget'
    rwa [hget']
  · have hpair := List.pairwise_iff_getElem.1 (hsorted list (List.mem_of_getElem? hlist))
    obtain ⟨hj', rfl⟩ := List.getElem?_eq_some_iff.1 hget
    obtain ⟨hk', rfl⟩ := List.getElem?_eq_some_iff.1 hget'
    exact Row.compareBy_isLE_trans hle (hpair _ _ hk' hj' hlt)

/-- The keys of the rounds ascend if the lists do, and what is left does not lie below them. -/
theorem ordered (hsorted : ∀ rows ∈ lists, Row.Ascending vars rows) : plan.Ordered vars lists where
  rounds_isLE k k' i i' a b hkk hk' ha hb hra hrb := by
    have hk : k < plan.rounds := Nat.lt_of_le_of_lt hkk hk'
    have hkey := Std.OrientedCmp.eq_symm ((h.takes_iff hk hra).1 ha)
    have hle := h.cursor_mono hkk (Nat.le_of_lt hk') (lt_length_of_row? hrb)
    exact Row.compareBy_isLE_trans (Ordering.isLE_of_eq_eq hkey) (h.key_isLE hsorted hk hrb hle)
  left_isLE k hk i a ha hra b hb := by
    obtain ⟨list, hlist, hb⟩ := List.mem_flatten.1 hb
    obtain ⟨i', hi'⟩ := List.getElem?_of_mem hlist
    obtain ⟨j, hj⟩ := List.getElem?_of_mem hb
    have hplace : row? (plan.left lists) i' j = some b := row?_eq_some_iff.2 ⟨list, hi', hj⟩
    rw [left, row?_dropEach] at hplace
    have hkey := Std.OrientedCmp.eq_symm ((h.takes_iff hk hra).1 ha)
    have hmono := h.cursor_mono (Nat.le_of_lt hk) (Nat.le_refl _) (lt_length_of_row? hplace)
    exact Row.compareBy_isLE_trans (Ordering.isLE_of_eq_eq hkey)
      (h.key_isLE hsorted hk hplace (by omega))

end Follows

end Plan

/-- **A merge accounts for every row.** The rows of a merge that succeeds are those of its rounds,
in each of which every list gives its next row or none, and then the rows that are left, and every
row of the lists goes to exactly one of them. If the lists ascend in their keys, then so do the
rounds, and no row that is left lies below a round. -/
theorem exists_plan_accounts {out : List Row} (h : mergeRows vars lists = .ok out) :
    ∃ plan : Plan, plan.Accounts vars lists out ∧
      ((∀ rows ∈ lists, Row.Ascending vars rows) → plan.Ordered vars lists) := by
  obtain ⟨plan, hf, rfl⟩ := exists_plan_of_mergeRows h
  refine ⟨plan, ?_, hf.ordered⟩
  exact
    { output := rfl
      cursor_zero := hf.cursor_zero
      step := fun k hk i hi => hf.step hk hi
      cursor_le := fun k hk i hi => hf.cursor_le hk hi
      progress := fun k hk => by
        obtain ⟨i, hi, htakes, -⟩ := hf.exists_takes hk
        exact ⟨i, hi, htakes⟩
      same_key := fun k hk i i' a b ha hb hra hrb => hf.same_key hk ha hb hra hrb
      every_head := fun k hk i i' a b ha hra hrb hab => hf.every_head hk ha hra hrb hab
      exhausted := hf.exhausted
      size := by rw [Plan.length_rows, Plan.length_flatten_left]
      home := fun i j hj => hf.existsUnique_home hj
      at_home := fun i j p row hrow hhome => hhome.getElem? hrow }

/-- Control: of two lists that ascend, the first has its only key twice in the second; one round
takes the equal heads and the second list is copied from there on. -/
theorem exists_plan_accounts_repeated_key :
    let lists : List (List Row) :=
      [[.ofList [("id", .text "1"), ("a", .text "x")]],
        [.ofList [("id", .text "1"), ("b", .text "y")],
          .ofList [("id", .text "1"), ("b", .text "z")]]]
    let out : List Row :=
      [.ofList [("id", .text "1"), ("a", .text "x"), ("b", .text "y")],
        .ofList [("id", .text "1"), ("b", .text "z")]]
    mergeRows ["id"] lists = .ok out ∧ (∀ rows ∈ lists, Row.Ascending ["id"] rows) ∧
      ∃ plan : Plan, plan.Accounts ["id"] lists out ∧ plan.Ordered ["id"] lists := by
  intro lists out
  have hmerge : mergeRows ["id"] lists = .ok out := by decide +kernel
  have hsorted : ∀ rows ∈ lists, Row.Ascending ["id"] rows := by decide
  obtain ⟨plan, haccounts, hordered⟩ := exists_plan_accounts hmerge
  exact ⟨hmerge, hsorted, plan, haccounts, hordered hsorted⟩

end DataStep.Merge
