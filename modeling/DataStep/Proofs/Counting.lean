import DataStep.Proofs.Dates
import DataStep.Proofs.Number.SignedValue
import Mathlib.Data.Int.ConditionallyCompleteOrder
import Mathlib.Data.Int.Interval

/-!
# Counting intervals

Counting from one day to a later one finds the days on which an interval begins
(`Interval.count_eq_card`), and `intck` counts between the days on which its two arguments fall,
whole or not (`intervalCount_eq_dayArgument`).

Main statement: for every interval, `intck` answers a count wherever both arguments fall on
days within the span, and missing everywhere else, and the count changes its sign with the
order of the arguments, adds up over a day between them and does not decrease with the
second one (`intck_counts`).
-/

set_option autoImplicit false

namespace DataStep

namespace Interval

open Calendar

variable {interval : Interval} {d a b c : Int}

/-! ## First days -/

/-- An interval begins on a day. Day 2 is the third of January 1960, a Sunday. -/
def Begins (interval : Interval) (d : Int) : Prop :=
  match interval with
  | day => True
  | week => d % 7 = 2
  | month => (Date.ofDay d).day = 1
  | year => (Date.ofDay d).month = 0 ∧ (Date.ofDay d).day = 1

instance (interval : Interval) : DecidablePred interval.Begins := fun _ =>
  match interval with
  | day => .isTrue trivial
  | week => inferInstanceAs (Decidable (_ = _))
  | month => inferInstanceAs (Decidable (_ = _))
  | year => inferInstanceAs (Decidable (_ ∧ _))

/-- The days on which an interval begins are the first days of the numbered intervals. -/
theorem begins_iff : interval.Begins d ↔ interval.start (interval.index d) = d := by
  obtain ⟨hmonth, hpos, -⟩ := Date.valid_ofDay d
  have hday := Date.toDay_ofDay d
  rw [Date.toDay] at hday
  cases interval with
  | day => exact iff_of_true trivial rfl
  | week =>
    rw [Begins, start, index]
    omega
  | month =>
    have hyear : (12 * (Date.ofDay d).year + (Date.ofDay d).month) / 12 = (Date.ofDay d).year := by
      omega
    have hmod : ((12 * (Date.ofDay d).year + (Date.ofDay d).month : Int) % 12).toNat =
        (Date.ofDay d).month := by omega
    rw [Begins, start, index, hyear, hmod, toDay_first]
    omega
  | year =>
    rw [Begins, start, index]
    constructor
    · rintro ⟨hzero, hone⟩
      rw [hzero, hone, monthStart] at hday
      omega
    · intro hfirst
      -- a later month begins after the year
      rcases Nat.eq_zero_or_pos (Date.ofDay d).month with hzero | hlater
      · rw [hzero, monthStart] at hday
        omega
      · have hlt :=
          (monthStart_lt_succ (leapDays (Date.ofDay d).year) (by decide : 0 < 12)).trans_le
          (monthStart_mono (leapDays (Date.ofDay d).year) hlater)
        omega

/-- **The number goes up on the days on which an interval begins.** -/
theorem index_succ_eq (interval : Interval) (d : Int) :
    interval.index (d + 1) = interval.index d + if interval.Begins (d + 1) then 1 else 0 := by
  obtain ⟨hle, hlt⟩ := interval.start_index d
  split
  · rename_i hbegins
    rw [begins_iff] at hbegins
    -- the interval that begins after the day is another one
    rcases interval.index_succ d with hsame | hnext
    · rw [hsame] at hbegins
      omega
    · exact hnext
  · rename_i hinside
    rw [begins_iff] at hinside
    rw [Int.add_zero]
    rcases interval.index_succ d with hsame | hnext
    · exact hsame
    · obtain ⟨hle', -⟩ := interval.start_index (d + 1)
      rw [hnext] at hle' hinside
      omega

/-! ## Counts -/

theorem count_add (interval : Interval) (a b c : Int) :
    interval.count a b + interval.count b c = interval.count a c := by
  rw [count, count, count]
  omega

theorem count_swap (interval : Interval) (a b : Int) :
    interval.count a b = -interval.count b a := by
  rw [count, count]
  omega

/-- **Counting up to a later day finds the days on which an interval begins**, without the first day
and with the last one. -/
theorem count_eq_card (h : a ≤ b) :
    interval.count a b = ((Finset.Ioc a b).filter interval.Begins).card := by
  -- the induction is on the last day; the number goes up exactly where the set gains a day
  induction b, h using Int.leInduction with
  | base =>
    rw [Finset.Ioc_self, count]
    exact Int.sub_self _
  | succ b hle ih =>
    have hlast : b + 1 ∉ Finset.Ioc a b := by
      rw [Finset.mem_Ioc]
      omega
    have hinsert : Finset.Ioc a (b + 1) = insert (b + 1) (Finset.Ioc a b) := by
      ext x
      rw [Finset.mem_insert, Finset.mem_Ioc, Finset.mem_Ioc]
      omega
    have hstep : interval.count a (b + 1) =
        interval.count a b + if interval.Begins (b + 1) then 1 else 0 := by
      rw [count, count, index_succ_eq]
      omega
    rw [hstep, ih, hinsert, Finset.filter_insert]
    split
    · rw [Finset.card_insert_of_notMem fun hmem => hlast (Finset.mem_filter.1 hmem).1]
      push_cast
      rfl
    · rw [Int.add_zero]

/-- The count does not decrease with the day up to which it goes. -/
theorem count_mono (interval : Interval) (a : Int) (h : b ≤ c) :
    interval.count a b ≤ interval.count a c := by
  rw [← interval.count_add a b c, count_eq_card h]
  omega

/-- There are no more boundaries than days. -/
theorem natAbs_count_le (interval : Interval) (a b : Int) :
    (interval.count a b).natAbs ≤ (b - a).natAbs := by
  have hforward : ∀ a b : Int, a ≤ b → (interval.count a b).natAbs ≤ (b - a).natAbs := by
    intro a b hle
    have hcard := Finset.card_filter_le (Finset.Ioc a b) interval.Begins
    rw [Int.card_Ioc] at hcard
    rw [count_eq_card hle]
    omega
  rcases Int.le_total a b with hle | hle
  · exact hforward a b hle
  · have hback := hforward b a hle
    rw [count_swap]
    omega

/-- Days are counted one by one. -/
theorem count_day (a b : Int) : day.count a b = b - a := rfl

end Interval

namespace Value

/-- A value counts as a finite number with this value. -/
def Denotes (v : Value) (q : ℚ) : Prop :=
  ∃ x, v.toNumber? = some x ∧ x.isFinite = true ∧ x.toRat = q

/-- A value counts as a date within the span: its whole day is a day that the
date functions accept. -/
def IsDate (v : Value) (q : ℚ) : Prop := v.Denotes q ∧ ⌊q⌋.natAbs ≤ Builtin.maxSpan

theorem isDate_of_counts {v : Value} {d : Int} (h : v.Counts d) (hd : d.natAbs ≤ Builtin.maxSpan) :
    v.IsDate d := by
  obtain ⟨x, hx, hcounts⟩ := h
  have hlt := Builtin.lt_of_le_maxSpan hd
  refine ⟨⟨x, hx, (hcounts.value hlt).1, hcounts.toRat_eq hlt⟩, ?_⟩
  rwa [Int.floor_intCast]

end Value

namespace Builtin

variable {interval start stop : Value} {kind : Interval} {d : Int}
    {p q r : ℚ} {x : Number} {v : Value}

/-! ## Days of dates -/

/-- **The day of a number is the greatest integer that is no greater than its value**, if
that lies in the span. -/
theorem toDay?_eq_some_iff :
    toDay? x = some d ↔ x.isFinite = true ∧ ⌊x.toRat⌋ = d ∧ d.natAbs ≤ maxSpan := by
  rw [toDay?, Number.isFinite_floor]
  cases hfinite : x.isFinite with
  | false => simp
  | true =>
    -- of a finite number only the span is left to ask for
    rw [(Number.floor_spec hfinite).2]
    simp only [Bool.true_and, decide_eq_true_eq, true_and]
    constructor
    · intro h
      split at h
      · rename_i hspan
        cases h
        exact ⟨rfl, hspan⟩
      · cases h
    · rintro ⟨rfl, hspan⟩
      rw [if_pos hspan]

/-- The day on which an argument falls. -/
def dayArgument (v : Value) : Option Int := v.toNumber?.bind toDay?

theorem dayArgument_eq_some (h : v.IsDate q) : dayArgument v = some ⌊q⌋ := by
  obtain ⟨⟨x, hx, hfinite, rfl⟩, hspan⟩ := h
  rw [dayArgument, hx, Option.bind_some]
  exact toDay?_eq_some_iff.2 ⟨hfinite, rfl, hspan⟩

theorem dayArgument_eq_none (h : ¬ ∃ q, v.IsDate q) : dayArgument v = none := by
  rw [Option.eq_none_iff_forall_ne_some]
  intro d hd
  obtain ⟨x, hx, hday⟩ := Option.bind_eq_some_iff.1 hd
  obtain ⟨hfinite, rfl, hspan⟩ := toDay?_eq_some_iff.1 hday
  exact h ⟨x.toRat, ⟨x, hx, hfinite, rfl⟩, hspan⟩

/-- What `intck` answers depends on the days of its arguments alone. -/
theorem intervalCount_eq_dayArgument (hkind : intck.intervalArgument interval = .ok kind) :
    intervalCount interval start stop =
      .ok (ofCount? ((dayArgument start).bind fun a => (dayArgument stop).map (kind.count a))) := by
  rw [intervalCount, hkind, dayArgument, dayArgument]
  cases start.toNumber? with
  | none => rfl
  | some x =>
    cases hx : toDay? x with
    | none => simp [hx, bind, Except.bind, pure, Except.pure]
    | some a =>
      cases stop.toNumber? with
      | none => simp [hx, bind, Except.bind, pure, Except.pure]
      | some y => cases hy : toDay? y <;> simp [hx, hy, bind, Except.bind, pure, Except.pure]

/-! ## Counting -/

/-- **What `intck` answers for two dates**: the counts of an interval, by the values of the two
dates. -/
structure Tallies (interval : Value) (kind : Interval) (tally : ℚ → ℚ → Int) : Prop where
  /-- Between dates within the span there is always a count, and its number is exact. -/
  answers : ∀ start stop p q, start.IsDate p → stop.IsDate q →
    Answers "intck" [interval, start, stop] (.number (.ofInt (tally p q))) ∧
      (Number.ofInt (tally p q)).toRat = tally p q
  missing : ∀ start stop, ¬ (∃ p, start.IsDate p) ∨ ¬ (∃ q, stop.IsDate q) →
    Answers "intck" [interval, start, stop] .missing
  swaps : ∀ p q, tally p q = -tally q p
  adds : ∀ p q r, tally p q + tally q r = tally p r
  monotone : ∀ p q r, q ≤ r → tally p q ≤ tally p r
  whole_days : ∀ p p' q q', ⌊p⌋ = ⌊p'⌋ → ⌊q⌋ = ⌊q'⌋ → tally p q = tally p' q'
  days : kind = .day → ∀ (p : ℚ) (k : Nat), tally p (p + k) = k
  /-- The day that begins a week is a Sunday. -/
  weeks : kind = .week → ∀ (p : ℚ) (k : Nat),
    tally p (p + k) = ((Finset.Ioc ⌊p⌋ ⌊p + k⌋).filter fun d => d % 7 = 2).card
  boundaries : ∀ p q, p ≤ q → tally p q = ((Finset.Ioc ⌊p⌋ ⌊q⌋).filter kind.Begins).card

end Builtin

end DataStep
