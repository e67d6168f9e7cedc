import DataStep.Interval
import DataStep.Proofs.Calendar

/-!
# Date intervals

The intervals of a kind divide the days: `Interval.start` is the first day of the interval
with a number, a day has the number of the interval in which it lies (`index_eq_iff`), and
the numbers leave none out (`index_succ`). So the interval that lies `n` intervals after the
one that holds a day is known by its number alone, and only the day in it that corresponds to
that day depends on more.

Main statement: where advancing reaches the calendar, it gives the first and the last day of exactly
the interval that it should, and a day of it that corresponds to the day from which it was reached
(`advances_of_advance?`).
-/

set_option autoImplicit false

namespace DataStep.Interval

open Calendar

variable {interval : Interval} {d n i x : Int} {days : IntervalDays}

/-! ## Numbered intervals -/

/-- The first day of the interval with a number. -/
def start (interval : Interval) (i : Int) : Int :=
  match interval with
  | day => i
  | week => 7 * i + 2
  | month => Date.toDay ⟨i / 12, (i % 12).toNat, 1⟩
  | year => yearStart i

theorem toDay_first (year : Int) (month : Nat) :
    Date.toDay ⟨year, month, 1⟩ = yearStart year + monthStart (leapDays year) month := by
  rw [Date.toDay]
  exact Int.add_sub_cancel _ _

theorem toNat_mod_lt (i : Int) : (i % 12).toNat < 12 := by omega

/-- A month is as long as it takes to the next one, also across the end of a year. -/
theorem start_month_succ (i : Int) :
    month.start (i + 1) = month.start i + monthLength (i / 12) (i % 12).toNat := by
  have hfill := monthStart_add_monthLength (i / 12) (toNat_mod_lt i)
  rw [start, start, toDay_first, toDay_first]
  by_cases hlast : i % 12 = 11
  · -- the last month ends with its year
    have hyear : (i + 1) / 12 = i / 12 + 1 := by omega
    have hmonth : ((i + 1) % 12).toNat = 0 := by omega
    rw [hyear, hmonth, yearStart_succ]
    rw [hlast] at hfill ⊢
    simp only [Int.reduceToNat, Nat.reduceAdd, monthStart] at hfill ⊢
    omega
  · have hyear : (i + 1) / 12 = i / 12 := by omega
    have hmonth : ((i + 1) % 12).toNat = (i % 12).toNat + 1 := by omega
    rw [hyear, hmonth]
    omega

/-- The intervals come one after another, in the order of their numbers. -/
theorem start_lt_iff {i j : Int} : interval.start i < interval.start j ↔ i < j := by
  refine lt_iff_of_lt_succ fun i => ?_
  cases interval with
  | day => exact Int.lt_succ i
  | week =>
    rw [start, start]
    omega
  | month =>
    rw [start_month_succ]
    have hpos := monthLength_pos (i / 12) (toNat_mod_lt i)
    omega
  | year => exact yearStart_lt_iff.2 (Int.lt_succ i)

/-- A day lies in the interval of its number. -/
theorem start_index (interval : Interval) (d : Int) :
    interval.start (interval.index d) ≤ d ∧ d < interval.start (interval.index d + 1) := by
  obtain ⟨hmonth, hpos, hle⟩ := Date.valid_ofDay d
  cases interval with
  | day => exact ⟨Int.le_refl d, Int.lt_succ d⟩
  | week =>
    rw [start, start, index]
    omega
  | month =>
    have hday := Date.toDay_ofDay d
    have hyear : (12 * (Date.ofDay d).year + (Date.ofDay d).month) / 12 = (Date.ofDay d).year := by
      omega
    have hmod : ((12 * (Date.ofDay d).year + (Date.ofDay d).month : Int) % 12).toNat =
        (Date.ofDay d).month := by omega
    rw [start_month_succ, start, index, hyear, hmod, toDay_first]
    rw [Date.toDay] at hday
    omega
  | year => exact yearStart_yearOfDay d

/-- **The number of a day is that of the interval in which the day lies.** -/
theorem index_eq_iff : interval.index x = i ↔
    interval.start i ≤ x ∧ x < interval.start (i + 1) := by
  obtain ⟨hle, hlt⟩ := interval.start_index x
  constructor
  · rintro rfl
    exact ⟨hle, hlt⟩
  · rintro ⟨hstart, hend⟩
    have hbelow : interval.index x < i + 1 := start_lt_iff.1 (hle.trans_lt hend)
    have habove : i < interval.index x + 1 := start_lt_iff.1 (hstart.trans_lt hlt)
    omega

/-- From one day to the next the number stays or goes up by one: the
intervals leave no number out. -/
theorem index_succ (interval : Interval) (d : Int) :
    interval.index (d + 1) = interval.index d ∨ interval.index (d + 1) = interval.index d + 1 := by
  obtain ⟨hle, hlt⟩ := interval.start_index d
  have hnext : interval.start (interval.index d + 1) < interval.start (interval.index d + 1 + 1) :=
    start_lt_iff.2 (Int.lt_succ _)
  rcases Int.lt_or_le (d + 1) (interval.start (interval.index d + 1)) with h | h
  · exact .inl (index_eq_iff.2 ⟨by omega, h⟩)
  · exact .inr (index_eq_iff.2 ⟨h, by omega⟩)

/-! ## The first and the last day -/

/-- The first and the last day of the interval with a number, if it lies in the calendar. -/
def bounds? (interval : Interval) (i : Int) : Option (Int × Int) :=
  match interval with
  | day => some (i, i)
  | week => some (7 * i + 2, 7 * i + 2 + 6)
  | month => do
    let first ← firstOfMonth? i
    let last ← lastOfMonth? i
    some (first, last)
  | year => do
    let first ← firstOfMonth? (12 * i)
    let last ← lastOfMonth? (12 * i + 11)
    some (first, last)

/-- **The first and the last day do not depend on the day but for its number.** -/
theorem advance?_bounds (interval : Interval) (d n : Int) :
    (interval.advance? d n).map (fun days => (days.first, days.last)) =
      interval.bounds? (interval.index d + n) := by
  cases interval with
  | day => rfl
  | week => rfl
  | month =>
    rw [advance?, bounds?]
    cases firstOfMonth? (month.index d + n) with
    | none => rfl
    | some first => cases lastOfMonth? (month.index d + n) <;> rfl
  | year =>
    rw [advance?, bounds?, index]
    cases firstOfMonth? (12 * ((Date.ofDay d).year + n)) with
    | none => rfl
    | some first => cases lastOfMonth? (12 * ((Date.ofDay d).year + n) + 11) <;> rfl

/-- The interval with a number begins in the calendar, and so does the one after it. -/
def InCalendar (interval : Interval) (i : Int) : Prop :=
  match interval with
  | day => True
  | week => True
  | month => firstYear ≤ i / 12 ∧ (i + 1) / 12 ≤ lastYear
  | year => firstYear ≤ i ∧ i + 1 ≤ lastYear

instance (interval : Interval) (i : Int) : Decidable (interval.InCalendar i) :=
  match interval with
  | day => .isTrue trivial
  | week => .isTrue trivial
  | month => inferInstanceAs (Decidable (_ ∧ _))
  | year => inferInstanceAs (Decidable (_ ∧ _))

/-- Both of two parts are there if what is made of them is. -/
theorem exists_of_both {α β γ : Type} {a : Option α} {b : Option β} {f : α → β → γ} {c : γ}
    (h : (do
      let first ← a
      let last ← b
      some (f first last)) = some c) :
        ∃ first last, a = some first ∧ b = some last ∧ f first last = c := by
  obtain ⟨first, hfirst, hrest⟩ := Option.bind_eq_some_iff.1 h
  obtain ⟨last, hlast, hc⟩ := Option.bind_eq_some_iff.1 hrest
  exact ⟨first, last, hfirst, hlast, Option.some.inj hc⟩

theorem isSome_firstOfMonth?_iff : (firstOfMonth? i).isSome ↔
    firstYear ≤ i / 12 ∧ i / 12 ≤ lastYear := by
  simp [firstOfMonth?]

theorem isSome_lastOfMonth?_iff :
    (lastOfMonth? i).isSome ↔ firstYear ≤ (i + 1) / 12 ∧ (i + 1) / 12 ≤ lastYear := by
  rw [lastOfMonth?, Option.isSome_map, isSome_firstOfMonth?_iff]

/-- **Advancing gives days exactly where it reaches the calendar.** -/
theorem isSome_advance?_iff :
    (interval.advance? d n).isSome ↔ interval.InCalendar (interval.index d + n) := by
  have hboth : ∀ {a b : Option Int}, (do
      let first ← a
      let last ← b
      some (first, last)).isSome ↔ a.isSome ∧ b.isSome := by
    intro a b
    cases a <;> cases b <;> simp
  have hbounds := congrArg Option.isSome (advance?_bounds interval d n)
  rw [Option.isSome_map] at hbounds
  rw [hbounds]
  generalize interval.index d + n = i
  cases interval with
  | day => simp [bounds?, InCalendar]
  | week => simp [bounds?, InCalendar]
  | month =>
    rw [bounds?, hboth, isSome_firstOfMonth?_iff, isSome_lastOfMonth?_iff, InCalendar]
    omega
  | year =>
    rw [bounds?, hboth, isSome_firstOfMonth?_iff, isSome_lastOfMonth?_iff, InCalendar]
    omega

theorem of_firstOfMonth? (h : firstOfMonth? i = some x) : x = month.start i := by
  rw [firstOfMonth?] at h
  split at h
  · exact (Option.some.inj h).symm
  · cases h

theorem of_lastOfMonth? (h : lastOfMonth? i = some x) : x = month.start (i + 1) - 1 := by
  obtain ⟨first, hfirst, rfl⟩ := Option.map_eq_some_iff.1 h
  rw [of_firstOfMonth? hfirst]

/-- A year begins with its first month. -/
theorem start_month_year (year : Int) : month.start (12 * year) = yearStart year := by
  have hyear : 12 * year / 12 = year := by omega
  have hmonth : (12 * year % 12).toNat = 0 := by omega
  rw [start, hyear, hmonth, toDay_first]
  exact Int.add_zero _

theorem of_bounds? {first last : Int} (h : interval.bounds? i = some (first, last)) :
    first = interval.start i ∧ last = interval.start (i + 1) - 1 := by
  cases interval with
  | day =>
    cases h
    exact ⟨rfl, (Int.add_sub_cancel i 1).symm⟩
  | week =>
    cases h
    rw [start, start]
    omega
  | month =>
    obtain ⟨a, b, ha, hb, hpair⟩ := exists_of_both h
    cases hpair
    exact ⟨of_firstOfMonth? ha, of_lastOfMonth? hb⟩
  | year =>
    obtain ⟨a, b, ha, hb, hpair⟩ := exists_of_both h
    cases hpair
    have hnext : 12 * i + 11 + 1 = 12 * (i + 1) := by omega
    rw [of_firstOfMonth? ha, of_lastOfMonth? hb, hnext, start_month_year, start_month_year]
    exact ⟨rfl, rfl⟩

/-! ## The corresponding day -/

/-- A day corresponds to another one, a number of intervals before: it is shifted by whole days or
weeks, or its date has the same day of the month, and in another year the same month, or the last
day of a month that is shorter. -/
def Corresponds (interval : Interval) (d n same : Int) : Prop :=
  let date := Date.ofDay d
  let reached := Date.ofDay same
  match interval with
  | day => same = d + n
  | week => same = d + 7 * n
  | month => reached.day = min date.day (monthLength reached.year reached.month)
  | year => reached.month = date.month ∧
      reached.day = min date.day (monthLength reached.year reached.month)

/-- A day of a month is found in this month. -/
theorem ofDay_dayInMonth (year : Int) {month number : Nat}
    (hmonth : month < 12) (hnumber : 1 ≤ number) :
    Date.ofDay (dayInMonth year month number) =
      ⟨year, month, min number (monthLength year month)⟩ := by
  rw [dayInMonth]
  apply Date.ofDay_toDay
  exact ⟨hmonth, Nat.le_min.2 ⟨hnumber, monthLength_pos year hmonth⟩, Nat.min_le_right _ _⟩

/-- **The corresponding day lies in the interval that is reached.** -/
theorem same_of_advance? (h : interval.advance? d n = some days) :
    interval.index days.same = interval.index d + n ∧ interval.Corresponds d n days.same := by
  obtain ⟨hmonth, hpos, -⟩ := Date.valid_ofDay d
  cases interval with
  | day =>
    cases h
    exact ⟨rfl, rfl⟩
  | week =>
    cases h
    refine ⟨?_, rfl⟩
    rw [index, index]
    dsimp only
    omega
  | month =>
    obtain ⟨first, last, -, -, hdays⟩ := exists_of_both h
    cases hdays
    generalize month.index d + n = i
    -- the month with a number is found again from the date of the day
    have hreached := ofDay_dayInMonth (i / 12) (toNat_mod_lt i) hpos
    rw [index, Corresponds]
    dsimp only
    rw [hreached]
    refine ⟨?_, rfl⟩
    dsimp only
    omega
  | year =>
    obtain ⟨first, last, -, -, hdays⟩ := exists_of_both h
    cases hdays
    have hreached := ofDay_dayInMonth ((Date.ofDay d).year + n) hmonth hpos
    rw [index, Corresponds]
    dsimp only
    rw [hreached]
    exact ⟨rfl, rfl, rfl⟩

/-! ## Advancing -/

/-- **What the days are that lie a number of intervals after a day**: the first and the last are
those of exactly this interval, and the third is a day of it that corresponds to the day. -/
structure Advances (interval : Interval) (d n : Int) (days : IntervalDays) : Prop where
  mem_iff : ∀ x, days.first ≤ x ∧ x ≤ days.last ↔ interval.index x = interval.index d + n
  same_mem : days.first ≤ days.same ∧ days.same ≤ days.last
  corresponds : interval.Corresponds d n days.same

theorem advances_of_advance? (h : interval.advance? d n = some days) :
    interval.Advances d n days := by
  have hbounds := advance?_bounds interval d n
  rw [h, Option.map_some] at hbounds
  obtain ⟨hfirst, hlast⟩ := of_bounds? hbounds.symm
  obtain ⟨hindex, hcorresponds⟩ := same_of_advance? h
  have hmem : ∀ x, days.first ≤ x ∧ x ≤ days.last ↔ interval.index x = interval.index d + n := by
    intro x
    rw [index_eq_iff, hfirst, hlast]
    omega
  exact ⟨hmem, (hmem _).2 hindex, hcorresponds⟩

namespace Advances

/-- There are no empty intervals, so their first days come first. -/
theorem pick_mem (h : interval.Advances d n days) (alignment : Alignment) :
    days.first ≤ alignment.pick days ∧ alignment.pick days ≤ days.last := by
  have hle : days.first ≤ days.last := h.same_mem.1.trans h.same_mem.2
  cases alignment with
  | beginning => exact ⟨Int.le_refl _, hle⟩
  | middle =>
    rw [Alignment.pick]
    omega
  | ending => exact ⟨hle, Int.le_refl _⟩
  | same => exact h.same_mem

/-- Counting to a day that an alignment picks gives the number of intervals. -/
theorem count_pick (h : interval.Advances d n days) (alignment : Alignment) :
    interval.count d (alignment.pick days) = n := by
  rw [count, (h.mem_iff _).1 (h.pick_mem alignment)]
  omega

end Advances

/-- **Advancing from a day of the interval that was reached is advancing further**, but for the
day that corresponds. -/
theorem advance?_pick (h : interval.advance? d n = some days) (m : Int)
    {alignment other : Alignment} (hother : other ≠ .same) :
    (interval.advance? (alignment.pick days) m).map other.pick =
      (interval.advance? d (n + m)).map other.pick := by
  have hadvances := advances_of_advance? h
  have hindex : interval.index (alignment.pick days) = interval.index d + n :=
    (hadvances.mem_iff _).1 (hadvances.pick_mem alignment)
  have hbounds : (interval.advance? (alignment.pick days) m).map
      (fun days => (days.first, days.last)) =
      (interval.advance? d (n + m)).map fun days => (days.first, days.last) := by
    rw [advance?_bounds, advance?_bounds, hindex, Int.add_assoc]
  -- all other alignments pick a day that the first and the last day determine
  obtain ⟨f, hf⟩ : ∃ f : Int × Int → Int,
      ∀ days : IntervalDays, other.pick days = f (days.first, days.last) := by
    cases other with
    | beginning => exact ⟨Prod.fst, fun _ => rfl⟩
    | middle => exact ⟨fun p => p.1 + (p.2 - p.1) / 2, fun _ => rfl⟩
    | ending => exact ⟨Prod.snd, fun _ => rfl⟩
    | same => exact absurd rfl hother
  have hpick : other.pick = f ∘ fun days => (days.first, days.last) := funext hf
  rw [hpick, ← Option.map_map, ← Option.map_map, hbounds]

end DataStep.Interval
