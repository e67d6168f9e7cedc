import DataStep.Calendar
import Mathlib.Data.Int.SuccPred
import Mathlib.Order.Monotone.Basic

/-!
# The calendar

The years divide the days, and so do the months of a year: a day lies in the year and in the month
in which `Date.ofDay` puts it and in no other. So `Date.ofDay` and `Date.toDay` are inverse to each
other on the dates that there are (`toDay_ofDay`, `ofDay_toDay`).

Main statement: from one day to the next, `Date.ofDay` goes to the next day of the month, or else to
the first of the next month, or else to the first of the next year (`ofDay_succ`). With the date of
day zero this is the proleptic Gregorian calendar, for all days before and after, and no other
function on the days is like this (`eq_ofDay_of_next`).
-/

set_option autoImplicit false

namespace DataStep

namespace Calendar

/-! ## Years -/

/-- A year has 365 days, and one more if it is a leap year. -/
theorem yearStart_succ (year : Int) :
    yearStart (year + 1) = yearStart year + 365 + leapDays year := by
  have hleap : isLeap year = true ↔ year % 4 = 0 ∧ (year % 100 ≠ 0 ∨ year % 400 = 0) := by
    simp [isLeap]
  rw [yearStart, yearStart, leapDays, Int.add_sub_cancel]
  split
  · rename_i h
    rw [hleap] at h
    omega
  · rename_i h
    rw [hleap] at h
    omega

/-- What goes up with each step goes up with the numbers. -/
theorem lt_iff_of_lt_succ {f : Int → Int} (h : ∀ i, f i < f (i + 1)) {i j : Int} :
    f i < f j ↔ i < j :=
  (strictMono_int_of_lt_succ h).lt_iff_lt

theorem yearStart_lt_iff {year other : Int} : yearStart year < yearStart other ↔ year < other := by
  refine lt_iff_of_lt_succ fun year => ?_
  rw [yearStart_succ]
  omega

/-- **A day lies in its year.** -/
theorem yearStart_yearOfDay (day : Int) :
    yearStart (yearOfDay day) ≤ day ∧ day < yearStart (yearOfDay day + 1) := by
  -- the estimate is off by at most one year to either side
  have hestimate : yearStart (1960 + 400 * day / 146097 - 1) ≤ day ∧
      day < yearStart (1960 + 400 * day / 146097 + 1 + 1) := by
    simp only [yearStart, Int.add_sub_cancel]
    omega
  rw [yearOfDay]
  split
  · rw [Int.sub_add_cancel]
    exact ⟨hestimate.1, by assumption⟩
  · split
    · exact ⟨by assumption, hestimate.2⟩
    · omega

/-- The year of a day is the one in which the day lies. -/
theorem yearOfDay_eq {day year : Int} (h : yearStart year ≤ day)
    (hnext : day < yearStart (year + 1)) :
    yearOfDay day = year := by
  obtain ⟨hstart, hend⟩ := yearStart_yearOfDay day
  have hle : yearOfDay day < year + 1 := yearStart_lt_iff.1 (hstart.trans_lt hnext)
  have hge : year < yearOfDay day + 1 := yearStart_lt_iff.1 (h.trans_lt hend)
  omega

/-! ## Months -/

variable {leap dayOfYear month : Nat}

theorem monthStart_lt_succ (leap : Nat) (h : month < 12) :
    monthStart leap month < monthStart leap (month + 1) := by
  match month, h with
  | 0, _ | 1, _ | 2, _ | 3, _ | 4, _ | 5, _ | 6, _ | 7, _ | 8, _ | 9, _ | 10, _ | 11, _ =>
    simp only [monthStart]
    omega

theorem monthStart_mono (leap : Nat) : Monotone (monthStart leap) := by
  refine monotone_nat_of_le_succ fun month => ?_
  rcases Nat.lt_or_ge month 12 with h | h
  · exact (monthStart_lt_succ leap h).le
  · obtain ⟨k, rfl⟩ := Nat.exists_eq_add_of_le' h
    exact Nat.le_refl _

/-- The month of a day of the year is the one in which the day lies. -/
theorem monthOfYearDay_eq (hmonth : month < 12) (h : monthStart leap month ≤ dayOfYear)
    (hnext : dayOfYear < monthStart leap (month + 1)) : monthOfYearDay leap dayOfYear = month := by
  -- of the later months those have begun that come no later than this one
  have hbegun : ∀ j, monthStart leap (j + 1) ≤ dayOfYear ↔ j < month := by
    intro j
    refine ⟨fun hj => Nat.lt_of_not_le fun hle => ?_, fun hj => (monthStart_mono leap hj).trans h⟩
    exact absurd (hnext.trans_le (monthStart_mono leap (Nat.succ_le_succ hle))) (Nat.not_lt.2 hj)
  have hcount : ∀ k, ((List.range k).filter fun j => decide (j < month)).length = min k month := by
    intro k
    induction k with
    | zero => simp
    | succ k ih =>
      rw [List.range_succ, List.filter_append, List.length_append, ih]
      by_cases hk : k < month
      · simp [hk]
        omega
      · simp [hk]
        omega
  simp only [monthOfYearDay, hbegun, hcount]
  omega

/-- Every day of a year lies in one of its months. -/
theorem exists_month (h : dayOfYear < 365 + leap) : ∃ month < 12,
    monthStart leap month ≤ dayOfYear ∧ dayOfYear < monthStart leap (month + 1) := by
  have hbelow : ∀ k, dayOfYear < monthStart leap k → ∃ month < k,
      monthStart leap month ≤ dayOfYear ∧ dayOfYear < monthStart leap (month + 1) := by
    intro k
    induction k with
    | zero => exact fun hzero => absurd hzero (Nat.not_lt_zero _)
    | succ k ih =>
      intro hk
      rcases Nat.lt_or_ge dayOfYear (monthStart leap k) with hlt | hge
      · obtain ⟨month, hmonth, hlies⟩ := ih hlt
        exact ⟨month, Nat.lt_succ_of_lt hmonth, hlies⟩
      · exact ⟨k, Nat.lt_succ_self k, hge, hk⟩
  exact hbelow 12 h

/-- The days of a month fill the year up to the next month. -/
theorem monthStart_add_monthLength (year : Int) (h : month < 12) :
    monthStart (leapDays year) month + monthLength year month =
      monthStart (leapDays year) (month + 1) := by
  have hlt := monthStart_lt_succ (leapDays year) h
  rw [monthLength]
  omega

theorem monthLength_pos (year : Int) (h : month < 12) : 0 < monthLength year month :=
  Nat.sub_pos_of_lt (monthStart_lt_succ _ h)

end Calendar

/-! ## Dates -/

namespace Date

open Calendar

variable {date : Date} {day : Int}

/-- There is such a date. -/
def Valid (date : Date) : Prop :=
  date.month < 12 ∧ 1 ≤ date.day ∧ date.day ≤ monthLength date.year date.month

instance : Decidable date.Valid := inferInstanceAs (Decidable (_ ∧ _))

/-- The days of a date lie in its year. -/
theorem Valid.year_le (h : date.Valid) :
    yearStart date.year ≤ date.toDay ∧ date.toDay < yearStart (date.year + 1) := by
  obtain ⟨hmonth, hpos, hle⟩ := h
  have hfill := monthStart_add_monthLength date.year hmonth
  have hyear : monthStart (leapDays date.year) (date.month + 1) ≤ 365 + leapDays date.year :=
    monthStart_mono _ (show date.month + 1 ≤ 12 from hmonth)
  rw [yearStart_succ, toDay]
  omega

/-- **A date is the date of its day.** -/
theorem ofDay_toDay (h : date.Valid) : ofDay date.toDay = date := by
  have hyear : yearOfDay date.toDay = date.year := yearOfDay_eq h.year_le.1 h.year_le.2
  obtain ⟨hmonth, hpos, hle⟩ := h
  have hfill := monthStart_add_monthLength date.year hmonth
  have hdayOfYear : (date.toDay - yearStart date.year).toNat =
      monthStart (leapDays date.year) date.month + (date.day - 1) := by
    rw [toDay]
    omega
  have hmonthOf : monthOfYearDay (leapDays date.year)
      (monthStart (leapDays date.year) date.month + (date.day - 1)) = date.month :=
    monthOfYearDay_eq hmonth (Nat.le_add_right _ _) (by omega)
  rw [ofDay, hyear, hdayOfYear, hmonthOf, Nat.add_sub_cancel_left, Nat.sub_add_cancel hpos]

/-- Every day is the day of a date. -/
theorem exists_toDay_eq (day : Int) : ∃ date : Date, date.Valid ∧ date.toDay = day := by
  obtain ⟨hstart, hend⟩ := yearStart_yearOfDay day
  rw [yearStart_succ] at hend
  obtain ⟨n, hn⟩ := Int.le.dest hstart
  generalize yearOfDay day = year at *
  obtain ⟨month, hmonth, hle, hlt⟩ := exists_month (show n < 365 + leapDays year by omega)
  have hfill := monthStart_add_monthLength year hmonth
  refine ⟨⟨year, month, n - monthStart (leapDays year) month + 1⟩, ⟨hmonth, ?_, ?_⟩, ?_⟩
  · exact Nat.le_add_left _ _
  · dsimp only
    omega
  · rw [toDay]
    dsimp only
    omega

theorem valid_ofDay (day : Int) : (ofDay day).Valid := by
  obtain ⟨date, hvalid, rfl⟩ := exists_toDay_eq day
  rwa [ofDay_toDay hvalid]

/-- **A day is the day of its date.** -/
theorem toDay_ofDay (day : Int) : (ofDay day).toDay = day := by
  obtain ⟨date, hvalid, rfl⟩ := exists_toDay_eq day
  rw [ofDay_toDay hvalid]

/-! ## From day to day -/

/-- The date after a date. -/
def next (date : Date) : Date :=
  if date.day < monthLength date.year date.month then ⟨date.year, date.month, date.day + 1⟩
  else if date.month < 11 then ⟨date.year, date.month + 1, 1⟩
  else ⟨date.year + 1, 0, 1⟩

theorem Valid.next (h : date.Valid) : date.next.Valid := by
  obtain ⟨hmonth, hpos, hle⟩ := h
  rw [Date.next]
  split
  · exact ⟨hmonth, Nat.le_add_left _ _, by assumption⟩
  · split
    · exact ⟨by dsimp only; omega, Nat.le_refl _, monthLength_pos _ (by dsimp only; omega)⟩
    · exact ⟨Nat.zero_lt_succ _, Nat.le_refl _, monthLength_pos _ (Nat.zero_lt_succ _)⟩

theorem toDay_next (h : date.Valid) : date.next.toDay = date.toDay + 1 := by
  obtain ⟨hmonth, hpos, hle⟩ := h
  have hfill := monthStart_add_monthLength date.year hmonth
  rw [Date.next]
  split
  · rw [toDay, toDay]
    dsimp only
    omega
  · rename_i hfull
    split
    · rw [toDay, toDay]
      dsimp only
      omega
    · -- the year ends with its last month
      have hlast : date.month = 11 := by omega
      rw [toDay, toDay, yearStart_succ]
      rw [hlast] at hfill hle hfull
      simp only [monthStart, hlast] at hfill ⊢
      omega

/-- The date of day zero. -/
theorem ofDay_zero : ofDay 0 = ⟨1960, 0, 1⟩ := by decide

/-- **From one day to the next the date goes to the next one.** -/
theorem ofDay_succ (day : Int) : ofDay (day + 1) = (ofDay day).next := by
  have hvalid := valid_ofDay day
  rw [← ofDay_toDay hvalid.next, toDay_next hvalid, toDay_ofDay]

/-- There is no other calendar that has this date on day zero and goes from one day to the next like
this, forth and back. -/
theorem eq_ofDay_of_next {calendar : Int → Date} (hvalid : ∀ day, (calendar day).Valid)
    (hzero : calendar 0 = ⟨1960, 0, 1⟩) (hnext : ∀ day, calendar (day + 1) = (calendar day).next) :
    calendar = ofDay := by
  have hday : ∀ day, (calendar day).toDay = day := by
    intro day
    induction day using Int.induction_on with
    | zero => rw [hzero, ← ofDay_zero, toDay_ofDay]
    | succ n ih => rw [hnext, toDay_next (hvalid _), ih]
    | pred n ih =>
      have hback := hnext (-(n : Int) - 1)
      rw [Int.sub_add_cancel] at hback
      rw [hback, toDay_next (hvalid _)] at ih
      omega
  funext day
  rw [← ofDay_toDay (hvalid day), hday]

end Date

end DataStep
