/-!
# The calendar

Days are counted from the first of January 1960 in the proleptic Gregorian calendar: a year is a
leap year if four divides it, unless a hundred does and four hundred does not. A date is a year, a
month counted from zero and a day of the month counted from one. `Date.toDay` counts the days up to
a date and `Date.ofDay` finds the date of a day.
-/

set_option autoImplicit false

namespace DataStep

/-- A date: a month from 0 to 11 and a day of the month from 1. -/
structure Date where
  year : Int
  month : Nat
  day : Nat
  deriving DecidableEq, Repr

namespace Calendar

/-- Whether a year has a leap day. -/
def isLeap (year : Int) : Bool :=
  year % 4 == 0 && (year % 100 != 0 || year % 400 == 0)

/-- How many leap days a year has. -/
def leapDays (year : Int) : Nat := if isLeap year then 1 else 0

/-- The day on which a year begins. -/
def yearStart (year : Int) : Int :=
  365 * year + (year - 1) / 4 - (year - 1) / 100 + (year - 1) / 400 - 715874

/-- The days of a year before a month, with the given number of leap days; twelve stands for the
end of the year. -/
def monthStart (leap : Nat) : Nat → Nat
  | 0 => 0
  | 1 => 31
  | 2 => 59 + leap
  | 3 => 90 + leap
  | 4 => 120 + leap
  | 5 => 151 + leap
  | 6 => 181 + leap
  | 7 => 212 + leap
  | 8 => 243 + leap
  | 9 => 273 + leap
  | 10 => 304 + leap
  | 11 => 334 + leap
  | _ => 365 + leap

/-- The number of days of a month. -/
def monthLength (year : Int) (month : Nat) : Nat :=
  monthStart (leapDays year) (month + 1) - monthStart (leapDays year) month

/-- The year of a day: an estimate by the mean length of a year is off by at most one. -/
def yearOfDay (day : Int) : Int :=
  let estimate := 1960 + 400 * day / 146097
  if day < yearStart estimate then estimate - 1
  else if yearStart (estimate + 1) ≤ day then estimate + 1
  else estimate

/-- The month of a day of the year: how many of the later months have begun. -/
def monthOfYearDay (leap dayOfYear : Nat) : Nat :=
  ((List.range 11).filter fun m => monthStart leap (m + 1) ≤ dayOfYear).length

end Calendar

namespace Date

open Calendar

/-- The date of a day. -/
def ofDay (day : Int) : Date :=
  let year := yearOfDay day
  -- the first of January is day zero of its year
  let dayOfYear := (day - yearStart year).toNat
  let month := monthOfYearDay (leapDays year) dayOfYear
  ⟨year, month, dayOfYear - monthStart (leapDays year) month + 1⟩

/-- The day of a date. -/
def toDay (date : Date) : Int :=
  yearStart date.year + monthStart (leapDays date.year) date.month + date.day - 1

end Date

end DataStep
