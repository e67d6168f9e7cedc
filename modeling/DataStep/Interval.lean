import DataStep.Calendar

/-!
# Date intervals

Days, weeks from Sunday to Saturday, months and years each divide the days into intervals that are
numbered by one increasing index. Counting from one day to another is a difference of indices;
advancing goes to the interval with an index further on and picks a day of it.
-/

set_option autoImplicit false

namespace DataStep

/-- A kind of interval. -/
inductive Interval where
  | day | week | month | year
  deriving DecidableEq, Repr

/-- Which day of an interval is meant. -/
inductive Alignment where
  | beginning | middle | ending | same
  deriving DecidableEq, Repr

/-- The first and the last day of an interval, and the day in it that corresponds to the day from
which it was reached. -/
structure IntervalDays where
  first : Int
  last : Int
  same : Int
  deriving DecidableEq, Repr

namespace Interval

/-- The interval kind of a lower-case word. -/
def ofWord? : String → Option Interval
  | "day" => some day
  | "week" => some week
  | "month" => some month
  | "year" => some year
  | _ => none

/-- The number of the interval that holds a day. Day 2 is a Sunday. -/
def index (interval : Interval) (d : Int) : Int :=
  match interval with
  | day => d
  | week => (d - 2) / 7
  | month => 12 * (Date.ofDay d).year + (Date.ofDay d).month
  | year => (Date.ofDay d).year

/-- How many interval boundaries lie between two days, negative when the second comes first. -/
def count (interval : Interval) (start stop : Int) : Int :=
  interval.index stop - interval.index start

/-- The first year of the calendar. -/
abbrev firstYear : Int := -262143

/-- The last year of the calendar. -/
abbrev lastYear : Int := 262142

/-- The first day of a month, the months counted through the years; none outside the calendar. -/
def firstOfMonth? (index : Int) : Option Int :=
  let year := index / 12
  if firstYear ≤ year && year ≤ lastYear then
    some (Date.toDay ⟨year, (index % 12).toNat, 1⟩)
  else none

/-- The last day of a month: the day before the next month, which has to lie in the calendar. -/
def lastOfMonth? (index : Int) : Option Int := (firstOfMonth? (index + 1)).map (· - 1)

/-- The day of a month with a given number, or the last one of a shorter month. -/
def dayInMonth (year : Int) (month : Nat) (number : Nat) : Int :=
  Date.toDay ⟨year, month, min number (Calendar.monthLength year month)⟩

/-- The days of the interval that lies `n` intervals after the one that holds a day. -/
def advance? (interval : Interval) (d n : Int) : Option IntervalDays :=
  let date := Date.ofDay d
  match interval with
  | day => some ⟨d + n, d + n, d + n⟩
  | week =>
    -- the day of the week is kept
    let first := 7 * (week.index d + n) + 2
    some ⟨first, first + 6, d + 7 * n⟩
  | month => do
    let index := month.index d + n
    let first ← firstOfMonth? index
    let last ← lastOfMonth? index
    some ⟨first, last, dayInMonth (index / 12) (index % 12).toNat date.day⟩
  | year => do
    let target := date.year + n
    let first ← firstOfMonth? (12 * target)
    let last ← lastOfMonth? (12 * target + 11)
    -- only a leap day has to give way here
    some ⟨first, last, dayInMonth target date.month date.day⟩

end Interval

namespace Alignment

/-- The alignment of a lower-case word. -/
def ofWord? : String → Option Alignment
  | "b" | "beginning" => some beginning
  | "m" | "middle" => some middle
  | "e" | "end" => some ending
  | "s" | "same" | "sameday" => some same
  | _ => none

/-- The day of an interval that an alignment picks; the middle is rounded toward the first day. -/
def pick (alignment : Alignment) (days : IntervalDays) : Int :=
  match alignment with
  | beginning => days.first
  | middle => days.first + (days.last - days.first) / 2
  | ending => days.last
  | same => days.same

end Alignment

end DataStep
