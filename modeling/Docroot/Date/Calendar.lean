/-!
# The calendar

Days are counted from 1 January 1970.  Years are reckoned from March to February, so
that the leap day comes last and the lengths of the months follow one formula.

## Main definitions

* `CalendarDay` — year, month and day of the Gregorian calendar, extended to all years.
* `marchDays` — the days before 1 March of a year, counted from 1 March of the year 0.
* `dayNumber` — the number of a day.
* `dayOfNumber` — the day that has a number.
* `weekday` — the day of the week.
-/

namespace Docroot

/-- A day of the calendar. -/
structure CalendarDay where
  /-- The year; 0 precedes 1. -/
  year : Int
  /-- The month, from 1 to 12. -/
  month : Int
  /-- The day of the month, from 1. -/
  day : Int
  deriving DecidableEq, Repr, Inhabited

/-- The days from 1 March of the year 0 to 1 March of a year. -/
def marchDays (year : Int) : Int := 365 * year + year / 4 - year / 100 + year / 400

/-- The days from 1 March to the first day of the `m`-th month after it. -/
def monthDays (m : Int) : Int := (153 * m + 2) / 5

/-- The days from 1 March of the year 0 to 1 January 1970. -/
def epochShift : Int := 719468

/-- The number of a day.  A day beyond the end of its month counts on into the next. -/
def dayNumber (d : CalendarDay) : Int :=
  let year := if d.month ≤ 2 then d.year - 1 else d.year
  marchDays year + monthDays ((d.month + 9) % 12) + d.day - 1 - epochShift

/-- The year, reckoned from March, in which the `n`-th day after 1 March of the year 0
falls. -/
def marchYear (n : Int) : Int :=
  let cycle := n / 146097
  let rest := n % 146097
  (rest - rest / 1460 + rest / 36524 - rest / 146096) / 365 + 400 * cycle

/-- The day that has a number. -/
def dayOfNumber (n : Int) : CalendarDay :=
  let n := n + epochShift
  let year := marchYear n
  let dayOfYear := n - marchDays year
  let m := (5 * dayOfYear + 2) / 153
  let month := if m < 10 then m + 3 else m - 9
  ⟨if month ≤ 2 then year + 1 else year, month, dayOfYear - monthDays m + 1⟩

/-- The day of the week of a numbered day, Sunday being 0. -/
def weekday (n : Int) : Int := (n + 4) % 7

end Docroot
