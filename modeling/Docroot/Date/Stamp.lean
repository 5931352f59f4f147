import Docroot.Date.Calendar

/-!
# HTTP dates

Times are milliseconds from the beginning of 1970; an HTTP date writes one with whole
seconds, as in `Sun, 06 Nov 1994 08:49:37 GMT`.

## Main definitions

* `timeLimit` — the farthest time, either way, that has a date.
* `truncate` — a time without its fraction.
* `httpDate` — the date of a time.

## Main results

* `truncate_intCast` — whole times are not changed by truncation.
-/

namespace Docroot

/-- The farthest time, either way, that has a date. -/
def timeLimit : Int := 8640000000000000

/-- Milliseconds in a day. -/
def dayMillis : Int := 86400000

/-- The whole part of a number, towards zero. -/
def truncate (t : Rat) : Int := if t < 0 then -(-t).floor else t.floor

/-- The short name of a day of the week, Sunday being 0. -/
def weekdayName (n : Int) : String :=
  ["Sun", "Mon", "Tue", "Wed", "Thu", "Fri", "Sat"].getD n.toNat "Sun"

/-- The short names of the months. -/
def monthNames : List String :=
  ["Jan", "Feb", "Mar", "Apr", "May", "Jun", "Jul", "Aug", "Sep", "Oct", "Nov", "Dec"]

/-- The short name of a month. -/
def monthName (n : Int) : String := monthNames.getD (n - 1).toNat "Jan"

/-- A natural number with zeros before it, up to a width. -/
def padded (width n : Nat) : String :=
  let ds := Nat.toDigits 10 n
  String.ofList (List.replicate (width - ds.length) '0' ++ ds)

/-- A year with at least four digits. -/
def yearText (year : Int) : String :=
  if year < 0 then "-" ++ padded 4 (-year).toNat else padded 4 year.toNat

/-- The date of a whole time. -/
def dateOfMillis (ms : Int) : String :=
  let number := ms / dayMillis
  let rest := ms % dayMillis
  let d := dayOfNumber number
  weekdayName (weekday number) ++ ", " ++ padded 2 d.day.toNat ++ " " ++ monthName d.month ++ " "
    ++ yearText d.year ++ " " ++ padded 2 (rest / 3600000).toNat ++ ":"
    ++ padded 2 (rest / 60000 % 60).toNat ++ ":" ++ padded 2 (rest / 1000 % 60).toNat ++ " GMT"

/-- What stands for the date of a time that has none. -/
def invalidDate : String := "Invalid Date"

/-- The date of a time; a fraction of a millisecond is dropped. -/
def httpDate (t : Rat) : String :=
  if t < -timeLimit ∨ (timeLimit : Rat) < t then invalidDate else dateOfMillis (truncate t)

/-- Whole times are not changed by truncation. -/
theorem truncate_intCast (n : Int) : truncate (n : Rat) = n := by
  simp only [truncate]
  split
  · rw [← Rat.intCast_neg, Rat.floor_intCast]
    omega
  · exact Rat.floor_intCast n

end Docroot
