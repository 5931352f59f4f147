import Docroot.Proofs.Date.Reading

/-!
# Dates in the form of HTTP

A date of HTTP has one length: the day of the week and the month by their short names, the day of
the month with two digits, the year with four, and the time of day in Greenwich.  The date of a
time has this form as long as its year does; a year beyond 9999 makes it longer, and a time too
far away has no date at all.

## Main definitions

* `IsNumeral` — a number with some number of digits, between two bounds.
* `IsHttpDate` — a text has the form of a date of HTTP.

## Main results

* `IsHttpDate.length_eq` — dates of HTTP have one length.
* `isHttpDate_dateOfMillis` — the date of a time with four digits in its year is one.
* `isHttpDate_httpDate_iff` — **the date of a time from 1970 on is a date of HTTP exactly if its
  year is at most 9999.**
-/

namespace Docroot

/-- The text is a number between two bounds, written with some number of digits. -/
structure IsNumeral (width low high : Nat) (s : Text) : Prop where
  length : s.length = width
  digits : ∀ c ∈ s, c.isDigit = true
  low : low ≤ Nat.ofDigitChars 10 s 0
  high : Nat.ofDigitChars 10 s 0 ≤ high

/-- The text has the form of a date of HTTP, such as `Sun, 06 Nov 1994 08:49:37 GMT`. -/
def IsHttpDate (s : Text) : Prop :=
  ∃ weekday ∈ weekdayNames, ∃ month ∈ monthNames, ∃ day year hour minute second : Text,
    IsNumeral 2 1 31 day ∧ IsNumeral 4 0 9999 year ∧ IsNumeral 2 0 23 hour
      ∧ IsNumeral 2 0 59 minute ∧ IsNumeral 2 0 60 second
      ∧ s = weekday.toList ++ ',' :: ' ' :: (day ++ ' ' :: (month.toList ++ ' ' :: (year
        ++ ' ' :: (hour ++ ':' :: (minute ++ ':' :: (second ++ [' ', 'G', 'M', 'T']))))))

/-- Dates of HTTP have one length. -/
theorem IsHttpDate.length_eq {s : Text} (h : IsHttpDate s) : s.length = 29 := by
  obtain ⟨weekday, hweekday, month, hmonth, day, year, hour, minute, second, hday, hyear, hhour,
    hminute, hsecond, rfl⟩ := h
  have hnames : ∀ name ∈ weekdayNames ++ monthNames, name.toList.length = 3 := by decide +kernel
  have hweekday' := hnames weekday (List.mem_append_left _ hweekday)
  have hmonth' := hnames month (List.mem_append_right _ hmonth)
  simp only [List.length_append, List.length_cons, List.length_nil, hweekday', hmonth', hday.length,
    hyear.length, hhour.length, hminute.length, hsecond.length]

/-! ### The date of a time -/

theorem isNumeral_padded {width low high n : Nat} (hwidth : (Nat.toDigits 10 n).length ≤ width)
    (hlow : low ≤ n) (hhigh : n ≤ high) : IsNumeral width low high (padded width n).toList where
  length := by rw [DateToken.length_padded, max_eq_left hwidth]
  digits := DateToken.isDigit_of_mem_padded
  low := by rwa [DateToken.ofDigitChars_padded]
  high := by rwa [DateToken.ofDigitChars_padded]

/-- **The date of a time whose year has at most four digits is a date of HTTP.** -/
theorem isHttpDate_dateOfMillis {ms : Int} (h : 0 ≤ yearOf ms) (hle : yearOf ms ≤ 9999) :
    IsHttpDate (dateOfMillis ms).toList := by
  have hday := isDay_dayOfNumber (ms / dayMillis)
  have htime : 0 ≤ ms % dayMillis ∧ ms % dayMillis < 86400000 := by
    unfold dayMillis
    omega
  have htwo : ∀ {n : Nat}, n < 100 → (Nat.toDigits 10 n).length ≤ 2 := fun hn =>
    (Nat.length_toDigits_le_iff (by decide) (by decide)).mpr hn
  have hfour : (Nat.toDigits 10 (yearOf ms).toNat).length ≤ 4 :=
    (Nat.length_toDigits_le_iff (by decide) (by decide)).mpr (by omega)
  rw [toList_dateOfMillis h]
  exact ⟨_, weekdayName_mem _, _, monthName_mem _, _, _, _, _, _,
    isNumeral_padded (htwo (by omega)) (by omega) (by omega),
    isNumeral_padded hfour (Nat.zero_le _) (by omega),
    isNumeral_padded (htwo (by omega)) (Nat.zero_le _) (by omega),
    isNumeral_padded (htwo (by omega)) (Nat.zero_le _) (by omega),
    isNumeral_padded (htwo (by omega)) (Nat.zero_le _) (by omega), rfl⟩

/-- A year beyond 9999 makes a date too long. -/
theorem not_isHttpDate_dateOfMillis {ms : Int} (h : 9999 < yearOf ms) :
    ¬ IsHttpDate (dateOfMillis ms).toList := by
  intro hdate
  have hlength := hdate.length_eq
  have hyear : ¬ (Nat.toDigits 10 (yearOf ms).toNat).length ≤ 4 := by
    rw [Nat.length_toDigits_le_iff (by decide) (by decide)]
    omega
  have hmonth := DateToken.isWord_monthName (isMonth_dayOfNumber (ms / dayMillis))
  rw [toList_dateOfMillis (by omega), DateToken.stampText] at hlength
  simp only [List.length_append, List.length_cons, List.length_nil, DateToken.length_padded,
    (DateToken.isWord_weekdayName _).length, hmonth.length] at hlength
  omega

/-! ### Times from 1970 on -/

/-- The time is too far away to have a date. -/
theorem not_isHttpDate_of_timeLimit_lt {t : Rat} (h : (timeLimit : Rat) < t) :
    ¬ IsHttpDate (httpDate t).toList := by
  intro hdate
  have hlength := hdate.length_eq
  rw [httpDate, if_pos (Or.inr h)] at hlength
  exact absurd hlength (by decide)

/-- The year of a time from 1970 on is from 1970 on. -/
theorem le_yearOf {ms : Int} (h : 0 ≤ ms) : 1970 ≤ yearOf ms := by
  have hbounds := dayOfYear_bounds (ms / dayMillis + epochShift)
  -- January and February of 1970 still belong to 1969 as it is reckoned
  simp only [yearOf, dayOfNumber]
  split <;>
  · simp only [marchDays, epochShift, dayMillis] at *
    omega

/-- **The date of a time from 1970 on is a date of HTTP exactly if its year is at most 9999.** -/
theorem isHttpDate_httpDate_iff {ms : Int} (h : 0 ≤ ms) :
    IsHttpDate (httpDate ms).toList ↔ yearOf ms ≤ 9999 := by
  have hyear := le_yearOf h
  by_cases hdate : HasDate ms
  · rw [httpDate_intCast hdate]
    refine ⟨fun hform => ?_, fun hle => isHttpDate_dateOfMillis (by omega) hle⟩
    by_contra hgt
    exact not_isHttpDate_dateOfMillis (by omega) hform
  · have hfar : timeLimit < ms := by
      unfold HasDate timeLimit at *
      omega
    refine iff_of_false (not_isHttpDate_of_timeLimit_lt (Rat.intCast_lt_intCast.mpr hfar)) ?_
    exact fun hle => hdate (HasFourDigitYear.hasDate ⟨by omega, hle⟩)

end Docroot
