import Docroot.Date.Stamp

/-!
# Days and their numbers

The day that has a number is a day of the calendar, and its number is the one it was found by.
The year is the hard part: of 400 years, which have as many days as all others, each is found by
taking the leap days away from the days that have passed.

## Main definitions

* `yearOf` — the year in which a time falls.
* `HasFourDigitYear` — a time whose year is written with four digits.
* `HasDate` — a time that has a date.

## Main results

* `dayOfYear_bounds` — a day falls into the year that is found for it.
* `dayNumber_dayOfNumber` — **the day that has a number has that number.**
* `bounds_of_hasFourDigitYear` — a time whose year has four digits is not too far away to have a
  date.
-/

namespace Docroot

/-! ### The year of a day -/

/-- The days of 400 years are as many whatever year they begin with. -/
theorem marchDays_add_cycles (year cycles : Int) :
    marchDays (year + 400 * cycles) = marchDays year + 146097 * cycles := by
  simp only [marchDays]
  omega

/-- Of the first 400 years, the one that is found for a day is the one it falls into. -/
theorem dayOfYear_bounds_of_cycle {day year : Int} (hnonneg : 0 ≤ day) (hlt : day < 146097)
    (hyear : year = (day - day / 1460 + day / 36524 - day / 146096) / 365) :
    0 ≤ day - marchDays year ∧ day - marchDays year ≤ 365 := by
  have hfour : day / 36524 ≤ day / 1460 := by omega
  have hleap : year / 4 ≤ day / 1460 := by omega
  have hleap' : day / 1460 - 1 ≤ year / 4 := by omega
  have hcycle : year / 400 = 0 := by omega
  -- the last day of the cycle is the only one in a fifth century
  have hcentury : year / 100 = day / 36524 - day / 146096 := by
    have hfew : day / 36524 = 0 ∨ day / 36524 = 1 ∨ day / 36524 = 2 ∨ day / 36524 = 3
        ∨ day / 36524 = 4 := by omega
    rcases hfew with h | h | h | h | h <;> omega
  simp only [marchDays]
  omega

/-- A day falls into the year that is found for it. -/
theorem dayOfYear_bounds (n : Int) :
    0 ≤ n - marchDays (marchYear n) ∧ n - marchDays (marchYear n) ≤ 365 := by
  have hcycle := @dayOfYear_bounds_of_cycle (n % 146097) _ (by omega) (by omega) rfl
  rw [marchYear, marchDays_add_cycles]
  omega

/-! ### The day of a number -/

theorem isMonth_dayOfNumber (n : Int) :
    1 ≤ (dayOfNumber n).month ∧ (dayOfNumber n).month ≤ 12 := by
  have hbounds := dayOfYear_bounds (n + epochShift)
  simp only [dayOfNumber]
  split <;> omega

theorem isDay_dayOfNumber (n : Int) : 1 ≤ (dayOfNumber n).day ∧ (dayOfNumber n).day ≤ 31 := by
  have hbounds := dayOfYear_bounds (n + epochShift)
  simp only [dayOfNumber, monthDays]
  omega

/-- The months from March to December belong to the year as it is reckoned. -/
theorem dayNumber_of_march {year m day : Int} (hnonneg : 0 ≤ m) (hlt : m < 10) :
    dayNumber ⟨year, m + 3, day⟩ = marchDays year + monthDays m + day - 1 - epochShift := by
  have hmonth : (m + 3 + 9) % 12 = m := by omega
  rw [dayNumber]
  simp only [hmonth]
  rw [if_neg (by omega)]

/-- January and February belong to the year after it. -/
theorem dayNumber_of_january {year m day : Int} (hle : 10 ≤ m) (hlt : m < 12) :
    dayNumber ⟨year + 1, m - 9, day⟩ = marchDays year + monthDays m + day - 1 - epochShift := by
  have hmonth : (m - 9 + 9) % 12 = m := by omega
  rw [dayNumber]
  simp only [hmonth]
  rw [if_pos (by omega), Int.add_sub_cancel]

/-- **The day that has a number has that number.** -/
theorem dayNumber_dayOfNumber (n : Int) : dayNumber (dayOfNumber n) = n := by
  have hbounds := dayOfYear_bounds (n + epochShift)
  rw [dayOfNumber]
  generalize marchYear (n + epochShift) = year at *
  by_cases hm : (5 * (n + epochShift - marchDays year) + 2) / 153 < 10
  · rw [if_pos hm, if_neg (by omega), dayNumber_of_march (by omega) hm]
    omega
  · rw [if_neg hm, if_pos (by omega), dayNumber_of_january (by omega) (by omega)]
    omega

/-! ### The year of a time -/

/-- The year in which a time falls. -/
def yearOf (ms : Int) : Int := (dayOfNumber (ms / dayMillis)).year

/-- The year in which a time falls is written with four digits. -/
def HasFourDigitYear (ms : Int) : Prop := 1000 ≤ yearOf ms ∧ yearOf ms ≤ 9999

instance (ms : Int) : Decidable (HasFourDigitYear ms) :=
  inferInstanceAs (Decidable (_ ∧ _))

/-- The time is one that has a date. -/
def HasDate (ms : Int) : Prop := -timeLimit ≤ ms ∧ ms ≤ timeLimit

/-- A year begins at most two months before the March it is reckoned from. -/
theorem year_dayOfNumber (n : Int) :
    (dayOfNumber n).year = marchYear (n + epochShift)
      ∨ (dayOfNumber n).year = marchYear (n + epochShift) + 1 := by
  simp only [dayOfNumber]
  split <;> omega

/-- A time whose year has four digits has a date, and its milliseconds can be counted. -/
theorem bounds_of_hasFourDigitYear {ms : Int} (h : HasFourDigitYear ms) :
    -100000000000000 ≤ ms ∧ ms ≤ 300000000000000 := by
  have hbounds := dayOfYear_bounds (ms / dayMillis + epochShift)
  have hyear := year_dayOfNumber (ms / dayMillis)
  unfold HasFourDigitYear yearOf at h
  simp only [marchDays, epochShift, dayMillis] at *
  omega

theorem HasFourDigitYear.hasDate {ms : Int} (h : HasFourDigitYear ms) : HasDate ms := by
  have hbounds := bounds_of_hasFourDigitYear h
  unfold HasDate timeLimit
  omega

end Docroot
