import Mathlib.Data.List.TakeWhile
import Docroot.Date.Reader
import Docroot.Proofs.Date.Calendar

/-!
# Dates that are written and read back

A date that was written is read piece by piece: its numbers have at most four digits and are
read as they were written, its words are read as whole words, and what stands between them ends
a piece.  The pieces have the lenient form, and all of the day, the month, the year and the time
of day is found in them; so the time that is read is the one that was written, to the second.

## Main definitions

* `weekdayNames` — the names of the days of the week.
* `DateToken.ofStamp` — the pieces of a date.

## Main results

* `DateToken.scan_padded`, `DateToken.scan_word` — a number and a word are read as one piece.
* `DateToken.scan_stampText` — the pieces of a date.
* `readLenient_ofStamp` — what the pieces of a date say.
* `parseDate_httpDate` — **the date of a time is read as that time, to the second.**
-/

namespace Docroot

/-- The short names of the days of the week. -/
def weekdayNames : List String := ["Sun", "Mon", "Tue", "Wed", "Thu", "Fri", "Sat"]

/-- A name out of a list is one of the list, if the one that stands in for others is. -/
theorem getD_mem {names : List String} {default : String} (h : default ∈ names) (k : Nat) :
    names.getD k default ∈ names := by
  rw [List.getD_eq_getElem?_getD]
  cases hname : names[k]? with
  | none => exact h
  | some name => exact List.mem_of_getElem? hname

theorem weekdayName_mem (n : Int) : weekdayName n ∈ weekdayNames :=
  getD_mem List.mem_cons_self n.toNat

theorem monthName_mem (n : Int) : monthName n ∈ monthNames :=
  getD_mem List.mem_cons_self (n - 1).toNat

namespace DateToken

variable {c : Char} {rest : Text}

/-- Where a piece does not go on it is complete, and the scan begins afresh. -/
theorem scanFrom_afresh {p : Pending}
    (h : advance p c = (flush p ++ (start c).1, (start c).2)) (rest : Text) :
    scanFrom p (c :: rest) = flush p ++ scanFrom .idle (c :: rest) := by
  rw [scanFrom_cons, h, scanFrom_cons, List.append_assoc]
  rfl

/-- A character may be a piece of its own. -/
theorem scanFrom_of_start {piece : DateToken} (h : start c = ([piece], .idle)) (rest : Text) :
    scanFrom .idle (c :: rest) = piece :: scanFrom .idle rest := by
  rw [scanFrom_cons, advance, h]
  rfl

/-! ### Numbers -/

/-- A number that has room for one more digit goes on with it. -/
theorem exists_addDigit {value significant : Nat} (hroom : significant < significantLimit)
    (hzero : significant = 0 → value = 0) (digits : Nat) (c : Char) :
    ∃ significant', significant' ≤ significant + 1
      ∧ (significant' = 0 → 10 * value + Text.digitValue c = 0)
      ∧ addDigit value significant digits c
        = .number (10 * value + Text.digitValue c) significant' (digits + 1) := by
  unfold addDigit
  by_cases hlead : significant = 0 ∧ Text.digitValue c = 0
  · obtain ⟨hnone, hdigit⟩ := hlead
    refine ⟨0, by omega, fun _ => ?_, ?_⟩
    · rw [hzero hnone, hdigit]
    · simp [hnone, hdigit, hzero hnone]
  · refine ⟨significant + 1, by omega, by omega, ?_⟩
    simp only [if_neg hlead]
    rw [if_pos hroom]

/-- A number goes on with all the digits that follow, as long as there is room for them. -/
theorem exists_scanFrom_digits {ds : Text} (hdigits : ∀ d ∈ ds, d.isDigit = true) (rest : Text)
    {value significant : Nat} (digits : Nat) (hroom : significant + ds.length ≤ significantLimit)
    (hzero : significant = 0 → value = 0) :
    ∃ significant', scanFrom (.number value significant digits) (ds ++ rest)
      = scanFrom (.number (Nat.ofDigitChars 10 ds value) significant' (digits + ds.length))
          rest := by
  induction ds generalizing value significant digits with
  | nil => exact ⟨significant, rfl⟩
  | cons d ds ih =>
    rw [List.length_cons] at hroom
    obtain ⟨significant', hle, hzero', hadd⟩ :=
      @exists_addDigit value significant (by omega) hzero digits d
    obtain ⟨significant'', hrest⟩ := ih (fun x hx => hdigits x (List.mem_cons_of_mem _ hx))
      (digits + 1) (by omega) hzero'
    refine ⟨significant'', ?_⟩
    rw [List.cons_append, scanFrom_cons, advance, if_pos (hdigits d List.mem_cons_self), hadd]
    simp only [List.nil_append]
    rw [hrest, Nat.ofDigitChars_cons, List.length_cons]
    congr 2
    omega

/-- **Digits are read as one number.** -/
theorem scan_digits {ds : Text} (hne : ds ≠ []) (hdigits : ∀ d ∈ ds, d.isDigit = true)
    (hroom : ds.length ≤ significantLimit) (hc : c.isDigit = false) (rest : Text) :
    scanFrom .idle (ds ++ c :: rest)
      = .number (Nat.ofDigitChars 10 ds 0) ds.length :: scanFrom .idle (c :: rest) := by
  -- a first digit begins a number of no digits that goes on with it
  have hbegin : scanFrom .idle (ds ++ c :: rest) = scanFrom (.number 0 0 0) (ds ++ c :: rest) := by
    cases ds with
    | nil => exact absurd rfl hne
    | cons d ds =>
      have hd := hdigits d List.mem_cons_self
      rw [List.cons_append, scanFrom_cons, scanFrom_cons, advance, advance, start, if_pos hd,
        if_pos hd]
  obtain ⟨significant, hnumber⟩ := @exists_scanFrom_digits ds hdigits (c :: rest) 0 0 0
    (by omega) (fun _ => rfl)
  rw [hbegin, hnumber, scanFrom_afresh (by rw [advance, hc]; rfl), Nat.zero_add]
  rfl

theorem toList_padded (width n : Nat) :
    (padded width n).toList
      = List.replicate (width - (Nat.toDigits 10 n).length) '0' ++ Nat.toDigits 10 n :=
  String.toList_ofList

theorem isDigit_of_mem_padded {width n : Nat} :
    ∀ d ∈ (padded width n).toList, d.isDigit = true := by
  intro d hd
  rw [toList_padded] at hd
  rcases List.mem_append.mp hd with hd | hd
  · rw [(List.mem_replicate.mp hd).2]
    rfl
  · exact Nat.isDigit_of_mem_toDigits (by decide) (by decide) hd

/-- A number has as many digits as it is given room for, or as many as it needs. -/
theorem length_padded (width n : Nat) :
    (padded width n).toList.length = max width (Nat.toDigits 10 n).length := by
  rw [toList_padded, List.length_append, List.length_replicate]
  omega

theorem ofDigitChars_padded (width n : Nat) :
    Nat.ofDigitChars 10 (padded width n).toList 0 = n := by
  rw [toList_padded, Nat.ofDigitChars_append, Nat.ofDigitChars_replicate_zero, Nat.mul_zero,
    Nat.ofDigitChars_ten_toDigits]

/-- **A number written with at most so many digits** is read as it was written. -/
theorem scan_padded {width n : Nat} (hn : (Nat.toDigits 10 n).length ≤ width)
    (hwidth : width ≤ significantLimit) (hc : c.isDigit = false) (rest : Text) :
    scanFrom .idle ((padded width n).toList ++ c :: rest)
      = .number n width :: scanFrom .idle (c :: rest) := by
  have hlength : (padded width n).toList.length = width := by
    rw [length_padded, max_eq_left hn]
  have hne : (padded width n).toList ≠ [] := by
    rw [toList_padded]
    exact List.append_ne_nil_of_right_ne_nil _ Nat.toDigits_ne_nil
  rw [scan_digits hne isDigit_of_mem_padded (by omega) hc, ofDigitChars_padded, hlength]

/-! ### Words -/

/-- A word goes on with all its characters that follow. -/
theorem scanFrom_letters {w : Text} (hw : ∀ x ∈ w, isWordChar x = true) (letters rest : Text) :
    scanFrom (.word letters) (w ++ rest) = scanFrom (.word (w.reverse ++ letters)) rest := by
  induction w generalizing letters with
  | nil => rfl
  | cons x w ih =>
    rw [List.cons_append, scanFrom_cons, advance, if_pos (hw x List.mem_cons_self)]
    simp only [List.nil_append]
    rw [ih (fun y hy => hw y (List.mem_cons_of_mem _ hy)), List.reverse_cons, List.append_assoc,
      List.singleton_append]

theorem toNat_of_isWordChar (h : isWordChar c = true) : 65 ≤ c.toNat := by
  unfold isWordChar at h
  exact of_decide_eq_true (Bool.and_eq_true_iff.mp h).1

/-- A character of a word is neither a digit nor a sign. -/
theorem start_of_isWordChar (h : isWordChar c = true) : start c = ([], .word [c]) := by
  have hle := toNat_of_isWordChar h
  have hdigit : c.isDigit = false := by
    rw [Bool.eq_false_iff, Ne, Char.isDigit_iff_toNat]
    intro ⟨_, hlast⟩
    have hnine : '9'.toNat = 57 := rfl
    omega
  have hother : ∀ x : Char, x.toNat < 65 → (c == x) = false := by
    intro x hx
    refine beq_eq_false_iff_ne.mpr ?_
    rintro rfl
    omega
  rw [start, hdigit, hother ':' (by decide), hother '-' (by decide), hother '+' (by decide),
    hother '.' (by decide), hother ')' (by decide), h]
  rfl

/-- **A word is read as one piece.** -/
theorem scan_word {w : Text} (hne : w ≠ []) (hw : ∀ x ∈ w, isWordChar x = true)
    (hc : isWordChar c = false) (rest : Text) :
    scanFrom .idle (w ++ c :: rest)
      = .word (Keyword.ofWord w) w.length :: scanFrom .idle (c :: rest) := by
  cases w with
  | nil => exact absurd rfl hne
  | cons x w =>
    rw [List.cons_append, scanFrom_cons, advance, start_of_isWordChar (hw x List.mem_cons_self)]
    simp only [List.nil_append]
    rw [scanFrom_letters (fun y hy => hw y (List.mem_cons_of_mem _ hy)),
      scanFrom_afresh (by rw [advance, hc]; rfl), flush, List.reverse_append, List.reverse_reverse,
      List.length_append, List.length_reverse]
    rfl

theorem scan_space (rest : Text) : scanFrom .idle (' ' :: rest) = .space :: scanFrom .idle rest :=
  scanFrom_of_start rfl rest

theorem scan_colon (rest : Text) :
    scanFrom .idle (':' :: rest) = .mark ':' :: scanFrom .idle rest :=
  scanFrom_of_start rfl rest

/-! ### Names -/

/-- A text is a word with a meaning: all its characters belong to it. -/
structure IsWord (w : Text) (keyword : Keyword) : Prop where
  ne_nil : w ≠ []
  isWordChar : ∀ x ∈ w, DateToken.isWordChar x = true
  meaning : Keyword.ofWord w = keyword
  length : w.length = 3

instance (w : Text) (keyword : Keyword) : Decidable (IsWord w keyword) :=
  decidable_of_iff (w ≠ [] ∧ w.all DateToken.isWordChar = true ∧ Keyword.ofWord w = keyword
      ∧ w.length = 3)
    ⟨fun ⟨h₁, h₂, h₃, h₄⟩ => ⟨h₁, List.all_eq_true.mp h₂, h₃, h₄⟩,
      fun ⟨h₁, h₂, h₃, h₄⟩ => ⟨h₁, List.all_eq_true.mpr h₂, h₃, h₄⟩⟩

theorem IsWord.scan {w : Text} {keyword : Keyword} (h : IsWord w keyword)
    (hc : DateToken.isWordChar c = false) (rest : Text) :
    scanFrom .idle (w ++ c :: rest) = .word keyword 3 :: scanFrom .idle (c :: rest) := by
  rw [scan_word h.ne_nil h.isWordChar hc, h.meaning, h.length]

/-- The name of a day of the week has no meaning. -/
theorem isWord_weekdayName (n : Int) : IsWord (weekdayName n).toList .other := by
  have hall : ∀ name ∈ weekdayNames, IsWord name.toList .other := by
    decide +kernel
  exact hall _ (weekdayName_mem n)

/-- The name of a month means the month. -/
theorem isWord_monthName {m : Int} (hm : 1 ≤ m ∧ m ≤ 12) :
    IsWord (monthName m).toList (.month m.toNat) := by
  have hall : ∀ k ∈ List.range 12, IsWord (monthNames.getD k "Jan").toList (.month (k + 1)) := by
    decide +kernel
  have hmonth : m.toNat = (m - 1).toNat + 1 := by omega
  rw [hmonth]
  exact hall _ (List.mem_range.mpr (by omega))

/-! ### The pieces of a date -/

/-- The text of a date. -/
def stampText (weekday month : Text) (day year hour minute second : Nat) : Text :=
  weekday ++ ',' :: ' ' :: ((padded 2 day).toList ++ ' ' :: (month ++ ' '
    :: ((padded 4 year).toList ++ ' ' :: ((padded 2 hour).toList ++ ':'
    :: ((padded 2 minute).toList ++ ':' :: ((padded 2 second).toList ++ [' ', 'G', 'M', 'T']))))))

/-- The pieces of a date: a day, a month and a year between a word and a time of day. -/
def ofStamp (day month year hour minute second : Nat) : List DateToken :=
  [.word .other 3, .other, .space, .number day 2, .space, .word (.month month) 3, .space,
    .number year 4, .space, .number hour 2, .mark ':', .number minute 2, .mark ':',
    .number second 2, .space, .word (.zone 0) 3]

section Stamp

variable {weekday month : Text} {m day year hour minute second : Nat}
  (hweekday : IsWord weekday .other) (hmonth : IsWord month (.month m))

include hweekday hmonth

/-- No NUL ends the text of a date before its end. -/
theorem takeWhile_stampText :
    (stampText weekday month day year hour minute second).takeWhile (fun x => x.toNat ≠ 0)
      = stampText weekday month day year hour minute second := by
  have hword : ∀ {name : Text} {keyword : Keyword}, IsWord name keyword →
      ∀ x ∈ name, decide (x.toNat ≠ 0) = true := by
    intro name keyword hname x hx
    have hle := toNat_of_isWordChar (hname.isWordChar x hx)
    exact decide_eq_true (by omega)
  have hnumber : ∀ {width n : Nat}, ∀ x ∈ (padded width n).toList,
      decide (x.toNat ≠ 0) = true := by
    intro width n x hx
    have hle := (Char.isDigit_iff_toNat.mp (isDigit_of_mem_padded x hx)).1
    have hzero : '0'.toNat = 48 := rfl
    exact decide_eq_true (by omega)
  rw [List.takeWhile_eq_self_iff, stampText]
  simp only [List.forall_mem_append, List.forall_mem_cons]
  exact ⟨hword hweekday, rfl, rfl, hnumber, rfl, hword hmonth, rfl, hnumber, rfl, hnumber, rfl,
    hnumber, rfl, hnumber, rfl, rfl, rfl, rfl, by simp⟩

/-- **The text of a date is read in its pieces**: what stands between two of them ends the
first. -/
theorem scan_stampText (hday : day < 100) (hyear : year < 10000) (hhour : hour < 100)
    (hminute : minute < 100) (hsecond : second < 100) :
    scan (stampText weekday month day year hour minute second)
      = ofStamp day m year hour minute second := by
  have htwo : ∀ {n : Nat}, n < 100 → (Nat.toDigits 10 n).length ≤ 2 := fun hn =>
    (Nat.length_toDigits_le_iff (by decide) (by decide)).mpr hn
  have hfour : (Nat.toDigits 10 year).length ≤ 4 :=
    (Nat.length_toDigits_le_iff (by decide) (by decide)).mpr hyear
  rw [scan, takeWhile_stampText hweekday hmonth, stampText, hweekday.scan rfl,
    scanFrom_of_start rfl, scan_space, scan_padded (htwo hday) (by decide) rfl, scan_space,
    hmonth.scan rfl, scan_space, scan_padded hfour (by decide) rfl, scan_space,
    scan_padded (htwo hhour) (by decide) rfl, scan_colon,
    scan_padded (htwo hminute) (by decide) rfl, scan_colon,
    scan_padded (htwo hsecond) (by decide) rfl, scan_space]
  rfl

end Stamp

end DateToken

/-- A time is written with its year after a sign only if the year is below zero. -/
theorem toList_dateOfMillis {ms : Int} (h : 0 ≤ yearOf ms) :
    (dateOfMillis ms).toList
      = DateToken.stampText (weekdayName (weekday (ms / dayMillis))).toList
          (monthName (dayOfNumber (ms / dayMillis)).month).toList
          (dayOfNumber (ms / dayMillis)).day.toNat (yearOf ms).toNat
          (ms % dayMillis / 3600000).toNat (ms % dayMillis / 60000 % 60).toNat
          (ms % dayMillis / 1000 % 60).toNat := by
  have hyear : yearText (dayOfNumber (ms / dayMillis)).year = padded 4 (yearOf ms).toNat := by
    unfold yearOf at h
    rw [yearText, if_neg (by omega)]
    rfl
  have hcomma : ", ".toList = [',', ' '] := rfl
  have hspace : " ".toList = [' '] := rfl
  have hcolon : ":".toList = [':'] := rfl
  have hzone : " GMT".toList = [' ', 'G', 'M', 'T'] := rfl
  simp only [dateOfMillis, DateToken.stampText, hyear, String.toList_append, hcomma, hspace, hcolon,
    hzone, List.append_assoc, List.cons_append, List.nil_append]

/-! ### What the pieces say -/

/-- **What the pieces of a date say**: the numbers before the time are the day and the year, for
the month was named, and the zone is Greenwich. -/
theorem readLenient_ofStamp (day month year hour minute : Nat) {second : Nat}
    (hsecond : second < 60) :
    readLenient .unread (DateToken.ofStamp day month year hour minute second)
      = some ⟨⟨[(day : Int), (year : Int)], some month⟩, ⟨[hour, minute, second, 0], none⟩,
          ⟨some false, some 0, some 0⟩, true⟩ := by
  simp [DateToken.ofStamp, readLenient, DateParts.unread, startsNumber, ZoneParts.expects,
    TimeParts.expects, DateParts.addDay?, DateParts.addTime?, isSixtieth, hsecond, endsTime,
    DateParts.finishTime]

/-- A day of the month and a year that has more than two digits make up the day, once the month
is named. -/
theorem lenient?_eq_some {d : CalendarDay} (hyear : 100 ≤ d.year)
    (hmonth : 1 ≤ d.month ∧ d.month ≤ 12) (hday : 1 ≤ d.day ∧ d.day ≤ 31) :
    DayParts.lenient? ⟨[d.day, d.year], some d.month⟩ = some d := by
  have hfull : fullYear d.year = d.year := by
    unfold fullYear
    rw [if_neg (by omega), if_neg (by omega)]
  simp [DayParts.lenient?, isDay, isMonth, hday, hmonth, hfull]

/-- The time of day in Greenwich is counted from the beginning of the day. -/
theorem timeOf?_eq_some {d : CalendarDay} {hour minute second : Nat} (hhour : hour < 24)
    (hminute : minute < 60) (hsecond : second < 60) {t : Int}
    (ht : t = dayNumber d * dayMillis + ((hour * 60 + minute) * 60 + second) * 1000)
    (hlimit : -timeLimit ≤ t ∧ t ≤ timeLimit) :
    timeOf? d ⟨[hour, minute, second, 0], none⟩ ⟨some false, some 0, some 0⟩ = some t := by
  have htime : TimeParts.millis? ⟨[hour, minute, second, 0], none⟩
      = some (((hour * 60 + minute) * 60 + second) * 1000 : Int) := by
    simp [TimeParts.millis?, hhour, hminute, hsecond]
  have hzone : ZoneParts.millis? ⟨some false, some 0, some 0⟩ = some 0 := rfl
  rw [timeOf?, htime, hzone]
  simp only [Int.sub_zero, ← ht]
  exact if_pos hlimit

/-- **The date of a time is read as that time**, to the second. -/
theorem parseDate_dateOfMillis {ms : Int} (h : HasFourDigitYear ms) :
    parseDate (dateOfMillis ms).toList = some (ms / 1000 * 1000) := by
  have hbounds := bounds_of_hasFourDigitYear h
  have hyear : 0 ≤ yearOf ms := Int.le_trans (by decide) h.1
  have htext := toList_dateOfMillis hyear
  have hday := isDay_dayOfNumber (ms / dayMillis)
  have hmonth := isMonth_dayOfNumber (ms / dayMillis)
  have hnumber := dayNumber_dayOfNumber (ms / dayMillis)
  have hweekday := DateToken.isWord_weekdayName (weekday (ms / dayMillis))
  have hname := DateToken.isWord_monthName hmonth
  have htime : 0 ≤ ms % dayMillis ∧ ms % dayMillis < 86400000 := by
    unfold dayMillis
    omega
  unfold HasFourDigitYear yearOf at h
  unfold yearOf at htext
  -- the pieces of the text have the lenient form
  rw [parseDate, htext, DateToken.scan_stampText hweekday hname (by omega) (by omega) (by omega)
    (by omega) (by omega)]
  have hparts := readLenient_ofStamp (dayOfNumber (ms / dayMillis)).day.toNat
    (dayOfNumber (ms / dayMillis)).month.toNat (dayOfNumber (ms / dayMillis)).year.toNat
    (ms % dayMillis / 3600000).toNat (ms % dayMillis / 60000 % 60).toNat
    (by omega : (ms % dayMillis / 1000 % 60).toNat < 60)
  rw [Int.toNat_of_nonneg (by omega : 0 ≤ (dayOfNumber (ms / dayMillis)).day),
    Int.toNat_of_nonneg (by omega : 0 ≤ (dayOfNumber (ms / dayMillis)).month),
    Int.toNat_of_nonneg (by omega : 0 ≤ (dayOfNumber (ms / dayMillis)).year)] at hparts
  refine (congrArg (Option.bind · DateParts.millis?) hparts).trans ?_
  rw [Option.bind_some, DateParts.millis?, lenient?_eq_some (by omega) hmonth hday]
  refine timeOf?_eq_some (by omega) (by omega) (by omega) ?_ ?_
  · rw [hnumber]
    unfold dayMillis at *
    omega
  · unfold timeLimit
    omega

/-- A whole time that has a date is written as its date. -/
theorem httpDate_intCast {ms : Int} (h : HasDate ms) : httpDate ms = dateOfMillis ms := by
  have hlow : ¬ (ms : Rat) < -timeLimit := by
    rw [Rat.not_lt, ← Rat.intCast_neg]
    exact Rat.intCast_le_intCast.mpr h.1
  have hhigh : ¬ (timeLimit : Rat) < ms := Rat.not_lt.mpr (Rat.intCast_le_intCast.mpr h.2)
  rw [httpDate, if_neg (not_or.mpr ⟨hlow, hhigh⟩), truncate_intCast]

/-- **The header that dates a resource is read as the time of the resource**, to the second. -/
theorem parseDate_httpDate {ms : Int} (h : HasFourDigitYear ms) :
    parseDate (httpDate ms).toList = some (ms / 1000 * 1000) := by
  rw [httpDate_intCast h.hasDate]
  exact parseDate_dateOfMillis h

end Docroot
