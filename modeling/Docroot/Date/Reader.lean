import Docroot.Date.Stamp
import Docroot.Date.Token

/-!
# Reading dates

Two forms of dates are read.  The first is strict: year, month and day joined by
hyphens, then perhaps a `T`, a time and a zone.  All else is read leniently: numbers
make up the day unless a colon, or their place after one, makes them part of the time.

## Main definitions

* `DayParts`, `TimeParts`, `ZoneParts` — what has been read of a date.
* `DateParts.millis?` — the time that the parts of a date give.
* `readStrict` — the strict form, or where it ends.
* `readLenient` — the lenient form.
* `parseDate` — the time that a text gives.

## Main results

* `readLenient_nil` — the defining equation at the end of a date.
-/

namespace Docroot

/-- The numbers read of a day, and the month if it was named. -/
structure DayParts where
  /-- At most three numbers, in order. -/
  numbers : List Int
  /-- The month that a word named. -/
  month : Option Int
  deriving DecidableEq, Repr, Inhabited

/-- The numbers read of a time: hour, minute, second and millisecond. -/
structure TimeParts where
  /-- At most four numbers, in order. -/
  numbers : List Nat
  /-- The hours that a word like `pm` adds. -/
  offset : Option Nat
  deriving DecidableEq, Repr, Inhabited

/-- What was read of a time zone. -/
structure ZoneParts where
  /-- The zone lies west of Greenwich. -/
  west : Option Bool
  /-- The hours from Greenwich. -/
  hour : Option Nat
  /-- The minutes from Greenwich. -/
  minute : Option Nat
  deriving DecidableEq, Repr, Inhabited

/-- What has been read of a date. -/
structure DateParts where
  /-- The day. -/
  day : DayParts
  /-- The time of day. -/
  time : TimeParts
  /-- The time zone. -/
  zone : ZoneParts
  /-- A number has been read, so that other words are no longer passed over. -/
  started : Bool
  deriving DecidableEq, Repr, Inhabited

/-- Nothing read yet. -/
def DateParts.unread : DateParts := ⟨⟨[], none⟩, ⟨[], none⟩, ⟨none, none, none⟩, false⟩

/-! ### From parts to a time -/

/-- A number of a month. -/
def isMonth (n : Int) : Bool := 1 ≤ n && n ≤ 12

/-- A number of a day in some month. -/
def isDay (n : Int) : Bool := 1 ≤ n && n ≤ 31

/-- A minute or second. -/
def isSixtieth (n : Nat) : Bool := n < 60

/-- Two-digit years belong to the years 1950 to 2049. -/
def fullYear (year : Int) : Int :=
  if 0 ≤ year ∧ year ≤ 49 then year + 2000
  else if 50 ≤ year ∧ year ≤ 99 then year + 1900
  else year

/-- The day that leniently read parts give. -/
def DayParts.lenient? (p : DayParts) : Option CalendarDay :=
  match p.numbers with
  | [] => none
  | first :: rest =>
    let second := rest.getD 0 1
    let third := rest.getD 1 1
    let (year, month, day) := match p.month with
      | some month => if isDay first then (second, month, first) else (first, month, second)
      | none => if isDay first then (third, first, second) else (first, second, third)
    if isMonth month && isDay day then some ⟨fullYear year, month, day⟩ else none

/-- The day that strictly read parts give. -/
def DayParts.strict? (p : DayParts) : Option CalendarDay :=
  match p.numbers with
  | [] => none
  | year :: rest => some ⟨year, rest.getD 0 1, rest.getD 1 1⟩

/-- The milliseconds since midnight that the parts of a time give; twenty-four o'clock is
the end of the day. -/
def TimeParts.millis? (p : TimeParts) : Option Int :=
  let hour := p.numbers.getD 0 0
  let minute := p.numbers.getD 1 0
  let second := p.numbers.getD 2 0
  let milli := p.numbers.getD 3 0
  let hour? := match p.offset with
    | none => some hour
    | some extra => if hour ≤ 12 then some (hour % 12 + extra) else none
  match hour? with
  | none => none
  | some hour =>
    if (hour < 24 ∧ minute < 60 ∧ second < 60 ∧ milli < 1000)
        ∨ (hour = 24 ∧ minute = 0 ∧ second = 0 ∧ milli = 0) then
      some ((((hour * 60 + minute) * 60 + second) * 1000 + milli : Nat) : Int)
    else none

/-- The largest number of seconds that a zone may be away from Greenwich. -/
def zoneLimit : Nat := 2147483647

/-- The seconds by which a zone is away from Greenwich, counted in a word of 32 bits. -/
def ZoneParts.seconds (p : ZoneParts) : Nat :=
  (UInt32.ofNat (p.hour.getD 0 * 3600 + p.minute.getD 0 * 60)).toNat

/-- The milliseconds by which a zone is ahead of Greenwich; no zone is Greenwich, and one
too far away is none at all. -/
def ZoneParts.millis? (p : ZoneParts) : Option Int :=
  match p.west with
  | none => some 0
  | some west =>
    if zoneLimit < p.seconds then none
    else
      let size : Int := (p.seconds * 1000 : Nat)
      some (if west then -size else size)

/-- The time of a day, a time of day and a zone, if it has a date. -/
def timeOf? (day : CalendarDay) (time : TimeParts) (zone : ZoneParts) : Option Int :=
  match time.millis?, zone.millis? with
  | some ms, some ahead =>
    let t := dayNumber day * dayMillis + ms - ahead
    if -timeLimit ≤ t ∧ t ≤ timeLimit then some t else none
  | _, _ => none

/-- The time that leniently read parts give. -/
def DateParts.millis? (p : DateParts) : Option Int :=
  match p.day.lenient? with
  | none => none
  | some day => timeOf? day p.time p.zone

/-! ### The strict form -/

/-- The first three digits of the fraction of a second, as milliseconds. -/
def fractionMillis (value digits : Nat) : Nat :=
  if digits = 1 then value * 100
  else if digits = 2 then value * 10
  else value / Nat.pow 10 (min digits DateToken.significantLimit - 3)

/-- How far the strict form went. -/
inductive StrictEnd
  /-- The whole text has the strict form. -/
  | complete (day : DayParts) (time : TimeParts) (zone : ZoneParts)
  /-- The text is no date in either form. -/
  | invalid
  /-- The text may still have the lenient form: the numbers read, and what follows. -/
  | lenient (numbers : List Int) (rest : List DateToken)
  deriving DecidableEq, Repr, Inhabited

/-- A zone at the end of a date in strict form. -/
def readStrictZone : List DateToken → Option ZoneParts
  | [] => some ⟨none, none, none⟩
  | [.word (.zone 0) 1] => some ⟨some false, some 0, some 0⟩
  | [.mark sign, .number n 4] =>
    if (sign == '+' || sign == '-') && n / 100 < 24 && n % 100 < 60 then
      some ⟨some (sign == '-'), some (n / 100), some (n % 100)⟩
    else none
  | [.mark sign, .number h 2, .mark ':', .number m 2] =>
    if (sign == '+' || sign == '-') && h < 24 && m < 60 then
      some ⟨some (sign == '-'), some h, some m⟩
    else none
  | _ => none

/-- The time of a date in strict form, after its `T`: hour and minute, perhaps seconds
and a fraction, perhaps a zone. -/
def readStrictTime (day : DayParts) (tokens : List DateToken) : StrictEnd :=
  let finish := fun (numbers : List Nat) (rest : List DateToken) =>
    match readStrictZone rest with
    | some zone => .complete day ⟨numbers, none⟩ zone
    | none => .invalid
  match tokens with
  | .number h 2 :: .mark ':' :: .number m 2 :: rest =>
    if h ≤ 24 ∧ m < 60 ∧ (h = 24 → m = 0) then
      match rest with
      | .mark ':' :: .number s 2 :: rest =>
        if s < 60 ∧ (h = 24 → s = 0) then
          match rest with
          | .mark '.' :: .number f digits :: rest =>
            if h = 24 → f = 0 then finish [h, m, s, fractionMillis f digits] rest else .invalid
          | _ => finish [h, m, s] rest
        else .invalid
      | _ => finish [h, m] rest
    else .invalid
  | _ => .invalid

/-- What follows the day of a date in strict form. -/
def readAfterDay (numbers : List Int) : List DateToken → StrictEnd
  | [] => .complete ⟨numbers, none⟩ ⟨[], none⟩ ⟨some false, some 0, some 0⟩
  | .word .timeMark _ :: rest => readStrictTime ⟨numbers, none⟩ rest
  | rest => .lenient numbers rest

/-- What follows the month of a date in strict form. -/
def readAfterMonth (numbers : List Int) : List DateToken → StrictEnd
  | .mark '-' :: .number d 2 :: rest =>
    if isDay d then readAfterDay (numbers ++ [(d : Int)]) rest
    else .lenient numbers (.number d 2 :: rest)
  | .mark '-' :: rest => .lenient numbers rest
  | rest => readAfterDay numbers rest

/-- What follows the year of a date in strict form. -/
def readAfterYear (numbers : List Int) : List DateToken → StrictEnd
  | .mark '-' :: .number m 2 :: rest =>
    if isMonth m then readAfterMonth (numbers ++ [(m : Int)]) rest
    else .lenient numbers (.number m 2 :: rest)
  | .mark '-' :: rest => .lenient numbers rest
  | rest => readAfterDay numbers rest

/-- The strict form.  A year with a sign has six digits and is not `-000000`. -/
def readStrict : List DateToken → StrictEnd
  | .mark '+' :: .number year 6 :: rest => readAfterYear [(year : Int)] rest
  | .mark '-' :: .number year 6 :: rest =>
    if year = 0 then .lenient [] (.mark '-' :: rest) else readAfterYear [-(year : Int)] rest
  | .number year 4 :: rest => readAfterYear [(year : Int)] rest
  | rest => .lenient [] rest

/-! ### The lenient form -/

/-- A number that a time of day expects next: a minute, a second or a millisecond. -/
def TimeParts.expects (p : TimeParts) (n : Nat) : Bool :=
  match p.numbers.length with
  | 1 => isSixtieth n
  | 2 => isSixtieth n
  | 3 => n < 1000
  | _ => false

/-- A number that a zone expects next: its minutes. -/
def ZoneParts.expects (p : ZoneParts) (n : Nat) : Bool :=
  p.hour.isSome && p.minute.isNone && isSixtieth n

/-- The zone is Greenwich. -/
def ZoneParts.isGreenwich (p : ZoneParts) : Bool := p.hour == some 0 && p.minute == some 0

/-- The parts with numbers of a time added; all four are given then. -/
def DateParts.finishTime (p : DateParts) (ns : List Nat) : DateParts :=
  let numbers := p.time.numbers ++ ns
  { p with
    time := { p.time with numbers := numbers ++ List.replicate (4 - numbers.length) 0 }
    started := true }

/-- The parts with one more number of a time, if there is room for it. -/
def DateParts.addTime? (p : DateParts) (n : Nat) : Option DateParts :=
  if p.time.numbers.length < 4 then
    some { p with time := { p.time with numbers := p.time.numbers ++ [n] }, started := true }
  else none

/-- The parts with one more number of a day, if there is room for it. -/
def DateParts.addDay? (p : DateParts) (n : Nat) : Option DateParts :=
  if p.day.numbers.length < 3 then
    some { p with day := { p.day with numbers := p.day.numbers ++ [(n : Int)] }, started := true }
  else none

/-- A piece that may stand right after a complete time. -/
def endsTime : List DateToken → Bool
  | [] => true
  | .space :: _ => true
  | .word (.zone _) 1 :: _ => true
  | .mark c :: _ => c == '+' || c == '-'
  | _ => false

/-- The zone that a sign and a number of so many digits give; a colon that follows
leaves the minutes open. -/
def signedZone? (west : Bool) (n digits : Nat) (colon : Bool) : Option ZoneParts :=
  if colon then some ⟨some west, some n, none⟩
  else if digits = 1 ∨ digits = 2 then some ⟨some west, some n, some 0⟩
  else if digits = 3 ∨ digits = 4 then some ⟨some west, some (n / 100), some (n % 100)⟩
  else none

/-- The first piece is a colon. -/
def startsColon : List DateToken → Bool
  | .mark c :: _ => c == ':'
  | _ => false

/-- The first piece is a number. -/
def startsNumber : List DateToken → Bool
  | .number _ _ :: _ => true
  | _ => false

/-- The lenient form, after the parts read so far. -/
def readLenient (p : DateParts) : List DateToken → Option DateParts
  | [] => some p
  | .number n _ :: .mark ':' :: .mark ':' :: rest =>
    if p.time.numbers = [] then
      readLenient { p with time := { p.time with numbers := [n, 0] }, started := true } rest
    else none
  | .number n _ :: .mark ':' :: .mark '.' :: rest =>
    (p.addTime? n).bind fun p => readLenient p rest
  | .number n _ :: .mark ':' :: rest => (p.addTime? n).bind fun p => readLenient p rest
  | .number n _ :: .mark '.' :: .number f digits :: rest =>
    if p.time.expects n then
      if p.time.numbers.length + 1 < 4 then
        readLenient (p.finishTime [n, fractionMillis f digits]) rest
      else readLenient (p.finishTime [n]) rest
    else if p.zone.expects n then
      readLenient { p with zone := { p.zone with minute := some n }, started := true }
        (.number f digits :: rest)
    else (p.addDay? n).bind fun p => readLenient p (.number f digits :: rest)
  | .number n _ :: .mark '.' :: rest =>
    if p.time.expects n then none
    else if p.zone.expects n then
      readLenient { p with zone := { p.zone with minute := some n }, started := true } rest
    else
      (p.addDay? n).bind fun p =>
        match rest with
        | .mark '-' :: rest => readLenient p rest
        | rest => readLenient p rest
  | .number n _ :: rest =>
    if p.zone.expects n then
      readLenient { p with zone := { p.zone with minute := some n }, started := true } rest
    else if p.time.expects n then
      if endsTime rest then readLenient (p.finishTime [n]) rest else none
    else
      (p.addDay? n).bind fun p =>
        match rest with
        | .mark '-' :: rest => readLenient p rest
        | rest => readLenient p rest
  | .word (.month m) _ :: rest =>
    let p := { p with day := { p.day with month := some m } }
    match rest with
    | .mark '-' :: rest => readLenient p rest
    | rest => readLenient p rest
  | .word keyword _ :: rest =>
    match keyword with
    | .halfDay hours =>
      if p.time.numbers ≠ [] then
        readLenient { p with time := { p.time with offset := some hours } } rest
      else if p.started || startsNumber rest then none
      else readLenient p rest
    | .zone hours =>
      if p.started then
        readLenient { p with zone := ⟨some (decide (hours < 0)), some hours.natAbs, some 0⟩ } rest
      else if startsNumber rest then none
      else readLenient p rest
    | _ => if p.started || startsNumber rest then none else readLenient p rest
  | .mark c :: rest =>
    if c == '+' || c == '-' then
      if p.zone.isGreenwich || p.time.numbers ≠ [] then
        match rest with
        | .number n digits :: rest =>
          (signedZone? (c == '-') n digits (startsColon rest)).bind fun zone =>
            readLenient { p with zone := zone, started := true } rest
        | rest =>
          (signedZone? (c == '-') 0 0 (startsColon rest)).bind fun zone =>
            readLenient { p with zone := zone, started := true } rest
      else if p.started then none
      else readLenient p rest
    else if c == ')' && p.started then none
    else readLenient p rest
  | .space :: rest => readLenient p rest
  | .other :: rest => readLenient p rest

/-- The time that a text gives, in milliseconds. -/
def parseDate (s : Text) : Option Int :=
  match readStrict (DateToken.scan s) with
  | .invalid => none
  | .complete day time zone => day.strict?.bind fun day => timeOf? day time zone
  | .lenient numbers rest =>
    let p := { DateParts.unread with day := ⟨numbers, none⟩, started := numbers ≠ [] }
    (readLenient p rest).bind DateParts.millis?

@[simp] theorem readLenient_nil (p : DateParts) : readLenient p [] = some p := by
  simp [readLenient]

end Docroot
