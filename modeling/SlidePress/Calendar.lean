import SlidePress.Number.Places

/-! # Dates and times of day

Dates of the proleptic Gregorian calendar and points in time with an optional offset from universal
time, their written forms and their order.

* `Date.of?`, `Timestamp.of?`: only real dates and times are built.
* `Date.ordinal`: the number of a day, `1` for the first of January of the year one.
* `Date.iso`, `Timestamp.iso`: the international written form. -/

namespace SlidePress

/-- A calendar day. -/
structure Date where
  year : Nat
  month : Nat
  day : Nat
  deriving DecidableEq, Repr, Inhabited

/-- A point in time: a day, the time of day to the microsecond, and the offset from universal time
in seconds if it is known. -/
structure Timestamp where
  date : Date
  hour : Nat
  minute : Nat
  second : Nat
  microsecond : Nat
  offset : Option Int
  deriving DecidableEq, Repr, Inhabited

namespace Date

/-- A year with a 29th of February. -/
def leapYear (y : Nat) : Bool := y % 4 == 0 && (y % 100 != 0 || y % 400 == 0)

/-- The number of days of a month. -/
def daysIn (y m : Nat) : Nat :=
  if m = 2 then (if leapYear y then 29 else 28)
  else if m = 4 ∨ m = 6 ∨ m = 9 ∨ m = 11 then 30
  else 31

/-- The day with this year, month and day of the month, if there is one. -/
def of? (y m d : Nat) : Option Date :=
  if 1 ≤ y ∧ y ≤ 9999 ∧ 1 ≤ m ∧ m ≤ 12 ∧ 1 ≤ d ∧ d ≤ daysIn y m then some ⟨y, m, d⟩ else none

/-- The number of days in the year before a month begins. -/
def daysBefore (y : Nat) : Nat → Nat
  | 0 => 0
  | 1 => 0
  | m + 1 => daysBefore y m + daysIn y m

/-- The number of the day in its year, from 1. -/
def dayOfYear (d : Date) : Nat := daysBefore d.year d.month + d.day

/-- The number of a day, `1` for the first day of the year one. -/
def ordinal (d : Date) : Nat :=
  let y := d.year - 1
  y * 365 + y / 4 - y / 100 + y / 400 + d.dayOfYear

/-- The day of the week, `0` for Monday. -/
def weekday (d : Date) : Nat := (d.ordinal + 6) % 7

/-- A year, a month and a day with leading zeros and hyphens between. -/
def iso (d : Date) : String :=
  String.ofList (Number.padded 4 d.year ++ '-' :: Number.padded 2 d.month ++
    '-' :: Number.padded 2 d.day)

/-- The names of the days of the week, from Monday. -/
def dayNames : List String :=
  ["Monday", "Tuesday", "Wednesday", "Thursday", "Friday", "Saturday", "Sunday"]

/-- The names of the months. -/
def monthNames : List String :=
  ["January", "February", "March", "April", "May", "June", "July", "August", "September",
    "October", "November", "December"]

/-- The name of the day of the week. -/
def dayName (d : Date) : String := dayNames.getD d.weekday ""

/-- The name of the month. -/
def monthName (d : Date) : String := monthNames.getD (d.month - 1) ""

/-- The ordinal of the Monday that begins the first week of a year by the international rule: the
week with the first Thursday. -/
def firstMonday (y : Nat) : Int :=
  let jan1 : Int := ordinal ⟨y, 1, 1⟩
  let wd := (jan1 + 6) % 7
  let monday := jan1 - wd
  if 3 < wd then monday + 7 else monday

/-- Year, week and day of the week by the international rule. -/
def isoCalendar (d : Date) : Nat × Nat × Nat :=
  let n : Int := d.ordinal
  let y := if n < firstMonday d.year then d.year - 1
    else if firstMonday (d.year + 1) ≤ n then d.year + 1 else d.year
  (y, ((n - firstMonday y) / 7 + 1).toNat, d.weekday + 1)

end Date

namespace Timestamp

/-- The time with these parts, if there is one. -/
def of? (date : Date) (hour minute second microsecond : Nat) (offset : Option Int) :
    Option Timestamp :=
  let near : Bool := match offset with
    | some o => decide (-86400 < o ∧ o < 86400)
    | none => true
  if hour < 24 ∧ minute < 60 ∧ second < 60 ∧ microsecond < 1000000 ∧ near = true then
    some ⟨date, hour, minute, second, microsecond, offset⟩
  else none

/-- The written form of an offset: sign, hours, minutes, and seconds where there are any. -/
def offsetText (mark : List Char) (o : Int) : List Char :=
  let n := o.natAbs
  (if o < 0 then '-' else '+') :: Number.padded 2 (n / 3600) ++ mark ++
    Number.padded 2 (n / 60 % 60) ++
    (if n % 60 = 0 then [] else mark ++ Number.padded 2 (n % 60))

/-- The time of day. -/
def clock (t : Timestamp) : List Char :=
  Number.padded 2 t.hour ++ ':' :: Number.padded 2 t.minute ++ ':' :: Number.padded 2 t.second ++
    (if t.microsecond = 0 then [] else '.' :: Number.padded 6 t.microsecond)

/-- Day, time and offset, with `separator` between day and time. -/
def iso (separator : String) (t : Timestamp) : String :=
  String.ofList (t.date.iso.toList ++ separator.toList ++ t.clock ++
    (match t.offset with
      | some o => offsetText [':'] o
      | none => []))

/-- Microseconds since the beginning of the year one, by the clock on the wall. -/
def wall (t : Timestamp) : Int :=
  (((t.date.ordinal * 24 + t.hour : Int) * 60 + t.minute) * 60 + t.second) * 1000000 +
    t.microsecond

/-- Microseconds since the beginning of the year one, in universal time if the offset is known. -/
def instant (t : Timestamp) : Int := t.wall - t.offset.getD 0 * 1000000

/-- Two times are the same instant; a time with an offset is never the same as one without. -/
def same (s t : Timestamp) : Bool :=
  s.offset.isSome == t.offset.isSome && s.instant == t.instant

end Timestamp

/-- A number padded on the left with blanks to two places. -/
def Calendar.blankPadded (n : Nat) : List Char :=
  if n < 10 then ' ' :: Nat.toDigits 10 n else Nat.toDigits 10 n

/-- The hour on a twelve hour clock. -/
def Calendar.hour12 (h : Nat) : Nat := if h % 12 = 0 then 12 else h % 12

/-- What one letter after a percent sign stands for in a time pattern. -/
def Calendar.field (t : Timestamp) (c : Char) : Option (List Char) :=
  let d := t.date
  let two := Number.padded 2
  match c with
  | 'Y' => some (Nat.toDigits 10 d.year)
  | 'y' => some (two (d.year % 100))
  | 'C' => some (two (d.year / 100))
  | 'm' => some (two d.month)
  | 'd' => some (two d.day)
  | 'e' => some (Calendar.blankPadded d.day)
  | 'H' => some (two t.hour)
  | 'I' => some (two (Calendar.hour12 t.hour))
  | 'M' => some (two t.minute)
  | 'S' => some (two t.second)
  | 'f' => some (Number.padded 6 t.microsecond)
  | 'p' => some (if t.hour < 12 then ['A', 'M'] else ['P', 'M'])
  | 'A' => some d.dayName.toList
  | 'a' => some (d.dayName.toList.take 3)
  | 'B' => some d.monthName.toList
  | 'b' => some (d.monthName.toList.take 3)
  | 'h' => some (d.monthName.toList.take 3)
  | 'j' => some (Number.padded 3 d.dayOfYear)
  | 'u' => some (Nat.toDigits 10 (d.weekday + 1))
  | 'w' => some (Nat.toDigits 10 ((d.weekday + 1) % 7))
  | 'U' => some (two ((d.dayOfYear + 6 - (d.weekday + 1) % 7) / 7))
  | 'W' => some (two ((d.dayOfYear + 6 - d.weekday) / 7))
  | 'G' => some (Number.padded 4 d.isoCalendar.1)
  | 'V' => some (two d.isoCalendar.2.1)
  | 'F' => some (Nat.toDigits 10 d.year ++ '-' :: two d.month ++ '-' :: two d.day)
  | 'D' => some (two d.month ++ '/' :: two d.day ++ '/' :: two (d.year % 100))
  | 'x' => some (two d.month ++ '/' :: two d.day ++ '/' :: two (d.year % 100))
  | 'T' => some (two t.hour ++ ':' :: two t.minute ++ ':' :: two t.second)
  | 'X' => some (two t.hour ++ ':' :: two t.minute ++ ':' :: two t.second)
  | 'R' => some (two t.hour ++ ':' :: two t.minute)
  | 'r' => some (two (Calendar.hour12 t.hour) ++ ':' :: two t.minute ++ ':' :: two t.second ++
      ' ' :: (if t.hour < 12 then ['A', 'M'] else ['P', 'M']))
  | 'c' => some (d.dayName.toList.take 3 ++ ' ' :: d.monthName.toList.take 3 ++
      ' ' :: Calendar.blankPadded d.day ++ ' ' :: two t.hour ++ ':' :: two t.minute ++
      ':' :: two t.second ++ ' ' :: Nat.toDigits 10 d.year)
  | 'z' => some (match t.offset with
      | some o => Timestamp.offsetText [] o
      | none => [])
  | 'Z' => some (match t.offset with
      | some o => ['U', 'T', 'C'] ++ (if o = 0 then [] else Timestamp.offsetText [':'] o)
      | none => [])
  | 'n' => some ['\n']
  | 't' => some ['\t']
  | '%' => some ['%']
  | _ => none

/-- A time written by a pattern in which a percent sign and a letter stand for a part of it; other
pairs stay as they are. -/
def Calendar.format (t : Timestamp) : List Char → List Char
  | [] => []
  | '%' :: c :: r => (Calendar.field t c).getD ['%', c] ++ Calendar.format t r
  | c :: r => c :: Calendar.format t r

theorem Date.of?_eq_some_iff (y m d : Nat) (x : Date) :
    Date.of? y m d = some x ↔
      (1 ≤ y ∧ y ≤ 9999 ∧ 1 ≤ m ∧ m ≤ 12 ∧ 1 ≤ d ∧ d ≤ Date.daysIn y m) ∧ x = ⟨y, m, d⟩ := by
  unfold Date.of?
  split <;> rename_i h
  · simp [h, eq_comm]
  · simp [h]

end SlidePress
