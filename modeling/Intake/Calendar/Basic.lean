/-!
# Dates and times of day

The proleptic Gregorian calendar of the years 1 to 9999. A day is also known by its ordinal, the
first of January of year 1 being day 1. A time of day counts microseconds and may carry an offset
from universal time of less than a day; a point in time without one is read as universal time where
two are compared.
-/

namespace Intake

/-- The years with a 29th of February. -/
def isLeapYear (year : Nat) : Bool :=
  year % 4 == 0 && (year % 100 != 0 || year % 400 == 0)

/-- How many days the months before a month have, in a common year. -/
def daysBeforeMonth : Nat → Nat
  | 1 => 0 | 2 => 31 | 3 => 59 | 4 => 90 | 5 => 120 | 6 => 151 | 7 => 181 | 8 => 212 | 9 => 243
  | 10 => 273 | 11 => 304 | 12 => 334 | _ => 365

/-- The number of days of a month. -/
def daysInMonth (year month : Nat) : Nat :=
  if month = 2 && isLeapYear year then 29
  else daysBeforeMonth (month + 1) - daysBeforeMonth month

/-- A year, month and day of the calendar. -/
structure Date where
  /-- The year, from 1 to 9999. -/
  year : Nat
  /-- The month, from 1. -/
  month : Nat
  /-- The day of the month, from 1. -/
  day : Nat
  /-- The day exists. -/
  valid : 1 ≤ year ∧ year ≤ 9999 ∧ 1 ≤ month ∧ month ≤ 12 ∧ 1 ≤ day ∧
    day ≤ daysInMonth year month
  deriving DecidableEq

namespace Date

/-- The date of three numbers, if there is such a day. -/
def of? (year month day : Nat) : Option Date :=
  if valid : 1 ≤ year ∧ year ≤ 9999 ∧ 1 ≤ month ∧ month ≤ 12 ∧ 1 ≤ day ∧
      day ≤ daysInMonth year month then
    some ⟨year, month, day, valid⟩
  else none

/-- A date is made of its own numbers. -/
theorem of?_self (d : Date) : of? d.year d.month d.day = some d := by
  simp only [of?, dif_pos d.valid]

/-- The number of days before a year. -/
def daysBeforeYear (year : Nat) : Nat :=
  let past := year - 1
  past * 365 + past / 4 - past / 100 + past / 400

/-- The ordinal of a year's first day. -/
def firstOrdinal (year : Nat) : Nat :=
  daysBeforeYear year + 1

/-- The ordinal of a date. -/
def ordinal (d : Date) : Nat :=
  daysBeforeYear d.year + daysBeforeMonth d.month +
    (if 2 < d.month && isLeapYear d.year then 1 else 0) + d.day

/-- The day of the week of an ordinal, Monday being 0. -/
def weekdayOf (ordinal : Nat) : Nat :=
  (ordinal + 6) % 7

/-- The date of a day of a year, counted from 0: the last month that starts on or before it. -/
def ofYearDay? (year dayOfYear : Nat) : Option Date :=
  let leap := if isLeapYear year then 1 else 0
  let start := fun month => daysBeforeMonth month + (if 2 < month then leap else 0)
  match ([12, 11, 10, 9, 8, 7, 6, 5, 4, 3, 2, 1]).find? fun month => start month ≤ dayOfYear with
  | some month => of? year month (dayOfYear - start month + 1)
  | none => none

/-- The year of an ordinal: an estimate from the mean length of a year, corrected by at most one. -/
def yearOfOrdinal (ordinal : Nat) : Nat :=
  let estimate := (ordinal * 400) / 146097 + 1
  if ordinal < firstOrdinal estimate then estimate - 1
  else if firstOrdinal (estimate + 1) ≤ ordinal then estimate + 1
  else estimate

/-- The date of an ordinal, if it lies in the years of the calendar. -/
def ofOrdinal? (ordinal : Nat) : Option Date :=
  let year := yearOfOrdinal ordinal
  ofYearDay? year (ordinal - firstOrdinal year)

/-- The ordinal of the Monday of a year's first week, the week that has its first Thursday. -/
def firstMonday (year : Nat) : Nat :=
  let first := firstOrdinal year
  let monday := first - weekdayOf first
  if 3 < weekdayOf first then monday + 7 else monday

/-- Whether a year has a 53rd week: it starts on a Thursday, or is a leap year starting on a
Wednesday. -/
def hasLongYear (year : Nat) : Bool :=
  let first := weekdayOf (firstOrdinal year)
  first == 3 || (first == 2 && isLeapYear year)

/-- The date of a day of the week, Monday being 1, of a numbered week. -/
def ofWeek? (year week weekday : Nat) : Option Date :=
  if 1 ≤ year ∧ 1 ≤ week ∧ (week ≤ 52 ∨ (week = 53 ∧ hasLongYear year)) ∧
      1 ≤ weekday ∧ weekday ≤ 7 then
    ofOrdinal? (firstMonday year + (week - 1) * 7 + (weekday - 1))
  else none

/-- The numbers of a date, the greatest unit first. -/
def numbers (d : Date) : List Nat := [d.year, d.month, d.day]

/-- The date comes earlier, by the first number in which the two differ. -/
def isBefore (a b : Date) : Bool := a.numbers < b.numbers

end Date

/-- The microseconds of a day. -/
def microsecondsPerDay : Nat := 86400000000

/-- A time of day, with an offset from universal time or without one. -/
structure ClockTime where
  /-- The hour, from 0. -/
  hour : Nat
  /-- The minute, from 0. -/
  minute : Nat
  /-- The second, from 0. -/
  second : Nat
  /-- The microsecond, from 0. -/
  microsecond : Nat
  /-- The offset from universal time in microseconds, positive to the east. -/
  offset : Option Int
  /-- All numbers are in their ranges. -/
  valid : hour < 24 ∧ minute < 60 ∧ second < 60 ∧ microsecond < 1000000 ∧
    ∀ o ∈ offset, o.natAbs < microsecondsPerDay
  deriving DecidableEq

namespace ClockTime

/-- The time of day of given numbers, if there is one. -/
def of? (hour minute second microsecond : Nat) (offset : Option Int) : Option ClockTime :=
  if valid : hour < 24 ∧ minute < 60 ∧ second < 60 ∧ microsecond < 1000000 ∧
      ∀ o ∈ offset, o.natAbs < microsecondsPerDay then
    some ⟨hour, minute, second, microsecond, offset, valid⟩
  else none

/-- A time of day is made of its own numbers. -/
theorem of?_self (t : ClockTime) :
    of? t.hour t.minute t.second t.microsecond t.offset = some t := by
  simp only [of?, dif_pos t.valid]

/-- The start of the day, without an offset. -/
def midnight : ClockTime := ⟨0, 0, 0, 0, none, by decide⟩

/-- The numbers of a time of day, the greatest unit first. -/
def numbers (t : ClockTime) : List Nat := [t.hour, t.minute, t.second, t.microsecond]

/-- The time of day with the offset of universal time where it has none. -/
def inUniversalTime (t : ClockTime) : ClockTime :=
  { t with
    offset := some (t.offset.getD 0)
    valid := by
      obtain ⟨hhour, hminute, hsecond, hmicrosecond, hoffset⟩ := t.valid
      refine ⟨hhour, hminute, hsecond, hmicrosecond, fun o ho => ?_⟩
      cases hown : t.offset with
      | none =>
        rw [hown] at ho
        cases ho
        decide
      | some own =>
        rw [hown] at ho hoffset
        exact hoffset o ho }

/-- The microseconds since the start of the day. -/
def sinceMidnight (t : ClockTime) : Nat :=
  ((t.hour * 60 + t.minute) * 60 + t.second) * 1000000 + t.microsecond

/-- The microseconds since the start of the day in universal time, which may be negative. -/
def instant (t : ClockTime) : Int :=
  (t.sinceMidnight : Int) - t.offset.getD 0

/-- The seconds since the start of the day in universal time, a part of a second in the offset being
counted as none towards the east and as a whole one towards the west. -/
def universalSecond (t : ClockTime) : Int :=
  ((t.hour * 60 + t.minute) * 60 + t.second : Nat) - Int.fdiv (t.offset.getD 0) 1000000

/-- The same time of day: both with or both without an offset, and the same microsecond of the same
second, in universal time if the offsets differ. -/
def sameAs (a b : ClockTime) : Bool :=
  if a.offset = b.offset then a.sinceMidnight == b.sinceMidnight
  else
    a.offset.isSome == b.offset.isSome && a.universalSecond == b.universalSecond &&
      a.microsecond == b.microsecond

/-- The time of day comes earlier, in universal time if the offsets differ. -/
def isBefore (a b : ClockTime) : Bool :=
  if a.offset = b.offset then a.sinceMidnight < b.sinceMidnight
  else
    a.universalSecond < b.universalSecond ||
      (a.universalSecond == b.universalSecond && a.microsecond < b.microsecond)

end ClockTime

/-- A date with a time of day. -/
structure DateTime where
  /-- The day. -/
  date : Date
  /-- The time of that day. -/
  time : ClockTime
  deriving DecidableEq

namespace DateTime

/-- The microseconds from the calendar's start, in universal time; no offset counts as universal
time. -/
def instant (t : DateTime) : Int :=
  (t.date.ordinal : Int) * microsecondsPerDay + t.time.instant

/-- The same point in time: both with or both without an offset, and the same instant. -/
def sameAs (a b : DateTime) : Bool :=
  a.time.offset.isSome == b.time.offset.isSome && a.instant == b.instant

/-- The numbers of a point in time, the greatest unit first. -/
def numbers (t : DateTime) : List Nat := t.date.numbers ++ t.time.numbers

/-- Less than another point in time, where both have offsets or neither has: as they are if the offsets
are equal, and by the instants otherwise. -/
def isLess (a b : DateTime) : Bool :=
  if a.time.offset = b.time.offset then a.numbers < b.numbers else a.instant < b.instant

/-- The point in time with the offset of universal time where it has none. -/
def inUniversalTime (t : DateTime) : DateTime := ⟨t.date, t.time.inUniversalTime⟩

/-- The point in time comes earlier. One without an offset is read in universal time if the other has
one. -/
def isBefore (a b : DateTime) : Bool :=
  if a.time.offset.isSome = b.time.offset.isSome then a.isLess b
  else a.inUniversalTime.isLess b.inUniversalTime

/-- Midnight of a day. -/
def ofDate (d : Date) : DateTime := ⟨d, .midnight⟩

/-- The point in universal time so many seconds and microseconds after the start of 1970. -/
def ofEpoch? (seconds : Int) (microseconds : Nat) : Option DateTime :=
  let days := Int.fdiv seconds 86400 + 719163
  let rest := (Int.fmod seconds 86400).toNat
  if days < 1 then none
  else do
    let date ← Date.ofOrdinal? days.toNat
    let time ← ClockTime.of? (rest / 3600) (rest / 60 % 60) (rest % 60) microseconds (some 0)
    return ⟨date, time⟩

end DateTime

end Intake
