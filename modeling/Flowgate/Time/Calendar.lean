/-! # The calendar

Days are counted from the first day of year one, which is day one. Dates may be
given by month and day, or by the week of a year; weeks begin on Monday, and the
first week of a year holds its first Thursday.
-/

namespace Flowgate.Calendar

/-- Every fourth year is a leap year, of the hundreds every fourth. -/
def isLeap (year : Nat) : Bool := year % 4 == 0 && (year % 100 != 0 || year % 400 == 0)

/-- The days of a month. -/
def daysInMonth (year month : Nat) : Nat :=
  if month = 2 then if isLeap year then 29 else 28
  else if month = 4 ∨ month = 6 ∨ month = 9 ∨ month = 11 then 30
  else 31

/-- The days before a year, from year one on. -/
def daysBeforeYear (year : Nat) : Nat :=
  let y := year - 1
  y * 365 + y / 4 - y / 100 + y / 400

/-- The days of a year before a month. -/
def daysBeforeMonth (year : Nat) : Nat → Nat
  | 0 | 1 => 0
  | month + 2 => daysBeforeMonth year (month + 1) + daysInMonth year (month + 1)

/-- A day of the calendar. -/
structure Date where
  year : Nat
  month : Nat
  day : Nat
  deriving DecidableEq, Repr

namespace Date

/-- A date that exists, in the years 1 to 9999. -/
def isValid (d : Date) : Bool :=
  1 ≤ d.year && d.year ≤ 9999 && 1 ≤ d.month && d.month ≤ 12 &&
    1 ≤ d.day && d.day ≤ daysInMonth d.year d.month

/-- The number of a day. -/
def ordinal (d : Date) : Nat := daysBeforeYear d.year + daysBeforeMonth d.year d.month + d.day

/-- The date of a day of a year, counted from one. -/
def ofYearDay (year day : Nat) : Date :=
  let month := ((List.range 12).filter fun m => daysBeforeMonth year (m + 1) < day).length
  ⟨year, month, day - daysBeforeMonth year month⟩

/-- The date of a day that lies in the given year or in a neighbour of it. -/
def ofOrdinalNear (year ordinal : Nat) : Date :=
  if ordinal ≤ daysBeforeYear year then ofYearDay (year - 1) (ordinal - daysBeforeYear (year - 1))
  else if ordinal ≤ daysBeforeYear (year + 1) then ofYearDay year (ordinal - daysBeforeYear year)
  else ofYearDay (year + 1) (ordinal - daysBeforeYear (year + 1))

end Date

/-- The day of the week of a day, Monday being zero. -/
def weekday (ordinal : Nat) : Nat := (ordinal + 6) % 7

/-- Whether a year has a fifty-third week. -/
def isLongYear (year : Nat) : Bool :=
  let first := weekday (daysBeforeYear year + 1)
  first == 3 || (first == 2 && isLeap year)

/-- The Monday of the first week of a year, which may lie in the year before. -/
def firstMonday (year : Nat) : Int :=
  let first := daysBeforeYear year + 1
  let monday : Int := first - weekday first
  if weekday first > 3 then monday + 7 else monday

/-- The date of a day of a week; days of the week count from one. -/
def Date.ofWeek? (year week day : Nat) : Option Date :=
  if 1 ≤ year ∧ 1 ≤ week ∧ (week ≤ 52 ∨ week = 53 ∧ isLongYear year) ∧ 1 ≤ day ∧ day ≤ 7 then
    some (ofOrdinalNear year (firstMonday year + (week - 1) * 7 + (day - 1)).toNat)
  else none

end Flowgate.Calendar
