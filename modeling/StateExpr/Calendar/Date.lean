/-!
# Days of the calendar

Dates of the Gregorian calendar, extended to all years, and their day numbers, counted from the
first of January 1970.  A cycle of 400 years has 146097 days.

Main definitions: `Date.Valid`, `Date.dayNumber`, `Date.ofDayNumber`, `Date.weekday` and
`Date.addMonths`.
-/

namespace StateExpr

/-- A day by year, month and day of the month. -/
structure Date where
  year : Int
  month : Nat
  day : Nat
deriving Repr, DecidableEq

namespace Date

/-- Years with a 29th of February. -/
def isLeap (year : Int) : Bool := year % 4 == 0 && (year % 100 != 0 || year % 400 == 0)

/-- Days of the months of a common year that come before a month. -/
def daysBefore : List Nat := [0, 31, 59, 90, 120, 151, 181, 212, 243, 273, 304, 334]

/-- Days of the year that come before a month. -/
def daysBeforeMonth (year : Int) (month : Nat) : Nat :=
  daysBefore.getD (month - 1) 365 + if isLeap year && decide (2 < month) then 1 else 0

/-- The length of a month. -/
def daysInMonth (year : Int) (month : Nat) : Nat :=
  daysBeforeMonth year (month + 1) - daysBeforeMonth year month

/-- The date is one of the calendar. -/
def Valid (d : Date) : Prop :=
  1 ≤ d.month ∧ d.month ≤ 12 ∧ 1 ≤ d.day ∧ d.day ≤ daysInMonth d.year d.month

instance (d : Date) : Decidable d.Valid := by unfold Valid; infer_instance

/-- Days before the first of January of a year, counted from that of year one. -/
def daysBeforeYear (year : Int) : Int :=
  let y := year - 1
  365 * y + y / 4 - y / 100 + y / 400

/-- Days from the first of January of year one to that of 1970. -/
def epochDays : Int := 719162

/-- The place of the date among all days. -/
def dayNumber (d : Date) : Int :=
  daysBeforeYear d.year + daysBeforeMonth d.year d.month + (d.day - 1 : Int) - epochDays

/-- The month that holds a day of the year, counted from zero, and the days before that month. -/
def monthOfDay (year : Int) (dayOfYear : Nat) : Nat :=
  ((List.range 12).filter fun m => daysBeforeMonth year (m + 1) ≤ dayOfYear).length

/-- The year that holds a day, counted from the first of January of year one. -/
def yearOfDay (z : Int) : Int :=
  let cycle := z / 146097
  let inCycle := z % 146097
  let century := min (inCycle / 36524) 3
  let inCentury := inCycle - century * 36524
  let four := inCentury / 1461
  let inFour := inCentury % 1461
  400 * cycle + 100 * century + 4 * four + min (inFour / 365) 3 + 1

/-- The date at a place among all days. -/
def ofDayNumber (n : Int) : Date :=
  let z := n + epochDays
  let year := yearOfDay z
  let dayOfYear := (z - daysBeforeYear year).toNat
  let month := monthOfDay year dayOfYear
  ⟨year, month, dayOfYear - daysBeforeMonth year month + 1⟩

/-- The day of the year, the first of January being 1. -/
def ordinal (d : Date) : Nat := daysBeforeMonth d.year d.month + d.day

/-- The day of the week, Sunday being 0. -/
def weekday (d : Date) : Nat := ((d.dayNumber + 4) % 7).toNat

/-- The earliest year that is kept. -/
def minYear : Int := -262143

/-- The latest year that is kept. -/
def maxYear : Int := 262142

/-- The date, if it is one of the calendar in a year that is kept. -/
def checked (d : Date) : Option Date :=
  if d.Valid ∧ minYear ≤ d.year ∧ d.year ≤ maxYear then some d else none

/-- The same day of the month some months on, or the last day of a shorter month. -/
def addMonths (d : Date) (months : Int) : Date :=
  let count := 12 * d.year + (d.month - 1 : Int) + months
  let year := count / 12
  let month := (count % 12).toNat + 1
  ⟨year, month, min d.day (daysInMonth year month)⟩

/-- The week of the year when weeks start on a weekday; days before the first such day are in week
zero. -/
def weekFrom (d : Date) (start : Nat) : Nat := (d.ordinal + 6 - (d.weekday + 7 - start) % 7) / 7

/-- The year and the number of the week, where Thursday decides the year and Monday comes first. -/
def isoWeek (d : Date) : Int × Nat :=
  let fromMonday := (d.weekday + 6) % 7
  let thursday := ofDayNumber (d.dayNumber - fromMonday + 3)
  (thursday.year, (thursday.ordinal - 1) / 7 + 1)

end Date

end StateExpr
