/-!
# The civil calendar

Days are numbered from 1970-01-01. The conversion counts years from March, so that a leap day is
the last day of its year: within a cycle of 400 such years the year of a day and the first day of
a year are given by divisions alone.
-/

namespace Metering

/-- A date of the proleptic Gregorian calendar. -/
structure Date where
  year : Int
  month : Int
  day : Int
deriving DecidableEq

namespace Date

/-- Days in 400 years. -/
def cycleDays : Int := 146097

/-- Number of the day on which the cycle of year zero starts, 0000-03-01, counted back. -/
def epochShift : Int := 719468

/-- Days of a cycle before its year number `y`, counted from March. -/
def daysBeforeYear (y : Int) : Int := 365 * y + y / 4 - y / 100

/-- Days of a year before its month number `m`, both counted from March. -/
def daysBeforeMonth (m : Int) : Int := (153 * m + 2) / 5

/-- The number of the day. -/
def toDays (d : Date) : Int :=
  let year := if d.month ≤ 2 then d.year - 1 else d.year
  let month := if d.month ≤ 2 then d.month + 9 else d.month - 3
  let inCycle := daysBeforeYear (year % 400) + daysBeforeMonth month + (d.day - 1)
  year / 400 * cycleDays + inCycle - epochShift

/-- The date of a day. -/
def ofDays (days : Int) : Date :=
  let shifted := days + epochShift
  let inCycle := shifted % cycleDays
  let yearOfCycle := (inCycle - inCycle / 1460 + inCycle / 36524 - inCycle / 146096) / 365
  let inYear := inCycle - daysBeforeYear yearOfCycle
  let month := (5 * inYear + 2) / 153
  let year := yearOfCycle + shifted / cycleDays * 400
  { year := if month ≤ 9 then year else year + 1
    month := if month ≤ 9 then month + 3 else month - 9
    day := inYear - daysBeforeMonth month + 1 }

/-- A year with a 29th of February. -/
def isLeapYear (year : Int) : Bool :=
  year % 4 = 0 && (year % 100 != 0 || year % 400 = 0)

/-- Length of a month. -/
def daysInMonth (year month : Int) : Int :=
  if month = 2 then (if isLeapYear year then 29 else 28)
  else if month = 4 ∨ month = 6 ∨ month = 9 ∨ month = 11 then 30
  else 31

/-- The month and the day exist. -/
def isValid (d : Date) : Bool :=
  1 ≤ d.month && d.month ≤ 12 && 1 ≤ d.day && d.day ≤ daysInMonth d.year d.month

example : (Date.mk 1970 1 1).toDays = 0 := by decide
example : ofDays 0 = ⟨1970, 1, 1⟩ := by decide
example : ofDays (-1) = ⟨1969, 12, 31⟩ := by decide
example : (Date.mk 2024 2 29).toDays + 1 = (Date.mk 2024 3 1).toDays := by decide
example : (Date.mk 2024 2 29).isValid = true ∧ (Date.mk 2023 2 29).isValid = false := by decide

end Date

end Metering
