/-
Days of the Gregorian calendar, extended backwards to year 1.

A date is a year, a month and a day; `CivilDate.isValid` says which triples are dates.
Days are numbered from 0001-01-01, which is day 0 and a Monday: `dayNumber` numbers a
date and `ofDayNumber` finds the date of a number.  The year of a day is guessed from
the mean length of a year, 146097 days in 400 years; the guess is never off by more
than one, so one comparison on either side corrects it.
-/

namespace UsageLedger

/-- A year, a month and a day. -/
structure CivilDate where
  year : Nat
  month : Nat
  day : Nat
  deriving DecidableEq, Repr, Inhabited

namespace CivilDate

/-- Every fourth year is a leap year, save the centuries that 400 does not divide. -/
def isLeapYear (year : Nat) : Bool :=
  year % 4 == 0 && (year % 100 != 0 || year % 400 == 0)

/-- The number of days of a month. -/
def daysInMonth (year month : Nat) : Nat :=
  match month with
  | 2 => if isLeapYear year then 29 else 28
  | 4 | 6 | 9 | 11 => 30
  | _ => 31

/-- The days of a year before the first of a month. -/
def daysBeforeMonth (leap : Bool) (month : Nat) : Nat :=
  let extra := if leap then 1 else 0
  match month with
  | 0 | 1 => 0
  | 2 => 31
  | 3 => 59 + extra
  | 4 => 90 + extra
  | 5 => 120 + extra
  | 6 => 151 + extra
  | 7 => 181 + extra
  | 8 => 212 + extra
  | 9 => 243 + extra
  | 10 => 273 + extra
  | 11 => 304 + extra
  | _ => 334 + extra

/-- The days before the first of January of a year, counted from year 1. -/
def daysBeforeYear (year : Nat) : Nat :=
  let y := year - 1
  365 * y + y / 4 - y / 100 + y / 400

/-- The month exists, and has the day. -/
def monthHasDay (d : CivilDate) : Bool :=
  1 ≤ d.month && d.month ≤ 12 && 1 ≤ d.day && d.day ≤ daysInMonth d.year d.month

/-- A date of years 1 to 9999. -/
def isValid (d : CivilDate) : Bool := 1 ≤ d.year && d.year ≤ 9999 && d.monthHasDay

/-- The number of days from 0001-01-01 to a date. -/
def dayNumber (d : CivilDate) : Nat :=
  daysBeforeYear d.year + daysBeforeMonth (isLeapYear d.year) d.month + (d.day - 1)

/-- The number of days of years 1 to 9999. -/
def dayCount : Nat := 3652059

/-- The year that a day falls in. -/
def yearOfDay (n : Nat) : Nat :=
  let guess := n * 400 / 146097 + 1
  if n < daysBeforeYear guess then guess - 1
  else if daysBeforeYear (guess + 1) ≤ n then guess + 1
  else guess

/-- The month that a day of a year falls in; days of a year are counted from 0. -/
def monthOfDay (leap : Bool) (n : Nat) : Nat :=
  if n < daysBeforeMonth leap 2 then 1
  else if n < daysBeforeMonth leap 3 then 2
  else if n < daysBeforeMonth leap 4 then 3
  else if n < daysBeforeMonth leap 5 then 4
  else if n < daysBeforeMonth leap 6 then 5
  else if n < daysBeforeMonth leap 7 then 6
  else if n < daysBeforeMonth leap 8 then 7
  else if n < daysBeforeMonth leap 9 then 8
  else if n < daysBeforeMonth leap 10 then 9
  else if n < daysBeforeMonth leap 11 then 10
  else if n < daysBeforeMonth leap 12 then 11
  else 12

/-- The date of a day number. -/
def ofDayNumber (n : Nat) : CivilDate :=
  let year := yearOfDay n
  let rest := n - daysBeforeYear year
  let month := monthOfDay (isLeapYear year) rest
  ⟨year, month, rest - daysBeforeMonth (isLeapYear year) month + 1⟩

/-- The day of the week, Monday being 0. -/
def weekday (dayNumber : Nat) : Nat := dayNumber % 7

/-- The Monday that begins week 1 of a year: week 1 is the first with four days in the year. -/
def firstMonday (year : Nat) : Int :=
  let newYear := daysBeforeYear year
  let back := weekday newYear
  if 3 < back then (newYear : Int) - back + 7 else (newYear : Int) - back

/-- The year has a week 53: it begins on a Thursday, or on a Wednesday of a leap year. -/
def hasWeek53 (year : Nat) : Bool :=
  let first := weekday (daysBeforeYear year)
  first == 3 || (first == 2 && isLeapYear year)

/-- The date of a day of a numbered week, if it falls in years 1 to 9999. -/
def ofWeek? (year week day : Nat) : Option CivilDate :=
  if 1 ≤ year ∧ 1 ≤ week ∧ (week ≤ 52 ∨ (week = 53 ∧ hasWeek53 year)) ∧ 1 ≤ day ∧ day ≤ 7 then
    let n := firstMonday year + (week - 1) * 7 + (day - 1)
    if 0 ≤ n ∧ n < dayCount then some (ofDayNumber n.toNat) else none
  else none

end CivilDate

end UsageLedger
