/-!
# Dates

Dates of the years 1 to 9999 in the proleptic Gregorian calendar, numbered by
the days since the first day of the year 1.
-/

namespace Criteria

def isLeapYear (year : Nat) : Bool :=
  year % 4 = 0 && (year % 100 ≠ 0 || year % 400 = 0)

def daysInYear (year : Nat) : Nat :=
  if isLeapYear year then 366 else 365

def daysInMonth (year month : Nat) : Nat :=
  match month with
  | 2 => if isLeapYear year then 29 else 28
  | 4 | 6 | 9 | 11 => 30
  | _ => 31

/-- A day of the calendar. -/
structure Date where
  year : Nat
  month : Nat
  day : Nat
  yearValid : 1 ≤ year ∧ year ≤ 9999
  monthValid : 1 ≤ month ∧ month ≤ 12
  dayValid : 1 ≤ day ∧ day ≤ daysInMonth year month
  deriving DecidableEq

namespace Date

def ofParts? (year month day : Nat) : Option Date :=
  if yearValid : 1 ≤ year ∧ year ≤ 9999 then
    if monthValid : 1 ≤ month ∧ month ≤ 12 then
      if dayValid : 1 ≤ day ∧ day ≤ daysInMonth year month then
        some ⟨year, month, day, yearValid, monthValid, dayValid⟩
      else none
    else none
  else none

/-- The number of days before a year, counted from the year 1. -/
def daysBeforeYear (year : Nat) : Nat :=
  let past := year - 1
  365 * past + past / 4 - past / 100 + past / 400

/-- The number of days of a year before a month. -/
def daysBeforeMonth (year month : Nat) : Nat :=
  ((List.range (month - 1)).map fun earlier => daysInMonth year (earlier + 1)).foldl (· + ·) 0

/-- The days since the first day of the year 1. -/
def dayNumber (date : Date) : Nat :=
  daysBeforeYear date.year + daysBeforeMonth date.year date.month + (date.day - 1)

/-- One past the number of the last day of the year 9999. -/
def dayLimit : Nat := daysBeforeYear 10000

/-- The number of the first day of 1970. -/
def epochDay : Nat := daysBeforeYear 1970

/-- Days after Monday: the first day of the year 1 was a Monday. -/
def weekday (dayNumber : Nat) : Nat :=
  dayNumber % 7

/-- The number of the Monday on which the first week of a year begins, the week
that holds the fourth of January. -/
def firstMonday (year : Nat) : Int :=
  let fourth := daysBeforeYear year + 3
  (fourth : Int) - weekday fourth

/-- A year has 53 weeks if it begins on a Thursday, or on a Wednesday and is a
leap year. -/
def weeksInYear (year : Nat) : Nat :=
  let first := weekday (daysBeforeYear year)
  if first = 3 ∨ (first = 2 ∧ isLeapYear year) then 53 else 52

end Date

end Criteria
