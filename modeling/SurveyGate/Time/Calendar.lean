/-!
# `SurveyGate.Time.Calendar`: days and dates

The Gregorian calendar, carried back before its introduction. Its pattern of leap years repeats
every 400 years of 146097 days, so a day is an era and a day within it. Years are counted from
March, which puts the leap day at the end of the year.
-/

set_option autoImplicit false

namespace SurveyGate

/-- A date of the calendar. -/
structure Date where
  year : Int
  month : Nat
  day : Nat
  deriving DecidableEq, Repr

/-- Whether a year has a leap day. -/
def isLeapYear (year : Int) : Bool :=
  year % 4 == 0 && (year % 100 != 0 || year % 400 == 0)

/-- The number of days of a month. -/
def daysInMonth (year : Int) : Nat → Nat
  | 2 => if isLeapYear year then 29 else 28
  | 4 => 30
  | 6 => 30
  | 9 => 30
  | 11 => 30
  | _ => 31

namespace Date

/-- Whether the calendar has the date. -/
def isValid (d : Date) : Bool :=
  1 ≤ d.month && d.month ≤ 12 && 1 ≤ d.day && d.day ≤ daysInMonth d.year d.month

/-- The days before a month in a year counted from March. -/
def daysBeforeMonth (monthFromMarch : Nat) : Nat := (153 * monthFromMarch + 2) / 5

/-- The days before a year in an era. -/
def daysBeforeYear (yearOfEra : Nat) : Nat :=
  365 * yearOfEra + yearOfEra / 4 - yearOfEra / 100

/-- The day of the era for a year of the era, a month counted from March and a day of the month. -/
def dayOfEra (yearOfEra monthFromMarch day : Nat) : Nat :=
  daysBeforeYear yearOfEra + daysBeforeMonth monthFromMarch + (day - 1)

/-- Days since the start of 1970. -/
def toDays (d : Date) : Int :=
  let year := if d.month ≤ 2 then d.year - 1 else d.year
  year / 400 * 146097 + dayOfEra (year % 400).toNat ((d.month + 9) % 12) d.day - 719468

/-- The date of a day counted from the start of 1970. -/
def ofDays (days : Int) : Date :=
  let shifted := days + 719468
  let day := (shifted % 146097).toNat
  -- The days that every fourth, hundredth and four hundredth year adds are taken out.
  let yearOfEra := (day - day / 1460 + day / 36524 - day / 146096) / 365
  let dayOfYear := day - daysBeforeYear yearOfEra
  let monthFromMarch := (5 * dayOfYear + 2) / 153
  let month := if monthFromMarch < 10 then monthFromMarch + 3 else monthFromMarch - 9
  let year := shifted / 146097 * 400 + yearOfEra
  { year := if month ≤ 2 then year + 1 else year
    month
    day := dayOfYear - daysBeforeMonth monthFromMarch + 1 }

end Date

end SurveyGate
