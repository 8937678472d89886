/-!
# Dates

The proleptic Gregorian calendar, with days counted from the first of January 1970.

* `Date.toDays` and `Date.ofDays` convert between dates and counts of days;
* `Date.ofWeek?` finds the day of an ISO week.
-/

namespace DataGateway.Calendar

/-- A day of the calendar. -/
structure Date where
  year : Int
  month : Nat
  day : Nat
  deriving DecidableEq

def isLeap (year : Int) : Bool := year % 4 == 0 && (year % 100 != 0 || year % 400 == 0)

def monthLength (year : Int) (month : Nat) : Nat :=
  if month == 2 then (if isLeap year then 29 else 28)
  else if month == 4 || month == 6 || month == 9 || month == 11 then 30
  else 31

namespace Date

/-- Does the date exist, within the years 1 to 9999? -/
def isValid (d : Date) : Bool :=
  1 ≤ d.year && d.year ≤ 9999 && 1 ≤ d.month && d.month ≤ 12 && 1 ≤ d.day &&
  d.day ≤ monthLength d.year d.month

/-- The number of days from the first of January 1970. Years are taken to begin in March, so that the
leap day comes last. -/
def toDays (d : Date) : Int :=
  let year := if d.month ≤ 2 then d.year - 1 else d.year
  let era := year.fdiv 400
  let yearOfEra := year - era * 400
  let month : Int := if d.month ≤ 2 then d.month + 9 else d.month - 3
  -- from March on every five months have 153 days
  let dayOfYear := (153 * month + 2) / 5 + d.day - 1
  let dayOfEra := yearOfEra * 365 + yearOfEra / 4 - yearOfEra / 100 + dayOfYear
  era * 146097 + dayOfEra - 719468

def ofDays (days : Int) : Date :=
  let shifted := days + 719468
  let era := shifted.fdiv 146097
  let dayOfEra := shifted - era * 146097
  -- a leap day ends every fourth year, but not a century, and yet an era
  let yearOfEra :=
    (dayOfEra - dayOfEra / 1460 + dayOfEra / 36524 - dayOfEra / 146096) / 365
  let dayOfYear := dayOfEra - (365 * yearOfEra + yearOfEra / 4 - yearOfEra / 100)
  let month := (5 * dayOfYear + 2) / 153
  let day := dayOfYear - (153 * month + 2) / 5 + 1
  let civilMonth := if month < 10 then month + 3 else month - 9
  let year := yearOfEra + era * 400 + (if civilMonth ≤ 2 then 1 else 0)
  ⟨year, civilMonth.toNat, day.toNat⟩

/-- The weekday, Monday being zero. -/
def weekday (d : Date) : Int := (d.toDays + 3).fmod 7

/-! ## ISO weeks -/

/-- The Monday of the first ISO week of a year. -/
def firstMonday (year : Int) : Int :=
  let first : Date := ⟨year, 1, 1⟩
  -- the first week is the one with the first Thursday
  let monday := first.toDays - first.weekday
  if 3 < first.weekday then monday + 7 else monday

def isLong (year : Int) : Bool :=
  let first : Date := ⟨year, 1, 1⟩
  first.weekday == 3 || (first.weekday == 2 && isLeap year)

def ofWeek? (year : Int) (week day : Nat) : Option Date :=
  if 1 ≤ week && (week ≤ 52 || (week == 53 && isLong year)) && 1 ≤ day && day ≤ 7 then
    some (ofDays (firstMonday year + ((week - 1) * 7 + (day - 1) : Nat)))
  else none

end Date

end DataGateway.Calendar
