/-!
# Points in time and their civil dates

A timestamp counts seconds from the start of 1970 in UTC, and nanoseconds within the second; from
a whole second on they belong to a leap second. Civil dates follow the proleptic Gregorian
calendar. Days are counted in eras of 400 years, each of 146097 days, and in years that begin in
March, so that the leap day comes last.
-/

namespace Tapline

/-- A point in time. -/
structure Timestamp where
  seconds : Int
  nanos : Nat
deriving DecidableEq, Repr, Inhabited

/-- A civil date and time of day. -/
structure CivilTime where
  year : Int
  /-- 1 to 12. -/
  month : Nat
  /-- 1 to 31. -/
  day : Nat
  /-- Days since 1 January. -/
  dayOfYear : Nat
  /-- Days since Sunday. -/
  weekday : Nat
  hour : Nat
  minute : Nat
  /-- 0 to 60; a leap second is 60. -/
  second : Nat
  nanos : Nat
deriving DecidableEq, Repr

namespace CivilTime

def secondsPerDay : Int := 86400

/-- Whether a year has a 29 February. -/
def isLeapYear (year : Int) : Bool :=
  year % 4 == 0 && (year % 100 != 0 || year % 400 == 0)

/-- Days before a month, in a year without a leap day. -/
def daysBeforeMonth : List Nat := [0, 31, 59, 90, 120, 151, 181, 212, 243, 273, 304, 334]

/-- Year, month and day of a day counted from 1 January 1970. -/
def dateOfDay (day : Int) : Int × Nat × Nat :=
  let shifted := day + 719468
  let era := shifted / 146097
  let dayOfEra := (shifted % 146097).toNat
  let yearOfEra := (dayOfEra - dayOfEra / 1460 + dayOfEra / 36524 - dayOfEra / 146096) / 365
  let dayOfYear := dayOfEra - (365 * yearOfEra + yearOfEra / 4 - yearOfEra / 100)
  let monthFromMarch := (5 * dayOfYear + 2) / 153
  let day := dayOfYear - (153 * monthFromMarch + 2) / 5 + 1
  let month := if monthFromMarch < 10 then monthFromMarch + 3 else monthFromMarch - 9
  let year : Int := (yearOfEra : Int) + era * 400
  (if month ≤ 2 then year + 1 else year, month, day)

/-- The civil time of a timestamp. -/
def ofTimestamp (t : Timestamp) : CivilTime :=
  let dayNumber := t.seconds / secondsPerDay
  let secondOfDay := (t.seconds % secondsPerDay).toNat
  let (year, month, day) := dateOfDay dayNumber
  let leapDay := if isLeapYear year ∧ 2 < month then 1 else 0
  { year, month, day
    dayOfYear := daysBeforeMonth.getD (month - 1) 0 + leapDay + day - 1
    weekday := ((dayNumber + 4) % 7).toNat
    hour := secondOfDay / 3600
    minute := secondOfDay / 60 % 60
    second := secondOfDay % 60 + t.nanos / 1000000000
    nanos := t.nanos % 1000000000 }

end CivilTime

end Tapline
