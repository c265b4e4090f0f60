import BoundSql.Decimal.Digits

/-!
# Calendar dates

A date is a day of the Gregorian calendar extended in both directions, counted from the first day of
1970.

* **`Date`** — the type, and **`Date.civil`**, **`Date.ofCivil?`** for year, month and day.
* **`Date.write`** — the text of a date.
* **`Date.inRange`** — the dates that are supported, from the year -262143 to the year 262142.
-/

namespace BoundSql

open Decimal

/-- **A day**, counted from the first day of 1970. -/
structure Date where
  days : Int
  deriving DecidableEq, Repr, Inhabited

/-- A year, a month from 1 and a day from 1. -/
structure CivilDate where
  year : Int
  month : Nat
  day : Nat
  deriving DecidableEq, Repr

/-- A year is a leap year when four divides it, unless a hundred does and four hundred does not. -/
def isLeapYear (year : Int) : Bool :=
  year % 4 == 0 && (year % 100 != 0 || year % 400 == 0)

/-- The number of days of a month. -/
def daysInMonth (year : Int) (month : Nat) : Nat :=
  match month with
  | 2 => if isLeapYear year then 29 else 28
  | 4 | 6 | 9 | 11 => 30
  | _ => 31

namespace CivilDate

/-- Whether the month and the day exist. -/
def exists? (d : CivilDate) : Bool :=
  decide (1 ≤ d.month) && decide (d.month ≤ 12) && decide (1 ≤ d.day) &&
    decide (d.day ≤ daysInMonth d.year d.month)

/-- The day count of a year, month and day.  Years are taken to start in March, so that the leap day
is their last one; four hundred of them have 146097 days. -/
def toDays (d : CivilDate) : Int :=
  let year := if d.month ≤ 2 then d.year - 1 else d.year
  let era := year / 400
  let yearOfEra := year % 400
  let month : Int := if d.month ≤ 2 then d.month + 9 else d.month - 3
  let dayOfYear := (153 * month + 2) / 5 + d.day - 1
  let dayOfEra := yearOfEra * 365 + yearOfEra / 4 - yearOfEra / 100 + dayOfYear
  era * 146097 + dayOfEra - 719468

end CivilDate

namespace Date

/-- **The year, month and day of a date.** -/
def civil (d : Date) : CivilDate :=
  let shifted := d.days + 719468
  let era := shifted / 146097
  let dayOfEra := shifted % 146097
  let yearOfEra := (dayOfEra - dayOfEra / 1460 + dayOfEra / 36524 - dayOfEra / 146096) / 365
  let dayOfYear := dayOfEra - (365 * yearOfEra + yearOfEra / 4 - yearOfEra / 100)
  let month := (5 * dayOfYear + 2) / 153
  let day := dayOfYear - (153 * month + 2) / 5 + 1
  let civilMonth := if month < 10 then month + 3 else month - 9
  let year := yearOfEra + era * 400
  ⟨if civilMonth ≤ 2 then year + 1 else year, civilMonth.toNat, day.toNat⟩

/-- Whether a date is supported. -/
def inRange (d : Date) : Bool := decide (-96465292 ≤ d.days) && decide (d.days ≤ 95026236)

/-- **The date of a year, month and day**, if it exists and is supported. -/
def ofCivil? (c : CivilDate) : Option Date :=
  let d : Date := ⟨c.toDays⟩
  if c.exists? && d.inRange then some d else none

/-- A year has four digits at least, and a sign unless it is from 0 to 9999. -/
def writeYear (year : Int) : List Char :=
  if year < 0 then '-' :: padded 4 year.natAbs
  else if year ≤ 9999 then padded 4 year.natAbs
  else '+' :: padded 4 year.natAbs

/-- **The text of a date**: year, month and day with hyphens between them. -/
def write (d : Date) : List Char :=
  let c := d.civil
  writeYear c.year ++ '-' :: (padded 2 c.month ++ '-' :: padded 2 c.day)

end Date

end BoundSql
