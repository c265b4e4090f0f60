import BoundSql.Calendar.Date

/-!
# Points in time

A point in time is a second counted from the start of 1970 in universal time, and nanoseconds after
it.  A count of a thousand million nanoseconds or more lies in a leap second, which follows the last
second of a minute and is written as second 60.

* **`Timestamp`** — the type.
* **`Timestamp.date`** — the day it lies on.
* **`Timestamp.write`** — date, time and the offset `+00:00`.
* **`Timestamp.writeZulu`** — the same with `Z` in place of the offset.
-/

namespace BoundSql

open Decimal

/-- **A point in time** in universal time. -/
structure Timestamp where
  seconds : Int
  nanos : Nat
  deriving DecidableEq, Repr, Inhabited

namespace Timestamp

/-- The seconds of a day. -/
def daySeconds : Int := 86400

/-- The nanoseconds of a second. -/
def secondNanos : Nat := 1000000000

/-- The day a point in time lies on. -/
def date (t : Timestamp) : Date := ⟨t.seconds / daySeconds⟩

/-- The start of a day. -/
def ofDate (d : Date) : Timestamp := ⟨d.days * daySeconds, 0⟩

/-- Whether a point in time lies on a supported day. -/
def inRange (t : Timestamp) : Bool := t.date.inRange

/-- The fraction of a second, in three, six or nine digits as are needed, after a point; nothing for
a whole second. -/
def writeFraction (nanos : Nat) : List Char :=
  if nanos = 0 then []
  else if nanos % 1000000 = 0 then '.' :: padded 3 (nanos / 1000000)
  else if nanos % 1000 = 0 then '.' :: padded 6 (nanos / 1000)
  else '.' :: padded 9 nanos

/-- The date and the time of day with `T` between them. -/
def writeLocal (t : Timestamp) : List Char :=
  let second := (t.seconds % daySeconds).toNat
  let leap := secondNanos ≤ t.nanos
  let shown := second % 60 + if leap then 1 else 0
  let nanos := if leap then t.nanos - secondNanos else t.nanos
  t.date.write ++ 'T' :: (padded 2 (second / 3600) ++ ':' :: (padded 2 (second / 60 % 60) ++
    ':' :: (padded 2 shown ++ writeFraction nanos)))

/-- **The text of a point in time.** -/
def write (t : Timestamp) : List Char := t.writeLocal ++ ['+', '0', '0', ':', '0', '0']

/-- **The text with `Z`** for universal time. -/
def writeZulu (t : Timestamp) : List Char := t.writeLocal ++ ['Z']

end Timestamp

end BoundSql
