import BoundSql.Calendar.Timestamp
import BoundSql.Text.Blank

/-!
# Reading dates and times

A date is a year, a month and a day with hyphens between them; a time is an hour, a minute and a
second with colons between them and perhaps a fraction.  Blanks may stand before each number and
after it, and leading zeros may be missing.  A point in time carries an offset from universal time.

* **`Date.ofText?`**, **`Timestamp.ofLocalText?`**, **`Timestamp.ofText?`** — the three readers.
* **`Scan`** — a step that reads something in front of a text.
-/

namespace BoundSql.Calendar

open Decimal Text

/-- **A reading step**: what was read and what follows it. -/
abbrev Scan (α : Type) := List Char → Option (α × List Char)

/-- A number of one to `width` digits. -/
def number (width : Nat) : Scan Nat := fun cs =>
  let ds := (cs.take width).takeWhile Char.isDigit
  if ds.isEmpty then none else some (value ds, cs.drop ds.length)

/-- Blanks and then a number of one or two digits between the bounds. -/
def field (least greatest : Nat) : Scan Nat := fun cs =>
  match number 2 (trimStart cs) with
  | some (n, rest) => if least ≤ n ∧ n ≤ greatest then some (n, rest) else none
  | none => none

/-- Blanks and then a year.  With a sign it may have any number of digits, without one four at
most. -/
def year : Scan Int := fun cs =>
  match trimStart cs with
  | '-' :: rest => (number rest.length rest).map fun (n, rest) => (-(n : Int), rest)
  | '+' :: rest => (number rest.length rest).map fun (n, rest) => ((n : Int), rest)
  | rest => (number 4 rest).map fun (n, rest) => ((n : Int), rest)

/-- Blanks and then the given character. -/
def mark (c : Char) : Scan Unit := fun cs =>
  match trimStart cs with
  | d :: rest => if d = c then some ((), rest) else none
  | [] => none

/-- A year, a month and a day. -/
def yearMonthDay : Scan CivilDate := fun cs => do
  let (y, cs) ← year cs
  let (_, cs) ← mark '-' cs
  let (m, cs) ← field 1 12 cs
  let (_, cs) ← mark '-' cs
  let (d, cs) ← field 1 31 cs
  return (⟨y, m, d⟩, cs)

/-- The nanoseconds of a fraction, of which nine digits count; no point means none. -/
def fraction : Scan Nat := fun cs =>
  match cs with
  | '.' :: rest =>
    let ds := rest.takeWhile Char.isDigit
    if ds.isEmpty then none
    else
      let counted := ds.take 9
      some (value counted * tenTo (9 - counted.length), rest.dropWhile Char.isDigit)
  | _ => some (0, cs)

/-- **A time of day** as its second and its nanoseconds.  Second 60 is the leap second after
second 59. -/
def timeOfDay : Scan (Nat × Nat) := fun cs => do
  let (h, cs) ← field 0 23 cs
  let (_, cs) ← mark ':' cs
  let (m, cs) ← field 0 59 cs
  let (_, cs) ← mark ':' cs
  let (s, cs) ← field 0 60 cs
  let (f, cs) ← fraction cs
  let minute := h * 3600 + m * 60
  return (if s = 60 then (minute + 59, f + Timestamp.secondNanos) else (minute + s, f), cs)

/-- Two digits, the first of them at most `greatest`. -/
def twoDigits (greatest : Char) : Scan Nat := fun cs =>
  match cs with
  | a :: b :: rest =>
    if a.isDigit ∧ a ≤ greatest ∧ b.isDigit then some (value [a, b], rest) else none
  | _ => none

/-- **The offset from universal time** in seconds: `Z`, `UTC`, or a sign, two digits of hours,
perhaps a colon, and two digits of minutes; less than a day. -/
def offset : Scan Int := fun cs =>
  let named := String.ofList ((cs.take 3).map Char.toUpper) = "UTC"
  let signed (negative : Bool) (rest : List Char) : Option (Int × List Char) := do
    let (h, rest) ← twoDigits '9' rest
    let (m, rest) ← twoDigits '5' (rest.dropWhile fun c => c == ':' || isBlank c)
    let seconds : Int := h * 3600 + m * 60
    if seconds < Timestamp.daySeconds then
      return (if negative then -seconds else seconds, rest)
    else none
  if named then some (0, cs.drop 3)
  else
    match cs with
    | 'Z' :: rest => some (0, rest)
    | 'z' :: rest => some (0, rest)
    | '+' :: rest => signed false rest
    | '-' :: rest => signed true rest
    | '−' :: rest => signed true rest
    | _ => none

/-- The point in time of a date and a time of day, on a supported day. -/
def combine? (c : CivilDate) (time : Nat × Nat) : Option Timestamp :=
  (Date.ofCivil? c).map fun d => ⟨d.days * Timestamp.daySeconds + time.1, time.2⟩

end BoundSql.Calendar

namespace BoundSql

open Calendar Text

/-- **Reads a date.**  Only blanks may follow it. -/
def Date.ofText? (cs : List Char) : Option Date := do
  let (c, rest) ← yearMonthDay cs
  if (trimStart rest).isEmpty then Date.ofCivil? c else none

namespace Timestamp

/-- **Reads a date and a time of day in universal time**, with `T` between them and no offset. -/
def ofLocalText? (cs : List Char) : Option Timestamp := do
  let (c, rest) ← yearMonthDay cs
  let (_, rest) ← mark 'T' rest
  let (time, rest) ← timeOfDay rest
  if (trimStart rest).isEmpty then combine? c time else none

/-- **Reads a date, a time of day and an offset**, with `T`, `t` or one blank between the first
two. -/
def ofText? (cs : List Char) : Option Timestamp := do
  let (c, rest) ← yearMonthDay cs
  let rest ← match rest with
    | 'T' :: rest => some rest
    | 't' :: rest => some rest
    | ' ' :: rest => some rest
    | _ => none
  let (time, rest) ← timeOfDay rest
  let (shift, rest) ← offset (trimStart rest)
  if (trimStart rest).isEmpty then
    let here ← combine? c time
    let t : Timestamp := ⟨here.seconds - shift, here.nanos⟩
    if t.inRange then some t else none
  else none

end Timestamp

end BoundSql
