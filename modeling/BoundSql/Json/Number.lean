import BoundSql.Decimal.Digits
import BoundSql.Json.Basic

/-!
# Numbers in documents

A number literal denotes a whole number when it has neither a point nor an exponent and fits in
eight bytes, with a sign or without; any other denotes a floating-point number, computed from the
leading digits that fit in eight bytes and a power of ten.

* **`NumberLiteral`** — the parts of a literal.
* **`NumberLiteral.number?`** — what it denotes, or `none` where that is not finite.
-/

namespace BoundSql.Json

open Decimal Floating

/-- **The parts of a number literal**: the sign, the digits before and after the point, and the sign
and digits of the exponent. -/
structure NumberLiteral where
  negative : Bool
  whole : List Char
  fraction : List Char
  exponent : Option (Bool × List Char)
  deriving DecidableEq, Repr

/-- The greatest whole number of eight bytes. -/
def greatestWord : Nat := 0xFFFFFFFFFFFFFFFF

/-- The greatest exponent that is read; a literal beyond it is out of range or zero. -/
def greatestExponent : Nat := 0x7FFFFFFF

/-- **Takes in digits while the number still fits in eight bytes**; the digits left over are
returned with it. -/
def absorb (acc : Nat) : List Char → Nat × List Char
  | [] => (acc, [])
  | c :: rest =>
    if acc * 10 + digitValue c ≤ greatestWord then absorb (acc * 10 + digitValue c) rest
    else (acc, c :: rest)

/-- **Multiplies by a power of ten** in steps of at most `10 ^ 308`; `none` beyond the greatest
number. -/
def scale? (x : Binary64) (e : Int) : Option Binary64 :=
  if 308 < e then (if x.isZero then some x else none)
  else if 0 ≤ e then
    let y := x.timesPower e.toNat
    if y.isInfinite then none else some y
  else if -308 ≤ e then some (x.overPower (-e).toNat)
  else if x.isZero then some x
  else scale? (x.overPower 308) (e + 308)
termination_by (-e).toNat
decreasing_by omega

namespace NumberLiteral

/-- The floating-point number of a literal.  Digits that do not fit are dropped: before the point
each raises the power of ten, after it they count for nothing. -/
def real? (l : NumberLiteral) : Option Binary64 :=
  let (lead, dropped) := absorb 0 l.whole
  let (significand, ignored) := absorb lead l.fraction
  let place : Int := dropped.length - (l.fraction.length - ignored.length : Nat)
  let magnitude : Option Binary64 :=
    match l.exponent with
    | none => scale? (.ofInt significand) place
    | some (negative, ds) =>
      let e := value ds
      if greatestExponent < e then
        if significand ≠ 0 ∧ !negative then none else some (.ofInt 0)
      else scale? (.ofInt significand) (if negative then place - e else place + e)
  magnitude.map fun x => if l.negative then x.negate else x

/-- **What a literal denotes.**  A minus sign in front of zero, or of a number below the least of
eight bytes, makes it a floating-point number. -/
def number? (l : NumberLiteral) : Option Number :=
  let n := value l.whole
  if !l.fraction.isEmpty || l.exponent.isSome || greatestWord < n then l.real?.map .real
  else if !l.negative then some (.whole n)
  else if n = 0 ∨ 0x8000000000000000 < n then some (.real (Binary64.ofInt n).negate)
  else some (.whole (-(n : Int)))

end NumberLiteral

end BoundSql.Json
