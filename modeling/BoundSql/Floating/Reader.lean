import BoundSql.Decimal.Digits
import BoundSql.Floating.Basic

/-!
# Reading a floating-point number

The grammar is an optional sign, then `inf`, `infinity` or `nan` in any case of letters, or digits
with at most one point and an optional exponent.  The number is the one nearest to the decimal.

* **`Literal`** — what was read, before any rounding.
* **`Literal.ofText?`** — the grammar.
* **`Literal.magnitude`** — the pattern nearest to the decimal.
-/

namespace BoundSql.Floating

open BoundSql.Decimal

/-- **A literal**: a decimal `significand * 10 ^ exponent`, or one of the two named values. -/
inductive Literal where
  | decimal (negative : Bool) (significand : Nat) (exponent : Int)
  | infinity (negative : Bool)
  | nan (negative : Bool)
  deriving DecidableEq, Repr

/-- Why a text is not a literal. -/
inductive LiteralFault where
  | empty
  | malformed
  deriving DecidableEq, Repr

namespace LiteralFault

def message : LiteralFault → String
  | .empty => "cannot parse float from empty string"
  | .malformed => "invalid float literal"

end LiteralFault

namespace Literal

/-- Splits off an optional sign; `true` is minus. -/
def splitSign : List Char → Bool × List Char
  | '-' :: cs => (true, cs)
  | '+' :: cs => (false, cs)
  | cs => (false, cs)

/-- The exponent a text stands for: nothing, or `e` with a sign and at least one digit. -/
def exponent? : List Char → Option Int
  | [] => some 0
  | c :: cs =>
    if c = 'e' ∨ c = 'E' then
      let (negative, ds) := splitSign cs
      if ds.isEmpty || !allDigits ds then none
      else some (if negative then -(value ds : Int) else value ds)
    else none

/-- An unsigned decimal: digits, a point and digits, and an exponent, with one digit at least. -/
def unsigned? (negative : Bool) (cs : List Char) : Option Literal :=
  let whole := cs.takeWhile Char.isDigit
  let afterWhole := cs.dropWhile Char.isDigit
  let pointed := afterWhole.head? == some '.'
  let tail := if pointed then afterWhole.drop 1 else afterWhole
  let fraction := if pointed then tail.takeWhile Char.isDigit else []
  let rest := if pointed then tail.dropWhile Char.isDigit else tail
  if whole.isEmpty && fraction.isEmpty then none
  else (exponent? rest).map fun e =>
    .decimal negative (value (whole ++ fraction)) (e - fraction.length)

/-- **Reads a literal.** -/
def ofText? (cs : List Char) : Except LiteralFault Literal :=
  if cs.isEmpty then .error .empty
  else
    let (negative, rest) := splitSign cs
    let name := String.ofList (rest.map Char.toLower)
    if name = "inf" ∨ name = "infinity" then .ok (.infinity negative)
    else if name = "nan" then .ok (.nan negative)
    else match unsigned? negative rest with
      | some literal => .ok literal
      | none => .error .malformed

/-- **The pattern nearest to `significand * 10 ^ exponent`.**  Beyond the thousandth power in either
direction the answer is infinity or zero in every format here, and no power is computed.  The place
of the first digit, which decides that, is estimated from the binary logarithm. -/
def magnitude (f : Format) (significand : Nat) (exponent : Int) : Nat :=
  let place := exponent + (significand.log2 * 30103 / 100000 + 1 : Nat)
  if significand = 0 ∨ place < -1000 then 0
  else if 1000 < place then f.infinityBits
  else f.magnitudeBits (significand * tenTo exponent.toNat) (tenTo (-exponent).toNat)

/-- The pattern of a literal in a format. -/
def bits (f : Format) : Literal → Nat
  | .decimal negative significand exponent =>
    f.withSign negative (magnitude f significand exponent)
  | .infinity negative => f.withSign negative f.infinityBits
  | .nan negative => f.withSign negative f.nanBits

end Literal

/-- Reads an eight-byte number. -/
def Binary64.ofText? (cs : List Char) : Except LiteralFault Binary64 :=
  (Literal.ofText? cs).map fun l => ⟨(l.bits binary64Format).toUInt64⟩

/-- Reads a four-byte number, rounding the decimal once. -/
def Binary32.ofText? (cs : List Char) : Except LiteralFault Binary32 :=
  (Literal.ofText? cs).map fun l => ⟨(l.bits binary32Format).toUInt32⟩

end BoundSql.Floating
