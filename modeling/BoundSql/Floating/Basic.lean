import BoundSql.Decimal.Digits
import BoundSql.Floating.Format

/-!
# Floating-point numbers by their bits

`Binary64` and `Binary32` hold the bits of a number, so equality of the types is equality of
patterns and every operation is exact natural-number arithmetic followed by one rounding.

* **`Binary64.same`** — comparison as numbers: a NaN differs from itself, the two zeros agree.
* **`Binary64.ofInt`**, **`Binary32.ofInt`** — the nearest number to a whole one.
* **`Binary64.narrow`**, **`Binary32.widen`** — between the two widths.
* **`Binary64.timesPower`**, **`Binary64.overPower`** — one rounded step by a power of ten.
-/

namespace BoundSql.Floating

/-- **An eight-byte floating-point number**, as its bits. -/
structure Binary64 where
  bits : UInt64
  deriving DecidableEq, Repr, Inhabited

/-- **A four-byte floating-point number**, as its bits. -/
structure Binary32 where
  bits : UInt32
  deriving DecidableEq, Repr, Inhabited

namespace Binary64

/-- The number a pattern denotes. -/
def datum (x : Binary64) : Datum := binary64Format.datum x.bits.toNat

/-- The number with the given sign and magnitude pattern. -/
def ofMagnitude (negative : Bool) (magnitude : Nat) : Binary64 :=
  ⟨(binary64Format.withSign negative magnitude).toUInt64⟩

/-- The nearest number to `num / den`, with the given sign. -/
def ofRatio (negative : Bool) (num den : Nat) : Binary64 :=
  ofMagnitude negative (binary64Format.magnitudeBits num den)

/-- The nearest number to a whole one. -/
def ofInt (n : Int) : Binary64 := ofRatio (decide (n < 0)) n.natAbs 1

/-- The quiet NaN. -/
def nan : Binary64 := ⟨binary64Format.nanBits.toUInt64⟩

/-- Infinity of the given sign. -/
def infinity (negative : Bool) : Binary64 := ofMagnitude negative binary64Format.infinityBits

def isNaN (x : Binary64) : Bool := x.datum == .nan

/-- Whether the number is one of the infinities. -/
def isInfinite (x : Binary64) : Bool :=
  match x.datum with
  | .infinite _ => true
  | _ => false

/-- Whether the number is one of the two zeros. -/
def isZero (x : Binary64) : Bool :=
  match x.datum with
  | .finite _ 0 _ => true
  | _ => false

/-- **Equality of numbers**, not of patterns: a NaN equals nothing and the two zeros are equal. -/
def same (x y : Binary64) : Bool :=
  !x.isNaN && !y.isNaN && (x == y || (x.isZero && y.isZero))

/-- The number with its sign turned. -/
def negate (x : Binary64) : Binary64 := ⟨x.bits ^^^ 0x8000000000000000⟩

/-- The number nearest to `10 ^ k`. -/
def powerOfTen (k : Nat) : Binary64 := ofRatio false (Decimal.tenTo k) 1

/-- **The product with a power of ten.**  The power is rounded first and the product after it: two
roundings, so the result may miss the nearest number by one place. -/
def timesPower (x : Binary64) (k : Nat) : Binary64 :=
  match x.datum, (powerOfTen k).datum with
  | .finite negative m e, .finite _ m' e' =>
    ofMagnitude negative (binary64Format.scaledBits (m * m') (e + e'))
  | .finite negative _ _, _ => infinity negative
  | _, _ => x

/-- **The quotient by a power of ten**, rounded as the product is. -/
def overPower (x : Binary64) (k : Nat) : Binary64 :=
  match x.datum, (powerOfTen k).datum with
  | .finite negative m e, .finite _ m' e' =>
    let shift := e - e'
    ofRatio negative (m <<< shift.toNat) (m' <<< (-shift).toNat)
  | .finite negative _ _, _ => ofMagnitude negative 0
  | _, _ => x

/-- **The nearest four-byte number.**  A NaN keeps its sign and the upper part of its payload, and
becomes quiet. -/
def narrow (x : Binary64) : Binary32 :=
  let negative := decide (binary64Format.signBit ≤ x.bits.toNat)
  let magnitude : Nat :=
    match x.datum with
    | .finite _ m e => binary32Format.scaledBits m e
    | .infinite _ => binary32Format.infinityBits
    | .nan =>
      let payload := x.bits.toNat % 1 <<< binary64Format.fractionBits
      let kept := payload >>> (binary64Format.fractionBits - binary32Format.fractionBits)
      binary32Format.infinityBits + binary32Format.quietBit + kept % binary32Format.quietBit
  ⟨(binary32Format.withSign negative magnitude).toUInt32⟩

end Binary64

namespace Binary32

/-- The number a pattern denotes. -/
def datum (x : Binary32) : Datum := binary32Format.datum x.bits.toNat

/-- The nearest number to `num / den`, with the given sign. -/
def ofRatio (negative : Bool) (num den : Nat) : Binary32 :=
  ⟨(binary32Format.withSign negative (binary32Format.magnitudeBits num den)).toUInt32⟩

/-- The nearest number to a whole one. -/
def ofInt (n : Int) : Binary32 := ofRatio (decide (n < 0)) n.natAbs 1

/-- **The same number in eight bytes.**  Every four-byte number is an eight-byte one, so nothing is
lost; a NaN keeps its payload in the upper bits and becomes quiet. -/
def widen (x : Binary32) : Binary64 :=
  let negative := decide (binary32Format.signBit ≤ x.bits.toNat)
  match x.datum with
  | .finite _ m e => .ofMagnitude negative (binary64Format.scaledBits m e)
  | .infinite _ => .infinity negative
  | .nan =>
    let payload := x.bits.toNat % binary32Format.quietBit
    let moved := payload <<< (binary64Format.fractionBits - binary32Format.fractionBits)
    .ofMagnitude negative (binary64Format.nanBits + moved)

end Binary32

end BoundSql.Floating
