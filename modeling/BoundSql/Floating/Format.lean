/-!
# Binary interchange formats

A binary floating-point format is described by the number of bits of its significand and of its
exponent field.  Everything here is exact arithmetic on natural numbers: a bit pattern is read as
`significand * 2 ^ exponent`, and a quotient of two naturals is rounded to the nearest pattern.

* **`Format.datum`** — what a bit pattern denotes.
* **`Format.magnitudeBits`** — the pattern of the nearest value, a half going to the even neighbour.
* **`roundQuotient`** — the rounding step both of these rest on.
-/

namespace BoundSql.Floating

/-- **A binary format**: the bits of the significand, its leading one included, and the bits of the
exponent field. -/
structure Format where
  precision : Nat
  exponentBits : Nat

/-- The format of eight-byte numbers. -/
def binary64Format : Format := ⟨53, 11⟩

/-- The format of four-byte numbers. -/
def binary32Format : Format := ⟨24, 8⟩

/-- **What a pattern denotes.**  A finite number is `significand * 2 ^ exponent`, with the sign kept
apart so that the two zeros differ. -/
inductive Datum where
  | finite (negative : Bool) (significand : Nat) (exponent : Int)
  | infinite (negative : Bool)
  | nan
  deriving DecidableEq, Repr

/-- **The nearest whole number to `num / den`**, a half going to the even neighbour. -/
def roundQuotient (num den : Nat) : Nat :=
  let whole := num / den
  let rest := num % den
  if 2 * rest < den then whole
  else if den < 2 * rest then whole + 1
  else whole + whole % 2

namespace Format

/-- Bits of the fraction field: the leading one is not stored. -/
def fractionBits (f : Format) : Nat := f.precision - 1

/-- The exponent of the least positive number, by which subnormal numbers count. -/
def unitExponent (f : Format) : Int := 3 - (1 <<< (f.exponentBits - 1) : Nat) - f.precision

/-- The pattern of positive infinity: every exponent bit set and no fraction. -/
def infinityBits (f : Format) : Nat := (1 <<< f.exponentBits - 1) <<< f.fractionBits

/-- The weight of the sign bit. -/
def signBit (f : Format) : Nat := 1 <<< (f.exponentBits + f.fractionBits)

/-- The weight of the bit that marks a quiet NaN. -/
def quietBit (f : Format) : Nat := 1 <<< (f.fractionBits - 1)

/-- The pattern of the positive quiet NaN without a payload. -/
def nanBits (f : Format) : Nat := f.infinityBits + f.quietBit

/-- Adds the sign to the pattern of a magnitude. -/
def withSign (f : Format) (negative : Bool) (magnitude : Nat) : Nat :=
  if negative then f.signBit + magnitude else magnitude

/-- **Reads a pattern.**  With exponent field `0` the fraction counts units of the least number;
otherwise it follows a leading one. -/
def datum (f : Format) (bits : Nat) : Datum :=
  let negative := decide (f.signBit ≤ bits)
  let magnitude := bits % f.signBit
  let field := magnitude >>> f.fractionBits
  let fraction := magnitude % 1 <<< f.fractionBits
  if magnitude = f.infinityBits then .infinite negative
  else if f.infinityBits < magnitude then .nan
  else if field = 0 then .finite negative fraction f.unitExponent
  else .finite negative (1 <<< f.fractionBits + fraction) (f.unitExponent + (field - 1 : Nat))

/-- Whether `num / den` is at least `2 ^ e`, by cross multiplication. -/
def reaches (num den : Nat) (e : Int) : Bool :=
  decide (den <<< e.toNat ≤ num <<< (-e).toNat)

/-- The exponent of the leading bit of `num / den`: the difference of the two lengths, or one
less. -/
def leadingExponent (num den : Nat) : Int :=
  let guess : Int := (num.log2 : Int) - den.log2
  if reaches num den guess then guess else guess - 1

/-- **The pattern nearest to `num / den`**, sign apart.  Patterns of magnitudes are ordered as the
numbers they denote and each is one step above its predecessor, so a significand that rounds up to
a power of two moves into the next exponent by itself, and all that is too large stops at
infinity. -/
def magnitudeBits (f : Format) (num den : Nat) : Nat :=
  if num = 0 then 0
  else
    let exponent := max f.unitExponent (leadingExponent num den - f.fractionBits)
    let significand := roundQuotient (num <<< (-exponent).toNat) (den <<< exponent.toNat)
    min f.infinityBits ((exponent - f.unitExponent).toNat <<< f.fractionBits + significand)

/-- The pattern nearest to `significand * 2 ^ exponent`. -/
def scaledBits (f : Format) (significand : Nat) (exponent : Int) : Nat :=
  f.magnitudeBits (significand <<< exponent.toNat) (1 <<< (-exponent).toNat)

end Format

/-- A quotient of a multiple is that multiple: rounding changes nothing that is whole. -/
theorem roundQuotient_mul_right (n den : Nat) (h : 0 < den) : roundQuotient (n * den) den = n := by
  simp [roundQuotient, Nat.mul_div_cancel n h, h]

end BoundSql.Floating
