import BoundSql.Decimal.Digits
import BoundSql.Floating.Basic

/-!
# The shortest decimal of a floating-point number

A finite number is one point of an interval of reals that all round to it.  Among the decimals of
that interval the one with the fewest digits is taken, and of several with equally few the nearest
to the number.  On the grid of decimals with a fixed number of digits, a point of the interval
exists only if one of the number's two neighbours on the grid lies in it, so only those are tried.

* **`Spread.contains`** — membership of a decimal in the interval, in whole numbers.
* **`Spread.pick`** — the better neighbour on one grid.
* **`Binary64.shortest`** — the digits and the power of ten of the last one.
-/

namespace BoundSql.Floating

open Decimal

/-- Where an exact tie between the two neighbours goes. -/
inductive Tie where
  | toEven
  | up
  deriving DecidableEq, Repr

/-- **A number with its rounding interval**, all three counted in quarters of the last place:
the ends are `low / den` and `high / den`, the number itself `mid / den`. -/
structure Spread where
  low : Nat
  mid : Nat
  high : Nat
  den : Nat
  closed : Bool

namespace Spread

/-- The interval of `significand * 2 ^ exponent`.  Below a power of two the numbers lie twice as
dense, so the lower half is halved there, unless the exponent is already the least. -/
def ofFinite (f : Format) (significand : Nat) (exponent : Int) : Spread :=
  let tight := significand = 1 <<< f.fractionBits ∧ exponent ≠ f.unitExponent
  let quarter : Int := exponent - 2
  let up := quarter.toNat
  { low := (4 * significand - if tight then 1 else 2) <<< up
    mid := (4 * significand) <<< up
    high := (4 * significand + 2) <<< up
    den := 1 <<< (-quarter).toNat
    closed := decide (significand % 2 = 0) }

/-- Whether the decimal `n * 10 ^ g` rounds to the number.  The ends do when the significand is
even, for then the tie goes to it. -/
def contains (s : Spread) (n : Nat) (g : Int) : Bool :=
  let x := n * tenTo g.toNat * s.den
  let scale := tenTo (-g).toNat
  if s.closed then decide (s.low * scale ≤ x) && decide (x ≤ s.high * scale)
  else decide (s.low * scale < x) && decide (x < s.high * scale)

/-- **The best decimal with step `10 ^ g`**, if one lies in the interval: of the two neighbours the
nearer, and in a tie the one `tie` names. -/
def pick (s : Spread) (tie : Tie) (g : Int) : Option Nat :=
  let num := s.mid * tenTo (-g).toNat
  let den := s.den * tenTo g.toNat
  let below := num / den
  let rest := num % den
  let preferred :=
    if 2 * rest < den then below
    else if den < 2 * rest then below + 1
    else match tie with
      | .toEven => below + below % 2
      | .up => below + 1
  let other := if preferred = below then below + 1 else below
  if s.contains preferred g then some preferred
  else if s.contains other g then some other
  else none

/-- The place of the leading decimal digit of `mid / den`, found from an estimate by at most two
corrections. -/
def leadingPlace (s : Spread) : Int :=
  let estimate : Int := ((s.mid.log2 : Int) - s.den.log2 - 1) * 30103 / 100000
  let reaches (k : Int) : Bool := decide (s.den * tenTo k.toNat ≤ s.mid * tenTo (-k).toNat)
  if reaches (estimate + 2) then estimate + 2
  else if reaches (estimate + 1) then estimate + 1
  else if reaches estimate then estimate
  else estimate - 1

/-- Tries grids with one digit more each, for at most `fuel` of them; the last resort is the
decimal nearest to the number on the last grid. -/
def search (s : Spread) (tie : Tie) : (fuel : Nat) → (g : Int) → Nat × Int
  | 0, g => ((s.pick tie g).getD 0, g)
  | fuel + 1, g =>
    match s.pick tie g with
    | some n => (n, g)
    | none => search s tie fuel (g - 1)

end Spread

/-- Drops zeros from the end of `n`, raising the power of ten for each. -/
def dropZeros (n : Nat) (g : Int) : Nat × Int :=
  if h : n ≠ 0 ∧ n % 10 = 0 then dropZeros (n / 10) (g + 1) else (n, g)
termination_by n
decreasing_by omega

/-- **The shortest decimal of a positive number** `significand * 2 ^ exponent`: a whole number that
does not end in zero, and the power of ten it is multiplied by. -/
def shortestDecimal (f : Format) (tie : Tie) (significand : Nat) (exponent : Int) : Nat × Int :=
  let s := Spread.ofFinite f significand exponent
  let (n, g) := s.search tie 17 s.leadingPlace
  dropZeros n g

end BoundSql.Floating
