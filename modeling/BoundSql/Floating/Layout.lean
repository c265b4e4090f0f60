import BoundSql.Decimal.Digits
import BoundSql.Floating.Shortest

/-!
# How a floating-point number is written

Every text starts from the shortest digits; what differs between outputs is held in one record.

* **`Layout`** — the decisions of one output.
* **`Layout.write`** — the text of a number under a layout.
* **`Layout.plain`**, **`Layout.detailed`**, **`Layout.document`** — the three outputs of this library.
-/

namespace BoundSql.Floating

open BoundSql.Decimal

/-- **The decisions of one output.** -/
structure Layout where
  /-- Where an exact tie between two shortest decimals goes. -/
  tie : Tie
  /-- The powers of ten of the leading digit for which no exponent is written, as the least and the
  greatest; `none` for all of them. -/
  positional : Option (Int × Int)
  /-- Whether a whole number ends in `.0`. -/
  wholePoint : Bool
  /-- Whether a positive exponent carries a plus sign. -/
  plusExponent : Bool

namespace Layout

/-- Digits with the point after the first `place + 1` of them, or zeros in front when `place` is
negative. -/
def pointed (wholePoint : Bool) (cs : List Char) (place : Int) : List Char :=
  if place < 0 then
    '0' :: '.' :: (List.replicate ((-place).toNat - 1) '0' ++ cs)
  else
    let whole := place.toNat + 1
    if cs.length ≤ whole then
      cs ++ List.replicate (whole - cs.length) '0' ++ (if wholePoint then ['.', '0'] else [])
    else cs.take whole ++ '.' :: cs.drop whole

/-- Digits with the point after the first one, and the exponent. -/
def scientific (plus : Bool) (cs : List Char) (place : Int) : List Char :=
  let mantissa :=
    match cs with
    | [] => []
    | [c] => [c]
    | c :: rest => c :: '.' :: rest
  let sign := if place < 0 then ['-'] else if plus then ['+'] else []
  mantissa ++ 'e' :: (sign ++ digits place.natAbs)

/-- The text of a positive number `n * 10 ^ g` whose digits do not end in zero. -/
def decimal (l : Layout) (n : Nat) (g : Int) : List Char :=
  let cs := digits n
  let place := g + cs.length - 1
  let positional :=
    match l.positional with
    | none => true
    | some (least, greatest) => decide (least ≤ place) && decide (place ≤ greatest)
  if positional then pointed l.wholePoint cs place else scientific l.plusExponent cs place

/-- **The text of a number.**  Zero keeps its sign. -/
def write (l : Layout) (x : Binary64) : List Char :=
  match x.datum with
  | .nan => ['N', 'a', 'N']
  | .infinite negative => if negative then ['-', 'i', 'n', 'f'] else ['i', 'n', 'f']
  | .finite negative m e =>
    let magnitude :=
      if m = 0 then pointed l.wholePoint ['0'] 0
      else
        let (n, g) := shortestDecimal binary64Format l.tie m e
        l.decimal n g
    if negative then '-' :: magnitude else magnitude

/-- **Plain text**: never an exponent and no point in a whole number. -/
def plain : Layout := ⟨.up, none, false, false⟩

/-- **Detailed text**: a point always, and an exponent below a ten-thousandth and from ten to the
sixteenth. -/
def detailed : Layout := ⟨.up, some (-4, 15), true, false⟩

/-- **Text inside a document**: as detailed, with the exponent one place later on the small side
and its plus sign written. -/
def document : Layout := ⟨.toEven, some (-5, 15), true, true⟩

end Layout

end BoundSql.Floating
