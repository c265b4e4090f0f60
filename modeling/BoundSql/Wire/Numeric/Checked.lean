import BoundSql.Text.Utf8
import BoundSql.Wire.Numeric

/-!
# Numbers read step by step

`decode` computes with integers of any size, and a text that is cut off is as long as it can be.  A
reader has less to rely on: exponents are numbers of four bytes, whose difference may have no room
in four bytes, and a text is cut behind so many of its bytes, where it may have ended before or be
inside a character.  Here each of these steps is checked, and the first that cannot be taken ends
the reading.

* **`Stop`** — how reading ends without a text.
* `difference`, **`firstBytes`** — the steps that cannot always be taken.
* **`Checked.write`** — the text of a payload.
* **`Checked.decode`** — the text of some bytes.
-/

namespace BoundSql.Wire.Numeric

open BoundSql.Decimal BoundSql.Text

/-- **How reading ends without a text.**  Bytes may be refused; nothing is answered at all if a step
cannot be taken. -/
inductive Stop where
  /-- The bytes end too early, and they are refused. -/
  | truncated
  /-- A difference has no room in four bytes. -/
  | overflow
  /-- A text ends in front of the place where it is cut, or there is a character across it. -/
  | outOfBounds
  deriving DecidableEq, Repr

namespace Checked

/-- The difference of two exponents. -/
def difference (a b : Int) : Except Stop Int :=
  if -2147483648 ≤ a - b ∧ a - b ≤ 2147483647 then .ok (a - b) else .error .overflow

/-- **The first bytes of a text**, which is cut behind them. -/
def firstBytes : Nat → List Char → Except Stop (List Char)
  | 0, _ => .ok []
  | _ + 1, [] => .error .outOfBounds
  | n + 1, c :: rest =>
    if n + 1 < (encodeChar c).length then .error .outOfBounds
    else (firstBytes (n + 1 - (encodeChar c).length) rest).map (c :: ·)

/-- The digit that counts `10000 ^ exponent`.  Where the difference is no index there is no digit
held. -/
def digitAt (weight : Int) (digits : Array Int) (exponent : Int) : Except Stop Int := do
  let index ← difference weight exponent
  return if index < 0 then 0 else (digits[index.toNat]?).getD 0

/-- The text before the point. -/
def writeWhole (weight : Int) (digits : Array Int) : Except Stop (List Char) :=
  if weight < 0 then .ok ['0']
  else do
    let first ← digitAt weight digits weight
    let others ← (List.range weight.toNat).mapM fun i : Nat =>
      digitAt weight digits (weight - 1 - i)
    return integer first ++ others.flatMap Payload.writeDigit

/-- The text after the point: whole groups, cut behind as many bytes as there are places. -/
def writeFraction (weight : Int) (digits : Array Int) (scale : Nat) : Except Stop (List Char) := do
  let groups ← (List.range ((scale + 3) / 4)).mapM fun i : Nat => do
    let exponent ← difference 0 (i + 1)
    digitAt weight digits exponent
  firstBytes scale (groups.flatMap Payload.writeDigit)

/-- **The text of a payload.** -/
def write (p : Payload) : Except Stop (List Char) :=
  if p.sign = notANumber then .ok ['N', 'a', 'N']
  else do
    let digits := p.digits.toArray
    let sign := if p.sign = negative ∧ p.digits ≠ [] then ['-'] else []
    let whole ← writeWhole p.weight digits
    let fraction ← if p.scale = 0 then pure []
      else (writeFraction p.weight digits p.scale).map ('.' :: ·)
    return sign ++ (whole ++ fraction)

/-- **The text of some bytes.**  A word that is not there refuses them. -/
def decode (bytes : List UInt8) : Except Stop (List Char) :=
  match Payload.ofBytes? bytes with
  | none => .error .truncated
  | some p => write p

end Checked

end BoundSql.Wire.Numeric
