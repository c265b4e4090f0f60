import BoundSql.Decimal.Digits
import BoundSql.Text.Blank
import BoundSql.Wire.BigEndian

/-!
# Decimal numbers of any length

A decimal number is sent as a header of four words of two bytes, which hold the number of digits in
base ten thousand, the weight of the first of them, the sign and the number of places shown after
the point, and then those digits, a word each.  The digit at index `i` counts
`10000 ^ (weight - i)`.

* **`Literal`** — the accepted texts: `nan`, or a sign and digits with at most one point.
* **`Payload`** — what a number is sent as, and **`Payload.bytes`**, **`Payload.ofBytes?`**.
* **`Literal.payload`** — the payload of a literal, without zero digits at its two ends.
* **`Payload.write`** — the text of a payload, with as many places as it shows.
* **`encodeTo`** — writes the payload of a text behind what an output holds.
* **`encode`**, **`decode`** — from text to bytes and back.
-/

namespace BoundSql.Wire.Numeric

open BoundSql.Decimal BoundSql.Text

/-! ## Payloads -/

/-- **What a number is sent as.**  The sign is a word, since words without a meaning occur. -/
structure Payload where
  weight : Int
  sign : Nat
  scale : Nat
  digits : List Int
  deriving DecidableEq, Repr

/-- The sign word of a number that is not negative. -/
def positive : Nat := 0x0000

/-- The sign word of a negative number. -/
def negative : Nat := 0x4000

/-- The sign word of NaN. -/
def notANumber : Nat := 0xC000

namespace Payload

/-- The payload of NaN. -/
def nan : Payload := ⟨0, notANumber, 0, []⟩

/-- **The bytes of a payload.** -/
def bytes (p : Payload) : List UInt8 :=
  signedBytesOf 2 p.digits.length ++ signedBytesOf 2 p.weight ++ bytesOf 2 p.sign ++
    bytesOf 2 p.scale ++ p.digits.flatMap (signedBytesOf 2)

/-- The word at an index, if both its bytes are there. -/
def word? (raw : Array UInt8) (index : Nat) : Option (List UInt8) :=
  match raw[2 * index]?, raw[2 * index + 1]? with
  | some high, some low => some [high, low]
  | _, _ => none

/-- **The payload of some bytes**, which may go on after it; `none` if they end too early.  NaN has
no digits, whatever their number is said to be, and a negative number of digits is none. -/
def ofBytes? (bytes : List UInt8) : Option Payload := do
  let raw := bytes.toArray
  let count := signed (← word? raw 0)
  let weight := signed (← word? raw 1)
  let sign := unsigned (← word? raw 2)
  let scale := unsigned (← word? raw 3)
  if sign = notANumber then return ⟨weight, sign, scale, []⟩
  let digits ← (List.range count.toNat).mapM fun index => (word? raw (4 + index)).map signed
  return ⟨weight, sign, scale, digits⟩

/-! ## Text -/

/-- The digit that counts `10000 ^ exponent`; there are zeros on both sides of those that are
held. -/
def digitAt (weight : Int) (digits : Array Int) (exponent : Int) : Int :=
  if exponent ≤ weight then (digits[(weight - exponent).toNat]?).getD 0 else 0

/-- A digit in four characters or more, of which a minus sign is one. -/
def writeDigit (n : Int) : List Char :=
  if n < 0 then '-' :: padded 3 n.natAbs else padded 4 n.natAbs

/-- The text before the point. -/
def writeWhole (weight : Int) (digits : Array Int) : List Char :=
  if weight < 0 then ['0']
  else
    integer (digitAt weight digits weight) ++ (List.range weight.toNat).flatMap fun i : Nat =>
      writeDigit (digitAt weight digits (weight - 1 - i))

/-- The text after the point. -/
def writeFraction (weight : Int) (digits : Array Int) (scale : Nat) : List Char :=
  ((List.range ((scale + 3) / 4)).flatMap fun i : Nat =>
    writeDigit (digitAt weight digits (-1 - i))).take scale

/-- **The text of a payload.** -/
def write (p : Payload) : List Char :=
  if p.sign = notANumber then ['N', 'a', 'N']
  else
    let digits := p.digits.toArray
    let sign := if p.sign = negative ∧ p.digits ≠ [] then ['-'] else []
    let fraction := if p.scale = 0 then [] else '.' :: writeFraction p.weight digits p.scale
    sign ++ (writeWhole p.weight digits ++ fraction)

end Payload

/-! ## Literals -/

/-- **An accepted text**: NaN, or a sign and the digits before and after the point. -/
inductive Literal where
  | nan
  | decimal (negative : Bool) (whole fraction : List Char)
  deriving DecidableEq, Repr

/-- **Why a text is not sent as a number.** -/
inductive Fault where
  /-- It is not a literal; blanks around it are not shown. -/
  | notDecimal (text : List Char)
  /-- It has more places after the point, or more digits, than the header can tell. -/
  | tooLong
  deriving DecidableEq, Repr

/-- The text of a fault. -/
def Fault.message : Fault → String
  | .notDecimal text => "`" ++ String.ofList text ++ "` is not a decimal number"
  | .tooLong => "number too large to fit in target type"

namespace Literal

/-- Splits off an optional sign; `true` is minus. -/
def splitSign : List Char → Bool × List Char
  | '-' :: rest => (true, rest)
  | '+' :: rest => (false, rest)
  | cs => (false, cs)

/-- **Reads a literal.** -/
def ofText? (cs : List Char) : Option Literal :=
  if cs.map Char.toLower = ['n', 'a', 'n'] then some .nan
  else
    let (negative, unsigned) := splitSign cs
    let whole := unsigned.takeWhile (· != '.')
    let fraction := (unsigned.dropWhile (· != '.')).drop 1
    if (whole.isEmpty && fraction.isEmpty) || !allDigits whole || !allDigits fraction then none
    else some (.decimal negative whole fraction)

/-- Groups of four digits as numbers; the length is a multiple of four. -/
def groups : List Char → List Int
  | a :: b :: c :: d :: rest => (value [a, b, c, d] : Int) :: groups rest
  | _ => []

/-- The zeros that fill digits up to whole groups. -/
def filling (cs : List Char) : List Char := List.replicate ((4 - cs.length % 4) % 4) '0'

/-- **The payload of a literal.**  Zeros in front of the whole part do not count; groups of zeros are
dropped at both ends, and what is left of zero has no sign. -/
def payload : Literal → Except Fault Payload
  | .nan => .ok .nan
  | .decimal negative whole fraction =>
    if 65535 < fraction.length then .error .tooLong
    else
      let whole := whole.dropWhile (· == '0')
      let wholeGroups := groups (filling whole ++ whole)
      let all := wholeGroups ++ groups (fraction ++ filling fraction)
      let kept := all.dropWhile (· == 0)
      let digits := (kept.reverse.dropWhile (· == 0)).reverse
      if digits.isEmpty then .ok ⟨0, positive, fraction.length, []⟩
      else if 32767 < digits.length then .error .tooLong
      else
        let weight : Int := wholeGroups.length - 1 - (all.length - kept.length : Nat)
        .ok ⟨weight, if negative then Numeric.negative else positive, fraction.length, digits⟩

end Literal

/-! ## Writing to an output -/

/-- **A writer**: it adds bytes to those that an output holds, and it may fail on the way. -/
abbrev Writer := ExceptT Fault (StateM (List UInt8))

/-- **How a writer ends, and what the output holds then**, if it held some bytes before. -/
def Writer.on {α : Type} (writer : Writer α) (out : List UInt8) : Except Fault α × List UInt8 :=
  writer.run.run out

/-- Adds some bytes. -/
def put (bytes : List UInt8) : Writer Unit := modify (· ++ bytes)

/-- **Adds a payload**, word by word. -/
def Payload.put (p : Payload) : Writer Unit := do
  Numeric.put (signedBytesOf 2 p.digits.length)
  Numeric.put (signedBytesOf 2 p.weight)
  Numeric.put (bytesOf 2 p.sign)
  Numeric.put (bytesOf 2 p.scale)
  forM p.digits fun d => Numeric.put (signedBytesOf 2 d)

/-- **Writes a decimal text.**  Blanks around it are dropped. -/
def encodeTo (cs : List Char) : Writer Unit := do
  let cs := trim cs
  match Literal.ofText? cs with
  | some literal =>
    let p ← literal.payload
    p.put
  | none => throw (.notDecimal cs)

/-- **The bytes of a decimal text**: what is written to an empty output. -/
def encode (cs : List Char) : Except Fault (List UInt8) :=
  let (ending, bytes) := (encodeTo cs).on []
  ending.map fun _ => bytes

/-- **The text of some bytes**, or `none` if they end too early. -/
def decode (bytes : List UInt8) : Option (List Char) := (Payload.ofBytes? bytes).map Payload.write

end BoundSql.Wire.Numeric
