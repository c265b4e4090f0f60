import BoundSql.Decimal.Digits
import BoundSql.Json.Parser
import BoundSql.Text.Quoted

/-!
# Numeric addresses

An address of sixteen bytes is eight pieces of two bytes in base sixteen, between which one run of
zeros may be left out; the last two pieces may be given as an address of four bytes.

* **`readAddress6`**, **`writeAddress6`** — addresses of sixteen bytes.
* **`readAddress4?`**, **`writeAddress4`** — addresses of four bytes, as hosts of the web give them.
-/

namespace BoundSql.Url

open Decimal Json Text

/-- A part between points of the last two pieces: a number below 256 without superfluous zeros. -/
def octet? (cs : List Char) : Option Nat :=
  if cs.isEmpty || !allDigits cs || (cs.head? == some '0' && cs.length ≠ 1) then none
  else
    let n := value cs
    if n < 256 then some n else none

/-- A text cut at every point. -/
def splitPoints (cs : List Char) : List (List Char) := cs.splitOn '.'

/-- The last two pieces, given as four numbers between points. -/
def lastPieces? (cs : List Char) : Option (List Nat) :=
  match (splitPoints cs).mapM octet? with
  | some [a, b, c, d] => some [a * 256 + b, c * 256 + d]
  | _ => none

/-- The number of up to four digits of base sixteen. -/
def hexNumber (cs : List Char) : Nat := cs.foldl (fun acc c => acc * 16 + (hexValue? c).getD 0) 0

/-- The pieces of an address and where zeros are left out among them.  The piece at which they are
counts as one.  The first number bounds the steps, one to each piece. -/
def readPieces6 : Nat → List Nat → Option Nat → List Char → Option (List Nat × Option Nat)
  | _, pieces, gap, [] => some (pieces, gap)
  | 0, _, _, _ => none
  | fuel + 1, pieces, gap, ':' :: rest =>
    if pieces.length = 8 ∨ gap.isSome then none
    else readPieces6 fuel (pieces ++ [0]) (some (pieces.length + 1)) rest
  | fuel + 1, pieces, gap, cs =>
    if pieces.length = 8 then none
    else
      let ds := (cs.take 4).takeWhile fun c => (hexValue? c).isSome
      match cs.drop ds.length with
      | [] => some (pieces ++ [hexNumber ds], gap)
      | '.' :: _ =>
        if ds.isEmpty ∨ 6 < pieces.length then none
        else (lastPieces? cs).map fun last => (pieces ++ last, gap)
      | [':'] => none
      | ':' :: rest => readPieces6 fuel (pieces ++ [hexNumber ds]) gap rest
      | _ => none

/-- **The eight pieces of an address.** -/
def readAddress6 (cs : List Char) : Option (List Nat) :=
  let read :=
    match cs with
    | ':' :: ':' :: rest => readPieces6 9 [0] (some 1) rest
    | ':' :: _ => none
    | [] | [_] => none
    | cs => readPieces6 9 [] none cs
  match read with
  | some (pieces, some gap) =>
    some (pieces.take gap ++ List.replicate (8 - pieces.length) 0 ++ pieces.drop gap)
  | some (pieces, none) => if pieces.length = 8 then some pieces else none
  | none => none

/-- The start and the length of the first of the longest runs of zeros. -/
def longestZeros (pieces : List Nat) : Nat × Nat :=
  (List.range pieces.length).foldl (fun (start, length) i =>
    let run := ((pieces.drop i).takeWhile (· == 0)).length
    if length < run then (i, run) else (start, length)) (0, 0)

/-- Pieces with colons between them. -/
def joinPieces (pieces : List Nat) : List Char := [':'].intercalate (pieces.map hexDigits)

/-- **The text of an address**; the longest run of zeros is left out if it has two or more. -/
def writeAddress6 (pieces : List Nat) : List Char :=
  let (start, length) := longestZeros pieces
  if length < 2 then joinPieces pieces
  else
    joinPieces (pieces.take start) ++ ':' :: ':' :: joinPieces (pieces.drop (start + length))

/-! ## Addresses of four bytes -/

/-- A number in base ten, in base eight after `0`, or in base sixteen after `0x`. -/
def webNumber? (cs : List Char) : Option Nat :=
  let read (base : Nat) (ds : List Char) : Option Nat :=
    if ds.all fun c => ((hexValue? c).map fun d => decide (d < base)).getD false then
      some (ds.foldl (fun acc c => acc * base + (hexValue? c).getD 0) 0)
    else none
  match cs with
  | '0' :: 'x' :: ds | '0' :: 'X' :: ds => read 16 ds
  | ['0'] => some 0
  | '0' :: ds => read 8 ds
  | [] => none
  | ds => read 10 ds

/-- The parts between points; an empty part at the end does not count. -/
def addressParts (cs : List Char) : List (List Char) :=
  let parts := splitPoints cs
  if parts.length > 1 ∧ parts.getLast? = some [] then parts.dropLast else parts

/-- **Whether a host is meant as an address of four bytes**: its last part is a number. -/
def endsInNumber (cs : List Char) : Bool :=
  match (addressParts cs).getLast? with
  | some last =>
    (!last.isEmpty && allDigits last) ||
      ((last.take 2 == ['0', 'x'] || last.take 2 == ['0', 'X']) && (webNumber? last).isSome)
  | none => false

/-- **The number of an address of four bytes.**  Every part but the last is one byte, and the last
one fills what is left. -/
def readAddress4? (cs : List Char) : Option Nat := do
  let numbers ← (addressParts cs).mapM webNumber?
  let last ← numbers.getLast?
  let front := numbers.dropLast
  let left := 8 * (4 - front.length)
  if 4 < numbers.length ∨ front.any (255 < ·) ∨ 1 <<< left ≤ last then none
  else return front.foldl (fun acc n => acc * 256 + n) 0 <<< left + last

/-- **The text of an address of four bytes.** -/
def writeAddress4 (n : Nat) : List Char :=
  ['.'].intercalate ([n >>> 24, n >>> 16 % 256, n >>> 8 % 256, n % 256].map digits)

end BoundSql.Url
