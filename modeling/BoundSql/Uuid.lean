import BoundSql.Text.Quoted
import BoundSql.Json.Parser

/-!
# Universally unique identifiers

Sixteen bytes, written as thirty-two digits of base sixteen in groups of eight, four, four, four and
twelve.

* **`Uuid`** — the type, and **`Uuid.ofBytes?`**, **`Uuid.bytes`** for its bytes.
* **`Uuid.write`** — the text, with hyphens between the groups.
* **`Uuid.ofText?`** — the accepted texts: with hyphens, bare or in braces or after `urn:uuid:`, and
  without hyphens.
-/

namespace BoundSql

/-- **An identifier of sixteen bytes.** -/
structure Uuid where
  number : BitVec 128
  deriving DecidableEq, Repr, Inhabited

namespace Uuid

open Text Json

/-- The identifier with the given bytes, most significant first; there must be sixteen. -/
def ofBytes? (bytes : List UInt8) : Option Uuid :=
  if bytes.length = 16 then
    some ⟨BitVec.ofNat 128 (bytes.foldl (fun acc b => acc * 256 + b.toNat) 0)⟩
  else none

/-- The sixteen bytes, most significant first. -/
def bytes (u : Uuid) : List UInt8 :=
  (List.range 16).map fun i => (u.number.toNat >>> (8 * (15 - i)) % 256).toUInt8

/-- The thirty-two digits. -/
def hexText (u : Uuid) : List Char :=
  u.bytes.flatMap fun b => [hexDigit (b.toNat / 16), hexDigit (b.toNat % 16)]

/-- **The text of an identifier.** -/
def write (u : Uuid) : List Char :=
  let cs := u.hexText
  cs.take 8 ++ '-' :: ((cs.drop 8).take 4 ++ '-' :: ((cs.drop 12).take 4 ++
    '-' :: ((cs.drop 16).take 4 ++ '-' :: cs.drop 20)))

/-- The identifier of thirty-two digits, in any case of letters. -/
def ofHex? (cs : List Char) : Option Uuid :=
  if cs.length = 32 then
    (cs.mapM hexValue?).map fun ds => ⟨BitVec.ofNat 128 (ds.foldl (fun acc d => acc * 16 + d) 0)⟩
  else none

/-- The identifier of thirty-six characters with hyphens between the groups. -/
def ofHyphenated? (cs : List Char) : Option Uuid :=
  let hyphenAt (i : Nat) : Bool := cs[i]? == some '-'
  if cs.length = 36 ∧ hyphenAt 8 ∧ hyphenAt 13 ∧ hyphenAt 18 ∧ hyphenAt 23 then
    ofHex? (cs.take 8 ++ (cs.drop 9).take 4 ++ (cs.drop 14).take 4 ++ (cs.drop 19).take 4 ++
      cs.drop 24)
  else none

/-- What follows `urn:uuid:`, in any case of letters. -/
def afterName? (cs : List Char) : Option (List Char) :=
  if (cs.take 9).map Char.toLower = "urn:uuid:".toList then some (cs.drop 9) else none

/-- **Reads an identifier** in any of the accepted forms, which differ in length. -/
def ofText? (cs : List Char) : Option Uuid :=
  match cs.length with
  | 32 => ofHex? cs
  | 36 => ofHyphenated? cs
  | 38 =>
    if cs.head? = some '\x7b' ∧ cs.getLast? = some '\x7d' then ofHyphenated? ((cs.drop 1).take 36)
    else none
  | 45 => (afterName? cs).bind ofHyphenated?
  | _ => none

end Uuid

end BoundSql
