import BoundSql.Json.Parser
import BoundSql.Text.Utf8

/-!
# Percent-encoding

A character that may not stand in a part of a URL is written as its UTF-8 bytes, each as a percent
sign and two digits of base sixteen.  Which characters those are depends on the part; controls and
characters beyond ASCII are among them in every part.

* **`percentEncode`** — the text of a part, given the characters its part refuses.
* **`percentDecode`** — the bytes of a text.
* **`Part`**, **`Part.refuses`** — the parts of a URL and what they refuse.
-/

namespace BoundSql.Url

open Json Text

/-- The digit of base sixteen, with capital letters. -/
def capitalHexDigit (d : Nat) : Char := Char.ofNat (if d < 10 then 48 + d else 55 + d)

/-- A byte as a percent sign and two digits. -/
def percentByte (b : UInt8) : List Char :=
  ['%', capitalHexDigit (b.toNat / 16), capitalHexDigit (b.toNat % 16)]

/-- Controls and characters beyond ASCII. -/
def isControlOrForeign (c : Char) : Bool := c.toNat < 0x20 || 0x7F ≤ c.toNat

/-- **A text in which refused characters are encoded.**  A percent sign is not refused, so what is
encoded already stays as it is. -/
def percentEncode (refuses : Char → Bool) (cs : List Char) : List Char :=
  cs.flatMap fun c =>
    if isControlOrForeign c || refuses c then (encodeChar c).flatMap percentByte else [c]

/-- **The bytes of a text**; a percent sign without two digits after it stands for itself. -/
def percentDecode : List Char → List UInt8
  | [] => []
  | '%' :: a :: b :: rest =>
    match hexValue? a, hexValue? b with
    | some x, some y => (x * 16 + y).toUInt8 :: percentDecode rest
    | _, _ => 0x25 :: percentDecode (a :: b :: rest)
  | c :: rest => encodeChar c ++ percentDecode rest

/-- **The parts of a URL** that are encoded. -/
inductive Part where
  | fragment
  | query
  /-- The query of a scheme of the web. -/
  | webQuery
  | path
  | credentials
  /-- A host, and a path that does not start at a root. -/
  | opaqueText
  deriving DecidableEq, Repr

/-- **What a part refuses** besides controls and characters beyond ASCII. -/
def Part.refuses : Part → Char → Bool
  | .fragment, c => c ∈ [' ', '"', '<', '>', Char.ofNat 0x60]
  | .query, c => c ∈ [' ', '"', '#', '<', '>']
  | .webQuery, c => c ∈ [' ', '"', '#', '<', '>', '\'']
  | .path, c => c ∈ [' ', '"', '<', '>', Char.ofNat 0x60, '#', '?', '\x7b', '\x7d']
  | .credentials, c =>
    c ∈ [' ', '"', '<', '>', Char.ofNat 0x60, '#', '?', '\x7b', '\x7d', '/', ':', ';', '=', '@',
      '[', '\\', ']', '^', '|']
  | .opaqueText, _ => false

/-- The text of a part. -/
def Part.encode (p : Part) (cs : List Char) : List Char := percentEncode p.refuses cs

end BoundSql.Url
