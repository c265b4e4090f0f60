import BoundSql.Decimal.Digits
import BoundSql.Floating.Layout
import BoundSql.Json.Basic
import BoundSql.Text.Quoted

/-!
# Writing documents

The text of a document has no blanks.  In a text only the quote, the backslash and the controls
below the space are escaped, by a letter where there is one and by four digits otherwise.

* **`Json.quote`** — a text in quotes.
* **`Json.write`** — the text of a document.
-/

namespace BoundSql.Json

open Decimal Floating Text

/-- What stands for one character between the quotes. -/
def escapedChar (c : Char) : List Char :=
  if c = '"' then ['\\', '"']
  else if c = '\\' then ['\\', '\\']
  else if c = '\n' then ['\\', 'n']
  else if c = '\r' then ['\\', 'r']
  else if c = '\t' then ['\\', 't']
  else if c.toNat = 0x08 then ['\\', 'b']
  else if c.toNat = 0x0C then ['\\', 'f']
  else if c.toNat < 0x20 then
    ['\\', 'u', '0', '0', hexDigit (c.toNat / 16), hexDigit (c.toNat % 16)]
  else [c]

/-- **A text in quotes.** -/
def quote (cs : List Char) : List Char := '"' :: (cs.flatMap escapedChar ++ ['"'])

/-- The text of a number. -/
def Number.write : Number → List Char
  | .whole n => integer n
  | .real x => Layout.document.write x

mutual

/-- **The text of a document.** -/
def write : Json → List Char
  | .null => ['n', 'u', 'l', 'l']
  | .bool true => ['t', 'r', 'u', 'e']
  | .bool false => ['f', 'a', 'l', 's', 'e']
  | .number n => n.write
  | .string s => quote s.toList
  | .array items => '[' :: (writeItems items ++ [']'])
  | .object members => '\x7b' :: (writeMembers members ++ ['\x7d'])

/-- The items, with commas between them. -/
def writeItems : List Json → List Char
  | [] => []
  | [v] => write v
  | v :: w :: rest => write v ++ ',' :: writeItems (w :: rest)

/-- The members, with commas between them and a colon after each name. -/
def writeMembers : List (String × Json) → List Char
  | [] => []
  | [(n, v)] => quote n.toList ++ ':' :: write v
  | (n, v) :: m :: rest => quote n.toList ++ ':' :: (write v ++ ',' :: writeMembers (m :: rest))

end

/-- The text of a document, as a string. -/
def text (j : Json) : String := String.ofList j.write

end BoundSql.Json
