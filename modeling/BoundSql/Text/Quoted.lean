import BoundSql.Text.Printable

/-!
# Quoted text

A text in double quotes, as it appears inside the description of a structure: quotes, backslashes
and line controls are escaped by a letter, and characters that would not be seen by their number.

* **`quotedChar`** — what stands for one character.
* **`quoted`** — the text in quotes.
* **`hexDigits`** — the digits of a number in base sixteen.
-/

namespace BoundSql.Text

/-- The digit of base sixteen below sixteen. -/
def hexDigit (d : Nat) : Char := Char.ofNat (if d < 10 then 48 + d else 87 + d)

/-- The digits of a number in base sixteen, with no superfluous zero. -/
def hexDigits (n : Nat) : List Char :=
  if n < 16 then [hexDigit n] else hexDigits (n / 16) ++ [hexDigit (n % 16)]

/-- **What stands for one character** between the quotes. -/
def quotedChar (c : Char) : List Char :=
  if c.toNat = 0 then ['\\', '0']
  else if c = '\t' then ['\\', 't']
  else if c = '\r' then ['\\', 'r']
  else if c = '\n' then ['\\', 'n']
  else if c = '"' then ['\\', '"']
  else if c = '\\' then ['\\', '\\']
  else if isPrintable c && !extendsGrapheme c then [c]
  else ['\\', 'u', '\x7b'] ++ hexDigits c.toNat ++ ['\x7d']

/-- **A text in double quotes.** -/
def quoted (cs : List Char) : List Char := '"' :: (cs.flatMap quotedChar ++ ['"'])

end BoundSql.Text
