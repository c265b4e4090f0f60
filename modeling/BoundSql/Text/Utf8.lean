import BoundSql.Decimal.Digits

/-!
# Reading UTF-8

Bytes are read as characters one at a time.  Where no character can be read the position is
reported, with the number of bytes that are wrong together, or the fact that the text ends inside a
character.

* **`Utf8Fault`** — why bytes are not a text.
* **`decodeUtf8`** — the characters of the bytes.
* **`encodeUtf8`** — the bytes of the characters.
-/

namespace BoundSql.Text

/-- **Why bytes are not a text**: the number of bytes read so far, and the number of bytes that
together are no character, or `none` when they might yet become one. -/
structure Utf8Fault where
  validUpTo : Nat
  wrong : Option Nat
  deriving DecidableEq, Repr

/-- The text of a fault. -/
def Utf8Fault.message (f : Utf8Fault) : String :=
  let number (n : Nat) : String := String.ofList (Decimal.digits n)
  match f.wrong with
  | some n => "invalid utf-8 sequence of " ++ number n ++ " bytes from index " ++ number f.validUpTo
  | none => "incomplete utf-8 byte sequence from index " ++ number f.validUpTo

/-- Whether a byte continues a character. -/
def isContinuation (b : UInt8) : Bool := 0x80 ≤ b.toNat && b.toNat < 0xC0

/-- **The second byte that may follow a first one.**  Besides continuing, it keeps the character
from having a shorter form, from being half of a surrogate pair, and below the last character. -/
def mayFollow (first second : UInt8) : Bool :=
  let n := second.toNat
  match first.toNat with
  | 0xE0 => 0xA0 ≤ n && n < 0xC0
  | 0xED => 0x80 ≤ n && n < 0xA0
  | 0xF0 => 0x90 ≤ n && n < 0xC0
  | 0xF4 => 0x80 ≤ n && n < 0x90
  | _ => isContinuation second

/-- The number of bytes of a character by its first byte, or `none` if none starts with it. -/
def characterWidth (first : UInt8) : Option Nat :=
  let n := first.toNat
  if n < 0x80 then some 1
  else if 0xC2 ≤ n && n < 0xE0 then some 2
  else if 0xE0 ≤ n && n < 0xF0 then some 3
  else if 0xF0 ≤ n && n < 0xF5 then some 4
  else none

/-- One step: a character and the number of bytes it takes, or what is wrong. -/
def decodeChar (first : UInt8) (rest : List UInt8) : Except (Option Nat) (Char × Nat) :=
  match characterWidth first with
  | none => .error (some 1)
  | some 1 => .ok (Char.ofNat first.toNat, 1)
  | some width =>
    match rest with
    | [] => .error none
    | second :: rest =>
      if !mayFollow first second then .error (some 1)
      else if width = 2 then
        .ok (Char.ofNat (first.toNat % 0x20 * 0x40 + second.toNat % 0x40), 2)
      else match rest with
        | [] => .error none
        | third :: rest =>
          if !isContinuation third then .error (some 2)
          else if width = 3 then
            .ok (Char.ofNat
              ((first.toNat % 0x10 * 0x40 + second.toNat % 0x40) * 0x40 + third.toNat % 0x40), 3)
          else match rest with
            | [] => .error none
            | fourth :: _ =>
              if !isContinuation fourth then .error (some 3)
              else
                .ok (Char.ofNat
                  (((first.toNat % 0x08 * 0x40 + second.toNat % 0x40) * 0x40 +
                    third.toNat % 0x40) * 0x40 + fourth.toNat % 0x40), 4)

/-- Reads characters from position `pos`; `skip` bytes belong to the character read last and `done`
holds the characters so far, the last one first. -/
def decodeFrom (pos skip : Nat) (done : List Char) : List UInt8 → Except Utf8Fault (List Char)
  | [] => .ok done.reverse
  | b :: rest =>
    match skip with
    | skip + 1 => decodeFrom (pos + 1) skip done rest
    | 0 =>
      match decodeChar b rest with
      | .error wrong => .error ⟨pos, wrong⟩
      | .ok (c, width) => decodeFrom (pos + 1) (width - 1) (c :: done) rest

/-- **The characters of the bytes.** -/
def decodeUtf8 (bytes : List UInt8) : Except Utf8Fault (List Char) := decodeFrom 0 0 [] bytes

/-- The bytes of one character. -/
def encodeChar (c : Char) : List UInt8 :=
  let n := c.toNat
  let tail (k : Nat) : UInt8 := (0x80 + n >>> (6 * k) % 0x40).toUInt8
  if n < 0x80 then [n.toUInt8]
  else if n < 0x800 then [(0xC0 + n / 0x40).toUInt8, tail 0]
  else if n < 0x10000 then [(0xE0 + n / 0x1000).toUInt8, tail 1, tail 0]
  else [(0xF0 + n / 0x40000).toUInt8, tail 2, tail 1, tail 0]

/-- **The bytes of the characters.** -/
def encodeUtf8 (cs : List Char) : List UInt8 := cs.flatMap encodeChar

end BoundSql.Text
