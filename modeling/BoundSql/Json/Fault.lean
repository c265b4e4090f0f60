import BoundSql.Json.Parser
import BoundSql.Text.Utf8

/-!
# Why a text is no document

A text that is no document is read up to its first fault, which is told with its line and its
column.  Both count from the start of the text; a column counts bytes, and it is that of the byte
that is wrong, or of the last one where the text ends too early.

* **`Fault`** — what can be wrong, and **`Fault.message`**.
* **`Diagnosis`** — a fault and its place.
* **`diagnose`** — the first fault of a text, if it has one.
-/

namespace BoundSql.Json

open Decimal Text

/-- **What can be wrong with a document.** -/
inductive Fault where
  | endInList
  | endInObject
  | endInString
  | endInValue
  | expectedColon
  | expectedListEnd
  | expectedObjectEnd
  | expectedIdent
  | expectedValue
  | invalidEscape
  | invalidNumber
  | outOfRange
  | controlCharacter
  | nameNotString
  | loneSurrogate
  | trailingComma
  | trailingCharacters
  | endOfEscape
  | tooDeep
  deriving DecidableEq, Repr

/-- The text of a fault. -/
def Fault.message : Fault → String
  | .endInList => "EOF while parsing a list"
  | .endInObject => "EOF while parsing an object"
  | .endInString => "EOF while parsing a string"
  | .endInValue => "EOF while parsing a value"
  | .expectedColon => "expected `:`"
  | .expectedListEnd => "expected `,` or `]`"
  | .expectedObjectEnd => "expected `,` or `\x7d`"
  | .expectedIdent => "expected ident"
  | .expectedValue => "expected value"
  | .invalidEscape => "invalid escape"
  | .invalidNumber => "invalid number"
  | .outOfRange => "number out of range"
  | .controlCharacter =>
    "control character (\\u0000-\\u001F) found while parsing a string"
  | .nameNotString => "key must be a string"
  | .loneSurrogate => "lone leading surrogate in hex escape"
  | .trailingComma => "trailing comma"
  | .trailingCharacters => "trailing characters"
  | .endOfEscape => "unexpected end of hex escape"
  | .tooDeep => "recursion limit exceeded"

/-- Skips a part of a text, or finds a fault; the number tells how many bytes are left behind the
place of the fault. -/
abbrev Skip := List UInt8 → Except (Fault × Nat) (List UInt8)

/-- A fault before the given rest. -/
def before {α : Type} (fault : Fault) (rest : List UInt8) : Except (Fault × Nat) α :=
  .error (fault, rest.length)

/-- A fault at the first byte of the given rest, or at the end if there is none. -/
def within {α : Type} (fault : Fault) (rest : List UInt8) : Except (Fault × Nat) α :=
  .error (fault, rest.length - 1)

/-- The byte of an ASCII character. -/
def byte (c : Char) : UInt8 := c.toNat.toUInt8

/-- Whether a byte is an ASCII digit. -/
def isDigitByte (b : UInt8) : Bool := 48 ≤ b.toNat && b.toNat ≤ 57

/-- The characters of ASCII bytes. -/
def charsOf (bytes : List UInt8) : List Char := bytes.map fun b => Char.ofNat b.toNat

/-- The bytes without the blanks in front. -/
def skipBlanks (bytes : List UInt8) : List UInt8 :=
  bytes.dropWhile fun b => isSpace (Char.ofNat b.toNat)

/-- The rest of one of the three words, after its first letter. -/
def skipWord : List Char → Skip
  | [], rest => .ok rest
  | _ :: _, [] => before .endInValue []
  | c :: word, b :: rest => if b = byte c then skipWord word rest else before .expectedIdent rest

/-- The number of an escape of four digits. -/
def hexBytes? (a b c d : UInt8) : Option Nat :=
  match charsOf [a, b, c, d] with
  | [a, b, c, d] => hexQuad? a b c d
  | _ => none

/-- The rest of a text after its opening quote. -/
def skipString : Skip
  | [] => before .endInString []
  | b :: rest =>
    if b = byte '"' then .ok rest
    else if b.toNat < 0x20 then before .controlCharacter rest
    else if b ≠ byte '\\' then skipString rest
    else match rest with
      | [] => before .endInString []
      | e :: rest =>
        if e ≠ byte 'u' then
          if (escapeLetter? (Char.ofNat e.toNat)).isSome then skipString rest
          else before .invalidEscape rest
        else match rest with
          | a :: b :: c :: d :: rest =>
            match hexBytes? a b c d with
            | none => before .invalidEscape rest
            | some n =>
              if 0xDC00 ≤ n ∧ n < 0xE000 then before .loneSurrogate rest
              else if n < 0xD800 ∨ 0xE000 ≤ n then skipString rest
              else match rest with
                | [] => before .endInString []
                | s :: rest =>
                  if s ≠ byte '\\' then before .endOfEscape rest
                  else match rest with
                    | [] => before .endInString []
                    | u :: rest =>
                      if u ≠ byte 'u' then before .endOfEscape rest
                      else match rest with
                        | a :: b :: c :: d :: rest =>
                          match hexBytes? a b c d with
                          | none => before .invalidEscape rest
                          | some n =>
                            if 0xDC00 ≤ n ∧ n < 0xE000 then skipString rest
                            else before .loneSurrogate rest
                        | _ => before .endInString []
          | _ => before .endInString []

/-- The exponent of a number, and what follows.  Where the number is not zero and its exponent exceeds
the greatest one, reading stops at once. -/
def skipExponent (significand : List UInt8) : Skip := fun bytes =>
  match bytes with
  | e :: rest =>
    if e = byte 'e' ∨ e = byte 'E' then
      let (negative, rest) :=
        match rest with
        | s :: rest' =>
          if s = byte '+' then (false, rest') else if s = byte '-' then (true, rest')
          else (false, rest)
        | [] => (false, rest)
      match rest with
      | [] => before .endInValue []
      | d :: rest' =>
        if !isDigitByte d then before .invalidNumber rest'
        else
          let ds := rest.takeWhile isDigitByte
          let after := rest.dropWhile isDigitByte
          let zero := significand.all fun b => b == byte '0' || b == byte '.'
          let tooGreat := (List.range (ds.length + 1)).find? fun n =>
            greatestExponent < value (charsOf (ds.take n))
          match tooGreat with
          | some n =>
            if zero || negative then .ok after
            else .error (.outOfRange, ds.length - n + after.length)
          | none => .ok after
    else .ok bytes
  | [] => .ok bytes

/-- The digits after the point of a number, and its exponent. -/
def skipFraction (whole : List UInt8) : Skip := fun bytes =>
  match bytes with
  | p :: rest =>
    if p = byte '.' then
      let ds := rest.takeWhile isDigitByte
      let after := rest.dropWhile isDigitByte
      if ds.isEmpty then
        if after.isEmpty then before .endInValue [] else within .invalidNumber after
      else skipExponent (whole ++ ds) after
    else skipExponent whole bytes
  | [] => .ok []

/-- A number without its sign; it must be a finite one. -/
def skipNumber (negative : Bool) : Skip := fun bytes =>
  match bytes with
  | [] => before .endInValue []
  | d :: rest =>
    if !isDigitByte d then before .invalidNumber rest
    else if d = byte '0' ∧ (rest.head?.map isDigitByte).getD false then within .invalidNumber rest
    else do
      let whole := bytes.takeWhile isDigitByte
      let after ← skipFraction whole (bytes.dropWhile isDigitByte)
      let literal := charsOf (bytes.take (bytes.length - after.length))
      match (readNumber negative literal).bind fun l => l.1.number? with
      | some _ => return after
      | none => before .outOfRange after

mutual

/-- A value, with the number of levels that may still be opened. -/
def skipValue : (fuel levels : Nat) → Skip
  | 0, _ => fun rest => before .endInValue rest
  | fuel + 1, levels => fun bytes =>
    match skipBlanks bytes with
    | [] => before .endInValue []
    | b :: rest =>
      if b = byte 'n' then skipWord ['u', 'l', 'l'] rest
      else if b = byte 't' then skipWord ['r', 'u', 'e'] rest
      else if b = byte 'f' then skipWord ['a', 'l', 's', 'e'] rest
      else if b = byte '-' then skipNumber true rest
      else if isDigitByte b then skipNumber false (b :: rest)
      else if b = byte '"' then skipString rest
      else if b = byte '[' then
        if levels = 0 then before .tooDeep rest
        else match skipBlanks rest with
          | [] => before .endInList []
          | c :: rest =>
            if c = byte ']' then .ok rest else skipItems fuel (levels - 1) (c :: rest)
      else if b = byte '\x7b' then
        if levels = 0 then before .tooDeep rest
        else match skipBlanks rest with
          | [] => before .endInObject []
          | c :: rest =>
            if c = byte '\x7d' then .ok rest
            else if c = byte '"' then skipMembers fuel (levels - 1) rest
            else before .nameNotString rest
      else before .expectedValue rest

/-- The items of a list up to the closing bracket. -/
def skipItems : (fuel levels : Nat) → Skip
  | 0, _ => fun rest => before .endInList rest
  | fuel + 1, levels => fun bytes => do
    let rest ← skipValue fuel levels bytes
    match skipBlanks rest with
    | [] => before .endInList []
    | b :: rest =>
      if b = byte ']' then return rest
      else if b = byte ',' then
        match skipBlanks rest with
        | [] => before .endInValue []
        | c :: rest =>
          if c = byte ']' then before .trailingComma rest
          else skipItems fuel levels (c :: rest)
      else before .expectedListEnd rest

/-- The members up to the closing brace, from behind the opening quote of a name. -/
def skipMembers : (fuel levels : Nat) → Skip
  | 0, _ => fun rest => before .endInObject rest
  | fuel + 1, levels => fun bytes => do
    let rest ← skipString bytes
    match skipBlanks rest with
    | [] => before .endInObject []
    | b :: rest =>
      if b ≠ byte ':' then before .expectedColon rest
      else
        let rest ← skipValue fuel levels rest
        match skipBlanks rest with
        | [] => before .endInObject []
        | b :: rest =>
          if b = byte '\x7d' then return rest
          else if b = byte ',' then
            match skipBlanks rest with
            | [] => before .endInValue []
            | c :: rest =>
              if c = byte '"' then skipMembers fuel levels rest
              else if c = byte '\x7d' then before .trailingComma rest
              else before .nameNotString rest
          else before .expectedObjectEnd rest

end

/-- **A fault and its place.** -/
structure Diagnosis where
  fault : Fault
  line : Nat
  column : Nat
  deriving DecidableEq, Repr

/-- The text of a diagnosis. -/
def Diagnosis.message (d : Diagnosis) : String :=
  d.fault.message ++ " at line " ++ String.ofList (digits d.line) ++ " column " ++
    String.ofList (digits d.column)

/-- **The first fault of a text**, or `none` for the text of a document. -/
def diagnose (s : String) : Option Diagnosis :=
  let bytes := encodeUtf8 s.toList
  let read : Except (Fault × Nat) Unit := do
    let rest ← skipValue (2 * bytes.length + 2) nestingLimit bytes
    match skipBlanks rest with
    | [] => return ()
    | _ :: rest => before .trailingCharacters rest
  match read with
  | .ok _ => none
  | .error (fault, left) =>
    let passed := bytes.take (bytes.length - left)
    let line := passed.reverse.takeWhile (· != byte '\n')
    some ⟨fault, 1 + passed.count (byte '\n'), line.length⟩

end BoundSql.Json
