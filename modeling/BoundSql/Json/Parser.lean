import BoundSql.Json.Number

/-!
# Reading documents

Reading takes two steps.  The first follows the grammar and yields a draft, in which a literal that
denotes nothing (a number that is not finite, a text with half a surrogate pair) is still only
noted.  The second turns a draft into a document: it refuses noted faults and nesting beyond a
limit, and it puts members in order.  A reader that skips part of a draft thereby accepts faults in
that part.

* **`Draft`** — what the grammar yields.
* **`Draft.ofText?`** — the grammar.
* **`Draft.toJson?`** — the document of a draft.
* **`Json.ofText?`** — both steps, with the limit for a whole text.
-/

namespace BoundSql.Json

open Decimal

/-- **A document as far as the grammar goes.**  A literal without a meaning is `none`. -/
inductive Draft where
  | null
  | bool (b : Bool)
  | number (n : Option Number)
  | string (s : Option String)
  | array (items : List Draft)
  | object (members : List (Option String × Draft))
  deriving Repr, Inhabited

/-! ## Texts -/

/-- A piece of a text: a character, or an escaped half of a surrogate pair. -/
inductive Unit16 where
  | char (c : Char)
  | half (n : Nat)
  deriving DecidableEq, Repr

/-- The value of a digit of base sixteen. -/
def hexValue? (c : Char) : Option Nat :=
  if '0' ≤ c ∧ c ≤ '9' then some (c.toNat - 48)
  else if 'a' ≤ c ∧ c ≤ 'f' then some (c.toNat - 87)
  else if 'A' ≤ c ∧ c ≤ 'F' then some (c.toNat - 55)
  else none

/-- The number of four digits of base sixteen. -/
def hexQuad? (a b c d : Char) : Option Nat := do
  let a ← hexValue? a
  let b ← hexValue? b
  let c ← hexValue? c
  let d ← hexValue? d
  return ((a * 16 + b) * 16 + c) * 16 + d

/-- The piece with the given number. -/
def Unit16.ofNat (n : Nat) : Unit16 :=
  if 0xD800 ≤ n ∧ n < 0xE000 then .half n else .char (Char.ofNat n)

/-- The character of an escape of one letter. -/
def escapeLetter? (c : Char) : Option Char :=
  if c = '"' ∨ c = '\\' ∨ c = '/' then some c
  else if c = 'b' then some (Char.ofNat 8)
  else if c = 'f' then some (Char.ofNat 12)
  else if c = 'n' then some '\n'
  else if c = 'r' then some '\r'
  else if c = 't' then some '\t'
  else none

/-- **The pieces up to the closing quote**, and what follows it; `done` holds the pieces so far, the
last one first. -/
def readPieces (done : List Unit16) : List Char → Option (List Unit16 × List Char)
  | [] => none
  | '"' :: rest => some (done.reverse, rest)
  | '\\' :: 'u' :: a :: b :: c :: d :: rest =>
    match hexQuad? a b c d with
    | some n => readPieces (.ofNat n :: done) rest
    | none => none
  | '\\' :: c :: rest =>
    match escapeLetter? c with
    | some x => readPieces (.char x :: done) rest
    | none => none
  | c :: rest => if c.toNat < 0x20 then none else readPieces (.char c :: done) rest

/-- **Joins halves to characters.**  A first half needs a second one directly after it, and a second
half may not stand alone. -/
def joinHalves : List Unit16 → Option (List Char)
  | [] => some []
  | .char c :: rest => (joinHalves rest).map (c :: ·)
  | .half a :: .half b :: rest =>
    if a < 0xDC00 ∧ 0xDC00 ≤ b then
      (joinHalves rest).map
        (Char.ofNat (0x10000 + (a - 0xD800) * 0x400 + (b - 0xDC00)) :: ·)
    else none
  | .half _ :: _ => none

/-- A text after its opening quote. -/
def readString (cs : List Char) : Option (Option String × List Char) :=
  (readPieces [] cs).map fun (pieces, rest) => ((joinHalves pieces).map String.ofList, rest)

/-! ## Numbers -/

/-- The exponent part, if there is one. -/
def readExponent (cs : List Char) : Option (Option (Bool × List Char) × List Char) :=
  match cs with
  | c :: rest =>
    if c = 'e' ∨ c = 'E' then
      let (negative, rest) :=
        match rest with
        | '+' :: rest => (false, rest)
        | '-' :: rest => (true, rest)
        | rest => (false, rest)
      let ds := rest.takeWhile Char.isDigit
      if ds.isEmpty then none else some (some (negative, ds), rest.dropWhile Char.isDigit)
    else some (none, cs)
  | [] => some (none, cs)

/-- **A number literal**: no superfluous zero in front, and a digit at least after a point. -/
def readNumber (negative : Bool) (cs : List Char) : Option (NumberLiteral × List Char) :=
  let whole := cs.takeWhile Char.isDigit
  let rest := cs.dropWhile Char.isDigit
  if whole.isEmpty || (whole.head? == some '0' && whole.length ≠ 1) then none
  else
    match rest with
    | '.' :: rest =>
      let fraction := rest.takeWhile Char.isDigit
      if fraction.isEmpty then none
      else (readExponent (rest.dropWhile Char.isDigit)).map
        fun (e, rest) => (⟨negative, whole, fraction, e⟩, rest)
    | rest => (readExponent rest).map fun (e, rest) => (⟨negative, whole, [], e⟩, rest)

/-! ## Drafts -/

/-- Whether a character is a blank between the parts of a document. -/
def isSpace (c : Char) : Bool := c == ' ' || c == '\n' || c == '\t' || c == '\r'

/-- A text without the blanks in front. -/
def skipSpace (cs : List Char) : List Char := cs.dropWhile isSpace

/-- What is left after the given beginning. -/
def afterWord (word cs : List Char) : Option (List Char) :=
  if word.isPrefixOf cs then some (cs.drop word.length) else none

mutual

/-- **A draft and what follows it.**  The number bounds the steps; twice the length of the text is
always enough, since a list takes two steps and two brackets. -/
def readDraft : Nat → List Char → Option (Draft × List Char)
  | 0, _ => none
  | fuel + 1, cs =>
    match skipSpace cs with
    | '"' :: rest => (readString rest).map fun (s, rest) => (.string s, rest)
    | '[' :: rest =>
      match skipSpace rest with
      | ']' :: rest => some (.array [], rest)
      | rest => (readItems fuel rest).map fun (items, rest) => (.array items, rest)
    | '\x7b' :: rest =>
      match skipSpace rest with
      | '\x7d' :: rest => some (.object [], rest)
      | rest => (readMembers fuel rest).map fun (members, rest) => (.object members, rest)
    | 'n' :: rest => (afterWord ['u', 'l', 'l'] rest).map fun rest => (.null, rest)
    | 't' :: rest => (afterWord ['r', 'u', 'e'] rest).map fun rest => (.bool true, rest)
    | 'f' :: rest => (afterWord ['a', 'l', 's', 'e'] rest).map fun rest => (.bool false, rest)
    | '-' :: rest => (readNumber true rest).map fun (l, rest) => (.number l.number?, rest)
    | rest => (readNumber false rest).map fun (l, rest) => (.number l.number?, rest)

/-- The items of a list up to the closing bracket, of which there is one at least. -/
def readItems : Nat → List Char → Option (List Draft × List Char)
  | 0, _ => none
  | fuel + 1, cs =>
    match readDraft fuel cs with
    | none => none
    | some (v, rest) =>
      match skipSpace rest with
      | ']' :: rest => some ([v], rest)
      | ',' :: rest => (readItems fuel rest).map fun (items, rest) => (v :: items, rest)
      | _ => none

/-- The members up to the closing brace, of which there is one at least. -/
def readMembers : Nat → List Char → Option (List (Option String × Draft) × List Char)
  | 0, _ => none
  | fuel + 1, cs =>
    match skipSpace cs with
    | '"' :: rest =>
      match readString rest with
      | none => none
      | some (name, rest) =>
        match skipSpace rest with
        | ':' :: rest =>
          match readDraft fuel rest with
          | none => none
          | some (v, rest) =>
            match skipSpace rest with
            | '\x7d' :: rest => some ([(name, v)], rest)
            | ',' :: rest =>
              (readMembers fuel rest).map fun (members, rest) => ((name, v) :: members, rest)
            | _ => none
        | _ => none
    | _ => none

end

/-- **The draft of a whole text**: blanks may stand around it and nothing else. -/
def Draft.ofText? (cs : List Char) : Option Draft :=
  match readDraft (2 * cs.length + 2) cs with
  | some (d, rest) => if (skipSpace rest).isEmpty then some d else none
  | none => none

/-! ## Documents -/

mutual

/-- **The document of a draft** whose nesting is within the limit. -/
def Draft.toJson? : (limit : Nat) → Draft → Option Json
  | _, .null => some .null
  | _, .bool b => some (.bool b)
  | _, .number n => n.map .number
  | _, .string s => s.map .string
  | limit, .array items =>
    if limit = 0 then none else (itemsToJson? (limit - 1) items).map .array
  | limit, .object members =>
    if limit = 0 then none else (membersToJson? (limit - 1) [] members).map .object

/-- The documents of the items. -/
def itemsToJson? (limit : Nat) : List Draft → Option (List Json)
  | [] => some []
  | d :: rest =>
    match d.toJson? limit, itemsToJson? limit rest with
    | some v, some vs => some (v :: vs)
    | _, _ => none

/-- The documents of the members, put in order among those in `done`. -/
def membersToJson? (limit : Nat) (done : List (String × Json)) :
    List (Option String × Draft) → Option (List (String × Json))
  | [] => some done
  | (name, d) :: rest =>
    match name, d.toJson? limit with
    | some n, some v => membersToJson? limit (insertMember n v done) rest
    | _, _ => none

end

/-- Lists and members may be nested this deep in a text. -/
def nestingLimit : Nat := 127

/-- **The document a text denotes.** -/
def ofText? (s : String) : Option Json :=
  (Draft.ofText? s.toList).bind (·.toJson? nestingLimit)

end BoundSql.Json
