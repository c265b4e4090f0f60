import BoundSql.Uuid

/-!
# Why a text is no identifier

* **`Uuid.Fault`** — what can be wrong, and **`Uuid.Fault.message`**.
* **`Uuid.fault`** — the fault of a text that is no identifier.
-/

namespace BoundSql.Uuid

open Decimal Json

/-- **What can be wrong with the text of an identifier.** -/
inductive Fault where
  | character (c : Char) (index : Nat)
  | length (found : Nat)
  | groupCount (found : Nat)
  | groupLength (group expected found : Nat)
  deriving DecidableEq, Repr

/-- The text of a fault. -/
def Fault.message : Fault → String
  | .character c index =>
    "invalid character: found `" ++ String.ofList [c] ++ "` at " ++ String.ofList (digits index)
  | .length found => "invalid length: found " ++ String.ofList (digits found)
  | .groupCount found =>
    "invalid group count: expected 5, found " ++ String.ofList (digits found)
  | .groupLength group expected found =>
    "invalid group length in group " ++ String.ofList (digits group) ++ ": expected " ++
      String.ofList (digits expected) ++ ", found " ++ String.ofList (digits found)

/-- The first character that is neither a digit of base sixteen nor a hyphen, and its index in
bytes. -/
def strayCharacter? (index : Nat) : List Char → Option (Char × Nat)
  | [] => none
  | c :: rest =>
    if c = '-' ∨ (hexValue? c).isSome then strayCharacter? (index + c.utf8Size) rest
    else some (c, index)

/-- The lengths of the groups between the hyphens. -/
def groupLengths (current : Nat) : List Char → List Nat
  | [] => [current]
  | c :: rest =>
    if c = '-' then current :: groupLengths 0 rest else groupLengths (current + 1) rest

/-- The first of five groups whose length is not the expected one.  Nothing is known of the end of the
text before all other groups are right, so the last group takes all that is left of the text. -/
def wrongGroup (index left : Nat) : List (Nat × Nat) → Fault
  | [] => .groupLength index 12 left
  | (expected, found) :: rest =>
    if found = expected then wrongGroup (index + 1) (left - expected - 1) rest
    else .groupLength index expected found

/-- The length of a text in bytes. -/
def byteLength (cs : List Char) : Nat := cs.foldl (fun n c => n + c.utf8Size) 0

/-- A text between braces. -/
def inBraces? (cs : List Char) : Option (List Char) :=
  if cs.head? = some '\x7b' ∧ cs.getLast? = some '\x7d' ∧ 2 ≤ cs.length then
    some ((cs.drop 1).dropLast)
  else none

/-- The text of the identifier, in a text that has the length of a form with something around it. -/
def unwrapped (cs : List Char) : List Char :=
  if byteLength cs = 38 then (inBraces? cs).getD cs
  else if byteLength cs = 45 then (afterName? cs).getD cs
  else cs

/-- The length in bytes of the longest form, which starts with `urn:uuid:`. -/
def greatestLength : Nat := 45

/-- The fault of a text of some form.  A character that cannot occur decides first; a text without
hyphens and without anything around it has a wrong length. -/
def shapeFault (cs : List Char) : Fault :=
  let (inner, shift) :=
    match inBraces? cs, afterName? cs with
    | some inner, _ => (inner, 1)
    | none, some inner => (inner, 9)
    | none, none => (cs, 0)
  match strayCharacter? shift inner with
  | some (c, index) => .character c index
  | none =>
    let lengths := groupLengths 0 inner
    if lengths.length = 1 ∧ shift = 0 then .length (byteLength cs)
    else if lengths.length ≠ 5 then .groupCount lengths.length
    else wrongGroup 0 (byteLength cs) ([8, 4, 4, 4].zip lengths)

/-- **The fault of a text that is no identifier.**  A text that is too long for any form has a wrong
length.  In a text that has the length of its form only what stands inside is looked at. -/
def fault (cs : List Char) : Fault :=
  if greatestLength < byteLength cs then .length (byteLength cs) else shapeFault (unwrapped cs)

end BoundSql.Uuid
