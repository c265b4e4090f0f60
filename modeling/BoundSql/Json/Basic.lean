import BoundSql.Floating.Basic

/-!
# Documents

A document is null, a truth value, a number, a text, a list of documents, or members with names.
A document that was read has its members in ascending order of their names, each name once; a
document that is only written may list them in any order.

* **`Json`** — the type, and **`Json.Number`**, whole or floating.
* **`Json.same`** — equality of documents, numbers compared as numbers.
* **`Json.insertMember`** — puts a member in its place, replacing one of the same name.
-/

namespace BoundSql

open Floating

/-- **A number of a document**: a whole number between `-2 ^ 63` and `2 ^ 64 - 1`, or a finite
floating-point number. -/
inductive Json.Number where
  | whole (n : Int)
  | real (x : Binary64)
  deriving DecidableEq, Repr

/-- **A document.** -/
inductive Json where
  | null
  | bool (b : Bool)
  | number (n : Json.Number)
  | string (s : String)
  | array (items : List Json)
  | object (members : List (String × Json))
  deriving Repr, Inhabited

namespace Json

/-- A floating-point number as a document; what no number denotes becomes null. -/
def ofBinary64 (x : Binary64) : Json :=
  match x.datum with
  | .finite _ _ _ => .number (.real x)
  | _ => .null

/-- A whole number as a document. -/
def ofInt (n : Int) : Json := .number (.whole n)

/-- Equality of numbers: a whole one never equals a floating one. -/
def Number.same : Number → Number → Bool
  | .whole m, .whole n => m == n
  | .real x, .real y => x.same y
  | _, _ => false

mutual

/-- **Equality of documents.** -/
def same : Json → Json → Bool
  | .null, .null => true
  | .bool a, .bool b => a == b
  | .number a, .number b => a.same b
  | .string a, .string b => a == b
  | .array a, .array b => sameItems a b
  | .object a, .object b => sameMembers a b
  | _, _ => false

/-- Equality item by item. -/
def sameItems : List Json → List Json → Bool
  | [], [] => true
  | a :: as, b :: bs => same a b && sameItems as bs
  | _, _ => false

/-- Equality member by member. -/
def sameMembers : List (String × Json) → List (String × Json) → Bool
  | [], [] => true
  | (m, a) :: as, (n, b) :: bs => m == n && same a b && sameMembers as bs
  | _, _ => false

end

/-- **Puts a member in its place** among members in ascending order of names.  One of the same name
is replaced. -/
def insertMember (name : String) (value : Json) : List (String × Json) → List (String × Json)
  | [] => [(name, value)]
  | (n, v) :: rest =>
    if name = n then (name, value) :: rest
    else if name < n then (name, value) :: (n, v) :: rest
    else (n, v) :: insertMember name value rest

/-- The document of the given members, in ascending order of names; of several members of one name
the last stays. -/
def ofMembers (members : List (String × Json)) : Json :=
  .object (members.foldl (fun done m => insertMember m.1 m.2 done) [])

mutual

/-- **How deep lists and members are nested.** -/
def depth : Json → Nat
  | .array items => depthItems items + 1
  | .object members => depthMembers members + 1
  | _ => 0

/-- The greatest depth of the items. -/
def depthItems : List Json → Nat
  | [] => 0
  | v :: rest => max (depth v) (depthItems rest)

/-- The greatest depth of the members. -/
def depthMembers : List (String × Json) → Nat
  | [] => 0
  | (_, v) :: rest => max (depth v) (depthMembers rest)

end

end Json

end BoundSql
