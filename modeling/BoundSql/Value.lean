import BoundSql.Calendar.Timestamp
import BoundSql.Decimal.Reader
import BoundSql.Failure
import BoundSql.Json.Printer
import BoundSql.Uuid

/-!
# Values

A value is bound to a placeholder of a statement or read back from a column of a row.

* **`Value`** — the type.
* **`Value.same`** — equality of values, floating-point numbers compared as numbers.
* **`Value.toJson`**, **`Value.ofJson`** — values as documents and back; only scalars of documents
  become scalars again.
* **`Value.detail`** — the description of a value.
-/

namespace BoundSql

open Floating

/-- **A value** bound to a placeholder or read back from a row. -/
inductive Value where
  | null
  | bool (b : Bool)
  | int32 (n : Int32)
  | int64 (n : Int64)
  | real (x : Binary64)
  | text (s : String)
  | bytes (b : List UInt8)
  | uuid (u : Uuid)
  | json (j : Json)
  | timestamp (t : Timestamp)
  | date (d : Date)
  deriving Inhabited

namespace Value

/-- The name of the kind of a value, as failures mention it. -/
def typeName : Value → String
  | .null => "Null"
  | .bool _ => "Bool"
  | .int32 _ => "I32"
  | .int64 _ => "I64"
  | .real _ => "F64"
  | .text _ => "String"
  | .bytes _ => "Bytes"
  | .uuid _ => "Uuid"
  | .json _ => "Json"
  | .timestamp _ => "Timestamp"
  | .date _ => "Date"

/-- **Equality of values.**  Values of different kinds differ, also where they denote the same
number; a NaN differs from itself. -/
def same : Value → Value → Bool
  | .null, .null => true
  | .bool a, .bool b => a == b
  | .int32 a, .int32 b => a == b
  | .int64 a, .int64 b => a == b
  | .real a, .real b => a.same b
  | .text a, .text b => a == b
  | .bytes a, .bytes b => a == b
  | .uuid a, .uuid b => a == b
  | .json a, .json b => a.same b
  | .timestamp a, .timestamp b => a == b
  | .date a, .date b => a == b
  | _, _ => false

/-! ## Access -/

def isNull : Value → Bool
  | .null => true
  | _ => false

def asText? : Value → Option String
  | .text s => some s
  | _ => none

def asBool? : Value → Option Bool
  | .bool b => some b
  | _ => none

/-- An integer of either width. -/
def asInt64? : Value → Option Int64
  | .int32 n => some n.toInt64
  | .int64 n => some n
  | _ => none

/-- A floating-point number, or the one nearest to an integer. -/
def asReal? : Value → Option Binary64
  | .real x => some x
  | .int32 n => some (.ofInt n.toInt)
  | .int64 n => some (.ofInt n.toInt)
  | _ => none

/-- An integer of either width; any other kind is refused. -/
def toInt64 (v : Value) : Except Failure Int64 :=
  match v.asInt64? with
  | some n => .ok n
  | none => .error (.unsupportedType v.typeName "expected an integer value")

/-- A text; any other kind is refused. -/
def toText (v : Value) : Except Failure String :=
  match v with
  | .text s => .ok s
  | v => .error (.unsupportedType v.typeName "expected a string value")

/-! ## Documents -/

/-- The greatest and the least integer of eight bytes. -/
def greatestInt64 : Int := 0x7FFFFFFFFFFFFFFF

def leastInt64 : Int := -0x8000000000000000

/-- **The value closest to a document.**  Scalars become scalars, a whole number too large for eight
bytes the nearest floating-point number; lists and members stay a document. -/
def ofJson : Json → Value
  | .null => .null
  | .bool b => .bool b
  | .number (.whole n) =>
    if leastInt64 ≤ n ∧ n ≤ greatestInt64 then .int64 (Int64.ofInt n) else .real (.ofInt n)
  | .number (.real x) => .real x
  | .string s => .text s
  | j => .json j

/-- **A value as a document.**  Bytes become a list of numbers; identifiers, dates and times their
text. -/
def toJson : Value → Json
  | .null => .null
  | .bool b => .bool b
  | .int32 n => .ofInt n.toInt
  | .int64 n => .ofInt n.toInt
  | .real x => .ofBinary64 x
  | .text s => .string s
  | .bytes bs => .array (bs.map fun b => .ofInt b.toNat)
  | .uuid u => .string (String.ofList u.write)
  | .json j => j
  | .timestamp t => .string (String.ofList t.write)
  | .date d => .string (String.ofList d.write)

/-- **Reads a value** from the text of a document. -/
def ofJsonText? (s : String) : Option Value := (Json.ofText? s).map ofJson

end Value

/-! ## Descriptions -/

mutual

/-- The description of a document. -/
def Json.detail : Json → Detail
  | .null => .name "Null"
  | .bool b => .tuple "Bool" [.name (if b then "true" else "false")]
  | .number n => .tuple "Number" [.word n.write]
  | .string s => .tuple "String" [.quoted s]
  | .array items => .labelled "Array" (.list (Json.detailItems items))
  | .object members => .labelled "Object" (.map (Json.detailMembers members))

/-- The descriptions of the items. -/
def Json.detailItems : List Json → List Detail
  | [] => []
  | v :: rest => v.detail :: Json.detailItems rest

/-- The descriptions of the members. -/
def Json.detailMembers : List (String × Json) → List (String × Detail)
  | [] => []
  | (n, v) :: rest => (n, v.detail) :: Json.detailMembers rest

end

namespace Value

/-- **The description of a value**: its kind, and what it holds. -/
def detail (v : Value) : Detail :=
  let holding (d : Detail) : Detail := .tuple v.typeName [d]
  match v with
  | .null => .name "Null"
  | .bool b => holding (.name (if b then "true" else "false"))
  | .int32 n => holding (.word (Decimal.integer n.toInt))
  | .int64 n => holding (.word (Decimal.integer n.toInt))
  | .real x => holding (.word (Layout.detailed.write x))
  | .text s => holding (.quoted s)
  | .bytes bs => holding (.list (bs.map fun b => .word (Decimal.digits b.toNat)))
  | .uuid u => holding (.word u.write)
  | .json j => holding j.detail
  | .timestamp t => holding (.word t.writeZulu)
  | .date d => holding (.word d.write)

end Value

end BoundSql
