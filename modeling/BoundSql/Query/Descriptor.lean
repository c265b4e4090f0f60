import BoundSql.Json.Parser
import BoundSql.Query.Basic

/-!
# Descriptors as documents

A descriptor is written as an object with all its members, and read from an object with any of them
or from a list of them in the same order.  An object may have members of other names, which are
skipped whatever they hold; none of the known names may occur twice.

* **`Query.toJson`**, **`Query.text`** — the written form.
* **`Query.ofDraft?`**, **`Query.ofText?`** — reading.
-/

namespace BoundSql.Query

open Json

/-! ## Writing -/

/-- A text that may be missing. -/
def optionalText (s : Option String) : Json := s.elim .null .string

/-- A number that may be missing. -/
def optionalInteger (n : Option Int64) : Json := n.elim .null fun n => .ofInt n.toInt

/-- **The document of a descriptor.**  Parameters keep their order. -/
def toJson (q : Query) : Json :=
  .object
    [("table", optionalText q.table),
      ("queryText", optionalText q.queryText),
      ("whereClause", optionalText q.whereClause),
      ("fields", .array (q.fields.map .string)),
      ("sortBy", .array (q.sortBy.map .string)),
      ("limit", optionalInteger q.limit),
      ("offset", optionalInteger q.offset),
      ("pageIndex", optionalInteger q.pageIndex),
      ("rowsPerPage", optionalInteger q.rowsPerPage),
      ("params", q.params.toOrderedJson)]

/-- The text of a descriptor. -/
def text (q : Query) : String := q.toJson.text

/-! ## Reading -/

/-- The members of a descriptor, in the order in which they are written. -/
inductive Member where
  | table
  | queryText
  | whereClause
  | fields
  | sortBy
  | limit
  | offset
  | pageIndex
  | rowsPerPage
  | params
  deriving DecidableEq, Repr

namespace Member

/-- All members in order. -/
def all : List Member :=
  [table, queryText, whereClause, fields, sortBy, limit, offset, pageIndex, rowsPerPage, params]

/-- The name of a member. -/
def name : Member → String
  | table => "table"
  | queryText => "queryText"
  | whereClause => "whereClause"
  | fields => "fields"
  | sortBy => "sortBy"
  | limit => "limit"
  | offset => "offset"
  | pageIndex => "pageIndex"
  | rowsPerPage => "rowsPerPage"
  | params => "params"

/-- The member of a name. -/
def ofName? (s : String) : Option Member := all.find? (·.name == s)

end Member

/-- A text or null. -/
def readText? : Draft → Option (Option String)
  | .null => some none
  | .string (some s) => some (some s)
  | _ => none

/-- An integer of eight bytes or null. -/
def readInteger? : Draft → Option (Option Int64)
  | .null => some none
  | .number (some (.whole n)) =>
    if Value.leastInt64 ≤ n ∧ n ≤ Value.greatestInt64 then some (some (Int64.ofInt n)) else none
  | _ => none

/-- A list of texts. -/
def readTexts? : Draft → Option (List String)
  | .array items => items.mapM fun
    | .string s => s
    | _ => none
  | _ => none

/-- The nesting that is left for a parameter, which stands two levels deep in a descriptor. -/
def parameterNesting : Nat := nestingLimit - 2

/-- The parameters, added to those already read. -/
def readParams? (done : Record) : List (Option String × Draft) → Option Record
  | [] => some done
  | (name, d) :: rest =>
    match name, d.toJson? parameterNesting with
    | some n, some j => readParams? (done.insert n (.ofJson j)) rest
    | _, _ => none

/-- Sets one member. -/
def set? (q : Query) (member : Member) (d : Draft) : Option Query :=
  match member with
  | .table => (readText? d).map fun table => { q with table }
  | .queryText => (readText? d).map fun queryText => { q with queryText }
  | .whereClause => (readText? d).map fun whereClause => { q with whereClause }
  | .fields => (readTexts? d).map fun fields => { q with fields }
  | .sortBy => (readTexts? d).map fun sortBy => { q with sortBy }
  | .limit => (readInteger? d).map fun limit => { q with limit }
  | .offset => (readInteger? d).map fun offset => { q with offset }
  | .pageIndex => (readInteger? d).map fun pageIndex => { q with pageIndex }
  | .rowsPerPage => (readInteger? d).map fun rowsPerPage => { q with rowsPerPage }
  | .params =>
    match d with
    | .object members => (readParams? .empty members).map fun params => { q with params }
    | _ => none

/-- Sets the members of an object, none of which may have been seen before. -/
def setMembers? (q : Query) (seen : List Member) : List (Option String × Draft) → Option Query
  | [] => some q
  | (none, _) :: _ => none
  | (some name, d) :: rest =>
    match Member.ofName? name with
    | none => setMembers? q seen rest
    | some member =>
      if member ∈ seen then none
      else (q.set? member d).bind fun q => setMembers? q (member :: seen) rest

/-- Sets members from a list that gives them in order; what it leaves out keeps its default. -/
def setInOrder? (q : Query) : List Member → List Draft → Option Query
  | _, [] => some q
  | [], _ :: _ => none
  | member :: members, d :: rest => (q.set? member d).bind fun q => setInOrder? q members rest

/-- **Reads a descriptor** from a draft. -/
def ofDraft? : Draft → Option Query
  | .object members => setMembers? empty [] members
  | .array items => setInOrder? empty Member.all items
  | _ => none

/-- **Reads a descriptor** from a text. -/
def ofText? (s : String) : Option Query := (Draft.ofText? s.toList).bind ofDraft?

end BoundSql.Query
