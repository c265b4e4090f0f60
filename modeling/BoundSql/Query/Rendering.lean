import BoundSql.Query.Basic
import BoundSql.Sql.NamedParameter

/-!
# The statement of a query

A query becomes a statement in two steps.  First its parts are put together, with placeholders for
the number of rows to return and to pass over.  Then named parameters are replaced in the whole
text, their placeholders counting on.

* **`Query.selection`** — what is selected from where, under which condition.
* **`Query.ordering`**, **`Query.pagingFragment`** — the two parts after it.
* **`Query.fragment`** — the statement.
* **`Query.read`** — the value of a slot.
-/

namespace BoundSql.Query

open Sql

/-- A text that is given and not empty. -/
def given? (s : Option String) : Option (List Char) :=
  match s with
  | some s => if s.toList = [] then none else some s.toList
  | none => none

/-- A selected column, named after itself. -/
def aliased (field : String) : List Char :=
  field.toList ++ " as \"".toList ++ field.toList ++ ['"']

/-- What is selected: all, or the fields with commas between them. -/
def projection (fields : List String) : List Char :=
  if fields.isEmpty then ['*'] else [','].intercalate (fields.map aliased)

/-- One entry of the order: the first bar becomes a space. -/
def sortEntry (entry : String) : List Char :=
  let cs := entry.toList
  let column := cs.takeWhile (· ≠ '|')
  match cs.dropWhile (· ≠ '|') with
  | [] => column
  | _ :: direction => column ++ ' ' :: direction

/-- **What is selected from where.**  A raw text is used as it is when neither fields nor a condition
are given, and otherwise selected from. -/
def selection (q : Query) : List Char :=
  let condition : List Char :=
    match given? q.whereClause with
    | some clause => " WHERE ".toList ++ clause
    | none => []
  match given? q.queryText with
  | some raw =>
    if q.fields.isEmpty ∧ (given? q.whereClause).isNone then raw
    else
      "SELECT ".toList ++ projection q.fields ++ " FROM (".toList ++ raw ++ ") AS T".toList ++
        condition
  | none =>
    "SELECT ".toList ++ projection q.fields ++ " FROM ".toList ++ (q.table.getD "").toList ++
      condition

/-- The order of the rows, if one is asked for. -/
def ordering (q : Query) : List Char :=
  if q.sortBy.isEmpty then []
  else " ORDER BY ".toList ++ [',', ' '].intercalate (q.sortBy.map sortEntry)

/-- The number of rows to return and to pass over, each with a placeholder if it is given. -/
def pagingFragment (q : Query) : Fragment :=
  let (limit, offset) := q.paging
  (if limit.isSome then .text " LIMIT ".toList ++ .bind .limit else .empty) ++
    (if offset.isSome then .text " OFFSET ".toList ++ .bind .offset else .empty)

/-- **The statement of a query.**  The placeholders of limit and offset come first, those of named
parameters after them in the order of the text. -/
def fragment (q : Query) : Fragment := fun bound =>
  let paging := q.pagingFragment bound
  let body := q.selection ++ q.ordering ++ paging.text
  let named := NamedParameter.substitute q.params.names body (bound + paging.slots.length)
  ⟨named.text, paging.slots ++ named.slots⟩

/-- **The value of a slot** of the statement. -/
def read (q : Query) : Slot → Value
  | .limit => q.paging.1.elim .null .int64
  | .offset => q.paging.2.elim .null .int64
  | .parameter name => (q.params.get? name).getD .null
  | .column _ | .id => .null

end BoundSql.Query
