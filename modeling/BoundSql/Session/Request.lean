import BoundSql.Response
import BoundSql.Statement.Basic

/-!
# Requests

A request is a statement to be sent and the way its response is read; a request whose answer is
known without asking sends nothing.

* **`Request`** — the type.
* **`Query.rowsRequest`**, **`Query.countRequest`** — the rows of a query, and how many there are.
* **`Table`** — rows kept by the value of one column, with **`Table.create`**, **`Table.update`**,
  **`Table.remove`** and **`Table.get`**.
-/

namespace BoundSql

/-- **A request** for a value of type `α`. -/
inductive Request (α : Type) where
  /-- The answer is known. -/
  | known (answer : α)
  /-- The statement has to be sent, and its response is read. -/
  | ask (call : CompiledQuery) (read : Response → Except Failure α)

/-- The rows that a query selects. -/
def Query.rowsRequest (q : Query) : Request (List Row) := .ask q.compile fun r => .ok r.rows

/-- **How many rows a query matches**, whatever its order and its limit.  A response without a row or
without the count counts nothing. -/
def Query.countRequest (q : Query) : Request Int64 :=
  .ask (Statement.count q).compile fun r =>
    match r.firstRow?.bind (·.get? "count") with
    | some count => count.toInt64
    | none => .ok 0

/-- **A table** whose rows are found by the value of one column. -/
structure Table where
  name : String
  idField : String := "id"

namespace Table

/-- Inserts a row and asks for the value of its key; null if none comes back under the name of the
key. -/
def create (t : Table) (record : Record) : Request Value :=
  .ask (Statement.insert ⟨t.name, record, some t.idField⟩).compile fun r =>
    .ok ((r.firstRow?.bind (·.get? t.idField)).getD .null)

/-- Sets columns of the row with the given key, and asks how many rows there were; with nothing to
set nothing is sent. -/
def update (t : Table) (id : Value) (patch : Record) : Request Nat :=
  let u : Update := ⟨t.name, t.idField, id, patch⟩
  if u.isNoop then .known 0
  else .ask (Statement.update u).compile fun r => .ok r.rowCount

/-- Deletes the row with the given key, and asks how many rows there were. -/
def remove (t : Table) (id : Value) : Request Nat :=
  .ask (Statement.delete ⟨t.name, t.idField, id⟩).compile fun r => .ok r.rowCount

/-- The query for the row with the given key. -/
def keyQuery (t : Table) (id : Value) (fields : List String) : Query :=
  (((Query.ofTable t.name).withFields fields).filter (t.idField ++ " = :id")).param "id" id

/-- The row with the given key, with all columns or with the given ones. -/
def get (t : Table) (id : Value) (fields : List String) : Request (Option Row) :=
  .ask (t.keyQuery id fields).compile fun r => .ok r.rows.head?

/-- The description of a table. -/
def detail (t : Table) : Detail :=
  .fields "Table" [("name", .quoted t.name), ("id_field", .quoted t.idField)]

end Table

end BoundSql
