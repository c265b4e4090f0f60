import BoundSql.Query.Rendering

/-!
# Statements

A statement selects rows, counts them, or inserts, updates or deletes a row.

* **`Statement`** — the five kinds.
* **`Statement.fragment`**, **`Statement.read`** — its text, and the values of its slots.
* **`Statement.serialize`** — the text and the values, after values that are already bound.
* **`Statement.compile`** — the same with nothing bound before.
-/

namespace BoundSql

open Sql

/-- A row to be inserted, and a column whose value is to be returned. -/
structure Insert where
  table : String
  record : Record
  returning : Option String

/-- Columns to be set in the row with the given key. -/
structure Update where
  table : String
  idField : String
  id : Value
  patch : Record

/-- The row with the given key, to be deleted. -/
structure Delete where
  table : String
  idField : String
  id : Value

/-- **A statement.** -/
inductive Statement where
  | query (q : Query)
  | count (q : Query)
  | insert (i : Insert)
  | update (u : Update)
  | delete (d : Delete)

/-- **A statement as it is sent**: its text, and the values of its placeholders in order. -/
structure CompiledQuery where
  text : String
  params : List Value

namespace Insert

/-- The statement that inserts a row.  Without columns the row has its defaults. -/
def fragment (i : Insert) : Fragment :=
  let row : Fragment :=
    if i.record.isEmpty then .text " DEFAULT VALUES".toList
    else
      .text (" (".toList ++ [',', ' '].intercalate (i.record.names.map String.toList) ++
        ") VALUES (".toList) ++ .commas (i.record.names.map fun n => .bind (.column n)) ++
        .text [')']
  .text ("INSERT INTO ".toList ++ i.table.toList) ++ row ++
    match i.returning with
    | some column => .text (" RETURNING ".toList ++ column.toList)
    | none => .empty

/-- The value of a slot. -/
def read (i : Insert) : Slot → Value
  | .column name => (i.record.get? name).getD .null
  | _ => .null

end Insert

namespace Update

/-- Whether there is nothing to set; such an update is not sent. -/
def isNoop (u : Update) : Bool := u.patch.isEmpty

/-- A column and the placeholder of its new value. -/
def assignment (name : String) : Fragment := .text (name.toList ++ " = ".toList) ++ .bind (.column name)

/-- The statement that sets columns; the key comes last. -/
def fragment (u : Update) : Fragment :=
  .text ("UPDATE ".toList ++ u.table.toList ++ " SET ".toList) ++
    .commas (u.patch.names.map assignment) ++
    .text (" WHERE ".toList ++ u.idField.toList ++ " = ".toList) ++ .bind .id

/-- The value of a slot. -/
def read (u : Update) : Slot → Value
  | .column name => (u.patch.get? name).getD .null
  | .id => u.id
  | _ => .null

end Update

namespace Delete

/-- The statement that deletes a row. -/
def fragment (d : Delete) : Fragment :=
  .text ("DELETE FROM ".toList ++ d.table.toList ++ " WHERE ".toList ++ d.idField.toList ++
    " = ".toList) ++ .bind .id

/-- The value of a slot. -/
def read (d : Delete) : Slot → Value
  | .id => d.id
  | _ => .null

end Delete

namespace Query

/-- The statement that counts the rows of a query, whatever their order and number. -/
def countFragment (q : Query) : Fragment :=
  .text "SELECT COUNT(*) AS count FROM (".toList ++ q.unpaged.fragment ++ .text ") AS T".toList

end Query

namespace Statement

/-- **The text of a statement** with its slots. -/
def fragment : Statement → Fragment
  | query q => q.fragment
  | count q => q.countFragment
  | insert i => i.fragment
  | update u => u.fragment
  | delete d => d.fragment

/-- **The value of a slot** of a statement. -/
def read : Statement → Slot → Value
  | query q => q.read
  | count q => q.unpaged.read
  | insert i => i.read
  | update u => u.read
  | delete d => d.read

/-- **The text of a statement, and its values after those already bound.** -/
def serialize (s : Statement) (bound : List Value) : String × List Value :=
  let r := s.fragment bound.length
  (String.ofList r.text, bound ++ r.slots.map s.read)

/-- **The statement by itself.** -/
def compile (s : Statement) : CompiledQuery :=
  let (text, params) := s.serialize []
  ⟨text, params⟩

/-- Serializes statements one after the other; with each its text and all values bound so far. -/
def serializeAll (bound : List Value) : List Statement → List (String × List Value)
  | [] => []
  | s :: rest => s.serialize bound :: serializeAll (s.serialize bound).2 rest

end Statement

/-- The statement of a query by itself. -/
def Query.compile (q : Query) : CompiledQuery := (Statement.query q).compile

end BoundSql
