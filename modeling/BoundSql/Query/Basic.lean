import BoundSql.Record

/-!
# Query descriptors

A query descriptor says what to select: from a table or from a raw text, which fields, under which
condition, in which order and how many rows.

* **`Query`** — the descriptor, with one function per part to change it.
* **`Query.paging`** — how many rows to return and to pass over, once pages are resolved.
* **`Query.unpaged`** — the same rows in no order and without a limit.
* **`Query.same`** — equality of descriptors.
-/

namespace BoundSql

/-- **What to select.**  Where both a table and a raw text are given the raw text counts. -/
structure Query where
  /-- The relation to select from. -/
  table : Option String := none
  /-- A statement to select from, or to be used as it is. -/
  queryText : Option String := none
  /-- The condition on the rows. -/
  whereClause : Option String := none
  /-- The columns to select; none for all. -/
  fields : List String := []
  /-- The order, each entry a column with its direction after a bar. -/
  sortBy : List String := []
  limit : Option Int64 := none
  offset : Option Int64 := none
  /-- The page, counted from zero.  With `rowsPerPage` it counts instead of limit and offset. -/
  pageIndex : Option Int64 := none
  rowsPerPage : Option Int64 := none
  /-- Named parameters. -/
  params : Record := Record.empty

namespace Query

/-- The descriptor that says nothing. -/
def empty : Query := {}

instance : Inhabited Query := ⟨empty⟩

/-- Selects from a table. -/
def ofTable (table : String) : Query := { table := some table }

/-- Uses a raw text. -/
def ofRaw (queryText : String) : Query := { queryText := some queryText }

def withTable (q : Query) (table : String) : Query := { q with table := some table }

def withRaw (q : Query) (queryText : String) : Query := { q with queryText := some queryText }

def withFields (q : Query) (fields : List String) : Query := { q with fields }

/-- Sets the condition on the rows. -/
def filter (q : Query) (whereClause : String) : Query := { q with whereClause := some whereClause }

def sorted (q : Query) (sortBy : List String) : Query := { q with sortBy }

def withLimit (q : Query) (limit : Int64) : Query := { q with limit := some limit }

def withOffset (q : Query) (offset : Int64) : Query := { q with offset := some offset }

def withPageIndex (q : Query) (pageIndex : Int64) : Query := { q with pageIndex := some pageIndex }

def withRowsPerPage (q : Query) (rowsPerPage : Int64) : Query :=
  { q with rowsPerPage := some rowsPerPage }

/-- Asks for one page. -/
def page (q : Query) (pageIndex rowsPerPage : Int64) : Query :=
  (q.withPageIndex pageIndex).withRowsPerPage rowsPerPage

/-- Gives a named parameter its value. -/
def param (q : Query) (name : String) (value : Value) : Query :=
  { q with params := q.params.insert name value }

/-- **The product kept within eight bytes**: a product beyond the greatest or the least number is
that number. -/
def clampedProduct (a b : Int64) : Int64 :=
  Int64.ofInt (max Value.leastInt64 (min Value.greatestInt64 (a.toInt * b.toInt)))

/-- **How many rows to return and to pass over.**  A page counts only if both its index and its size
are given, and then limit and offset do not. -/
def paging (q : Query) : Option Int64 × Option Int64 :=
  match q.pageIndex, q.rowsPerPage with
  | some index, some rows => (some rows, some (clampedProduct rows index))
  | _, _ => (q.limit, q.offset)

/-- **The same rows in no order and without a limit**, as they are counted. -/
def unpaged (q : Query) : Query :=
  { q with sortBy := [], limit := none, offset := none, pageIndex := none, rowsPerPage := none }

/-- Equality of descriptors; parameters may come in any order. -/
def same (p q : Query) : Bool :=
  p.table == q.table && p.queryText == q.queryText && p.whereClause == q.whereClause &&
    p.fields == q.fields && p.sortBy == q.sortBy && p.limit == q.limit && p.offset == q.offset &&
    p.pageIndex == q.pageIndex && p.rowsPerPage == q.rowsPerPage && p.params.same q.params

end Query

end BoundSql
