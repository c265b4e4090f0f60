import BoundSql.Record

/-!
# Responses

The outcome of a statement: the rows it returned, and how many rows it returned or affected.
-/

namespace BoundSql

/-- **The outcome of a statement.** -/
structure Response where
  rows : List Row
  rowCount : Nat

namespace Response

/-- No rows and no count. -/
def empty : Response := ⟨[], 0⟩

instance : Inhabited Response := ⟨empty⟩

/-- The outcome of a statement that returned no rows and affected `count` of them. -/
def ofCount (count : Nat) : Response := ⟨[], count⟩

/-- The outcome of a statement that returned rows. -/
def ofRows (rows : List Row) : Response := ⟨rows, rows.length⟩

/-- The first row, if there is one. -/
def firstRow? (r : Response) : Option Row := r.rows.head?

end Response

end BoundSql
