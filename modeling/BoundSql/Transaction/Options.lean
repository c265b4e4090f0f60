import BoundSql.Detail

/-!
# Options of a transaction

How a transaction is isolated from others and whether it may write.

* **`Transaction.Options.beginStatement`** — the statement that opens it.
* **`Transaction.commitStatement`**, **`Transaction.rollbackStatement`** — the statements that end it.
-/

namespace BoundSql.Transaction

/-- **How far a transaction is isolated from others.** -/
inductive Isolation where
  | readUncommitted
  | readCommitted
  | repeatableRead
  | serializable
  deriving DecidableEq, Repr

/-- The words of the statement. -/
def Isolation.sqlName : Isolation → String
  | .readUncommitted => "READ UNCOMMITTED"
  | .readCommitted => "READ COMMITTED"
  | .repeatableRead => "REPEATABLE READ"
  | .serializable => "SERIALIZABLE"

/-- The name in a description. -/
def Isolation.name : Isolation → String
  | .readUncommitted => "ReadUncommitted"
  | .readCommitted => "ReadCommitted"
  | .repeatableRead => "RepeatableRead"
  | .serializable => "Serializable"

/-- **The options of a transaction.** -/
structure Options where
  isolation : Option Isolation := none
  readOnly : Bool := false
  deriving DecidableEq, Repr

namespace Options

/-- The options that say nothing. -/
def default : Options := {}

instance : Inhabited Options := ⟨default⟩

def withIsolation (o : Options) (level : Isolation) : Options := { o with isolation := some level }

def withReadOnly (o : Options) (readOnly : Bool) : Options := { o with readOnly }

/-- **The statement that opens a transaction.** -/
def beginStatement (o : Options) : String :=
  let level :=
    match o.isolation with
    | some level => " ISOLATION LEVEL " ++ level.sqlName
    | none => ""
  "BEGIN" ++ level ++ if o.readOnly then " READ ONLY" else ""

end Options

/-- The statement that makes a transaction last. -/
def commitStatement : String := "COMMIT"

/-- The statement that undoes a transaction. -/
def rollbackStatement : String := "ROLLBACK"

end BoundSql.Transaction
