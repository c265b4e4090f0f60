import BoundSql.Session.Request
import BoundSql.Transaction.Options

/-!
# Descriptions of handles

What is shown of a database handle, of a transaction about to begin and of one that runs.
-/

namespace BoundSql

/-- A truth value as a word. -/
def Detail.bool (b : Bool) : Detail := .name (if b then "true" else "false")

namespace Session

/-- The description of a database handle: its driver, and whether there is a log. -/
def databaseDetail (driver : Detail) (logging : Bool) : Detail :=
  .fields "Db" [("driver", driver), ("log", .bool logging)]

/-- The description of a transaction on a connection. -/
def transactionDetail (connection : Detail) : Detail :=
  .fields "Transaction" [("connection", connection)]

/-- The description of a transaction that is about to begin. -/
def builderDetail (database : Detail) (options : Transaction.Options) : Detail :=
  .fields "TransactionBuilder"
    [("db", database),
      ("isolation", .option (options.isolation.map fun level => .name level.name)),
      ("read_only", .bool options.readOnly)]

end Session

end BoundSql
