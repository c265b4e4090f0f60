import BoundSql.Response
import BoundSql.Statement.Basic

/-!
# What a program does to a database

A program's dealings with a database are a list of events: connections checked out and released,
statements sent to the pool or on a connection, records written to the log, and what is traced.

* **`Event`** — one of these.
* **`LogRecord`** — what the log holds of a statement that succeeded.
* **`wholeMillis`** — how its duration is rounded.
* **`TraceEvent`**, **`Event.trace?`** — the traced form of an event.
-/

namespace BoundSql.Session

/-- **Where a statement is sent**: to whichever connection of the pool is free, or on one that was
checked out. -/
inductive Target where
  | pool
  | connection (number : Nat)
  deriving DecidableEq, Repr

/-- **Why a statement is sent.** -/
inductive Purpose where
  /-- A program asked for it, and the log may know. -/
  | work
  /-- A program asked for it, past the log. -/
  | unlogged
  /-- It opens or ends a transaction. -/
  | control
  deriving DecidableEq, Repr

/-- **What the log holds of a statement**: its text, its values, and its duration in
milliseconds. -/
structure LogRecord where
  text : String
  params : List Value
  duration : Nat

/-- **Nanoseconds to whole milliseconds**: cut to microseconds first, then a half rounds up. -/
def wholeMillis (nanos : Nat) : Nat := (nanos / 1000 + 500) / 1000

/-- The record of a statement that took the given time. -/
def LogRecord.ofCall (call : CompiledQuery) (nanos : Nat) : LogRecord :=
  ⟨call.text, call.params, wholeMillis nanos⟩

/-- **An event.** -/
inductive Event where
  /-- A connection was asked for, and this one was had. -/
  | checkout (connection : Option Nat)
  /-- A connection went back to the pool. -/
  | release (connection : Nat)
  /-- A statement was sent; the time it took in nanoseconds, if it succeeded. -/
  | sent (purpose : Purpose) (target : Target) (call : CompiledQuery) (succeeded : Option Nat)
  /-- A record was written to the log. -/
  | logged (record : LogRecord)
  /-- A statement that opens or ends a transaction is about to be sent. -/
  | control (statement : String)
  /-- Undoing a transaction failed too. -/
  | rollbackFailed (failure rollback : Failure)

/-! ## Traced events -/

/-- How much a traced event matters. -/
inductive Level where
  | debug
  | error
  deriving DecidableEq, Repr

/-- The name of a level. -/
def Level.name : Level → String
  | .debug => "DEBUG"
  | .error => "ERROR"

/-- A value in a traced event. -/
inductive TraceValue where
  | number (n : Nat)
  | text (s : String)
  deriving DecidableEq, Repr

/-- **A traced event**, with its fields in ascending order of names. -/
structure TraceEvent where
  level : Level
  target : String
  fields : List (String × TraceValue)
  deriving DecidableEq, Repr

/-- The description of a list of values. -/
def paramsText (params : List Value) : String := (Detail.list (params.map Value.detail)).text

/-- **The traced form of an event**, if it is traced. -/
def Event.trace? : Event → Option TraceEvent
  | .logged r => some ⟨.debug, "pgbind::query",
      [("duration_ms", .number r.duration), ("message", .text "query executed"),
        ("params", .text (paramsText r.params)), ("query_text", .text r.text)]⟩
  | .control statement => some ⟨.debug, "pgbind::transaction",
      [("message", .text "transaction control"), ("statement", .text statement)]⟩
  | .rollbackFailed failure rollback => some ⟨.error, "pgbind::transaction",
      [("error", .text failure.display), ("message", .text "rollback failed"),
        ("rollback_error", .text rollback.display)]⟩
  | .checkout _ | .release _ | .sent _ _ _ _ => none

end BoundSql.Session
