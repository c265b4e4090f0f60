import BoundSql.Wire.Column

/-!
# The server and its messages

A statement is run in one of two ways.  It is prepared, which tells the types of its parameters and
columns, and then executed with its parameters in binary form; or its text is sent alone, may hold
several statements, and is answered in texts.

* **`ServerError`** — an error the server reports.
* **`Prepared`**, **`PrepareAnswer`**, **`ExecuteAnswer`**, **`TextMessage`** — the answers.
* **`Server`** — a server as a function of its state.
* **`ClientFault`** — what a client makes of answers that are no result.
-/

namespace BoundSql.Wire

/-- **An error the server reports.** -/
structure ServerError where
  severity : String
  code : String
  message : String
  detail : Option String
  hint : Option String
  deriving DecidableEq, Repr

namespace ServerError

/-- The text of an error, on lines of their own its detail and its hint. -/
def text (e : ServerError) : String :=
  let line (label : String) : Option String → String
    | some s => "\n" ++ label ++ ": " ++ s
    | none => ""
  e.severity ++ ": " ++ e.message ++ line "DETAIL" e.detail ++ line "HINT" e.hint

/-- The code of a syntax error. -/
def syntaxErrorCode : String := "42601"

/-- Whether a list contains another as a run. -/
def containsRun (run : List Char) : List Char → Bool
  | [] => run.isEmpty
  | c :: rest => run.isPrefixOf (c :: rest) || containsRun run rest

/-- **Whether a text was refused because it holds several statements.** -/
def isMultiStatement (e : ServerError) : Bool :=
  e.code == syntaxErrorCode && containsRun "multiple commands".toList e.message.toList

end ServerError

/-- The bytes of a value, or the missing value. -/
abbrev RawValue := Option (List UInt8)

/-- **A prepared statement**: the types of its parameters, and its columns. -/
structure Prepared where
  parameters : List DataType
  columns : List Column
  deriving DecidableEq, Repr

/-- **The answer to a text that is to be prepared.** -/
inductive PrepareAnswer where
  | prepared (statement : Prepared)
  | refused (error : ServerError)
  | closed

/-- How the execution of a statement ends. -/
inductive Ending where
  | complete (tag : String)
  | empty
  | failed (error : ServerError)

/-- **The answer to parameters**: they are refused, the connection closes, or the statement runs. -/
inductive ExecuteAnswer where
  | refused (error : ServerError)
  | closed
  | ran (rows : List (List RawValue)) (ending : Ending)

/-- **A message in answer to a text sent alone.** -/
inductive TextMessage where
  | columns (names : List String)
  | row (values : List (Option String))
  | complete (tag : String)
  | empty
  | failed (error : ServerError)
  | closed

/-- **A server**, as its clients see it.  Each answer may depend on all that happened before, which
the state holds. -/
structure Server (σ : Type) where
  /-- Prepares a text. -/
  prepare : σ → String → PrepareAnswer × σ
  /-- Executes the text prepared last with parameters. -/
  execute : σ → List RawValue → ExecuteAnswer × σ
  /-- Answers a text sent alone. -/
  run : σ → String → List TextMessage × σ

/-- **What a client sends.** -/
inductive Sent where
  | prepare (text : String)
  | bind (parameters : List RawValue)
  | run (text : String)
  deriving DecidableEq, Repr

/-- **What a client makes of answers that are no result.** -/
inductive ClientFault where
  | server (error : ServerError)
  | closed
  | unexpected
  | fieldCount
  | parameterCount (expected found : Nat)
  | unsent (cause : Foreign)

/-- A fault as a failure from outside. -/
def ClientFault.foreign : ClientFault → Foreign
  | .server error => .ofMessages "db error" [.message error.text]
  | .closed => .ofMessages "connection closed" []
  | .unexpected => .ofMessages "unexpected message from server" []
  | .fieldCount =>
    .ofMessages "error parsing response from server"
      [.message "DataRow field count does not match the number of columns"]
  | .parameterCount expected found =>
    .ofMessages ("expected " ++ String.ofList (Decimal.digits expected) ++ " parameters but got " ++
      String.ofList (Decimal.digits found)) []
  | .unsent cause => cause

/-- A fault as a failure of the driver. -/
def ClientFault.failure (fault : ClientFault) : Failure := .driver fault.foreign

end BoundSql.Wire
