import BoundSql.Response
import BoundSql.Wire.Server

/-!
# Running one statement

A statement is prepared and, if the server accepts its text and its parameters can be sent, executed
once.  A text without parameters that the server refuses to prepare because it holds several
statements is sent alone instead.

* **`affectedRows`** — the number of rows in a command tag.
* **`batchResponse`** — the response in the results of a text sent alone.
* **`textResponse`** — the same in the messages that answer it.
* **`execute`** — runs a statement, and tells what was sent for it.
-/

namespace BoundSql.Wire

/-- The greatest number of rows. -/
def greatestCount : Nat := 0xFFFFFFFFFFFFFFFF

/-- The word after the last blank. -/
def lastWord (cs : List Char) : List Char := (cs.reverse.takeWhile (· != ' ')).reverse

/-- **The number of rows in a command tag**: its last word, or none if that is no number. -/
def affectedRows (tag : String) : Nat :=
  match Decimal.readInteger 0 greatestCount (lastWord tag.toList) with
  | .ok n => n.toNat
  | .error _ => 0

/-! ## Texts sent alone -/

/-- **A part of the results of a text sent alone**, which may hold several statements. -/
inductive TextPart where
  /-- The columns of the rows to come. -/
  | columns (names : List String)
  /-- A row: each value, or the missing value, beside the name of its column. -/
  | row (columns : List (String × Option String))
  /-- The end of a statement, and the number of its rows. -/
  | complete (count : Nat)

/-- The values of a row beside the names of its columns. -/
def namedTexts (names : List String) (values : List (Option String)) :
    Except ClientFault (List (String × Option String)) :=
  if names.length = values.length then .ok (names.zip values) else .error .fieldCount

/-- **A message as a part of a result**, if it is one.  A row belongs to the columns named last. -/
def readMessage (names : Option (List String)) : TextMessage → Except ClientFault TextPart
  | .columns given => .ok (.columns given)
  | .row values =>
    match names with
    | none => .error .unexpected
    | some given => (namedTexts given values).map .row
  | .complete tag => .ok (.complete (affectedRows tag))
  | .empty => .ok (.complete 0)
  | .failed error => .error (.server error)
  | .closed => .error .closed

/-- The columns named last, after one more message. -/
def namesAfter (names : Option (List String)) : TextMessage → Option (List String)
  | .columns given => some given
  | _ => names

/-- **Takes in messages** up to the first that is no part of a result. -/
def readMessages (names : Option (List String)) :
    List TextMessage → Except ClientFault (List TextPart)
  | [] => .ok []
  | message :: rest =>
    match readMessage names message with
    | .error fault => .error fault
    | .ok part => (readMessages (namesAfter names message) rest).map (part :: ·)

/-- A value of a text sent alone is a text. -/
def textValue (v : Option String) : Value := (v.map Value.text).getD .null

/-- A row of texts under the names of its columns. -/
def textRow (columns : List (String × Option String)) : Row :=
  Record.ofList (columns.map fun (name, v) => (name, textValue v))

/-- Takes one more part into a response. -/
def takePart (r : Response) : TextPart → Response
  | .columns _ => r
  | .row columns => { r with rows := r.rows ++ [textRow columns] }
  | .complete count => { r with rowCount := r.rowCount + count }

/-- **The response in the parts of a result**: all rows of all statements, and the sum of their
counts. -/
def batchResponse (parts : List TextPart) : Response := parts.foldl takePart .empty

/-- **The response in the messages that answer a text sent alone.** -/
def textResponse (messages : List TextMessage) : Except ClientFault Response :=
  (readMessages none messages).map batchResponse

/-! ## Prepared statements -/

/-- The rows of an execution, each with as many values as there are columns. -/
def checkedRows (columns : List Column) :
    List (List RawValue) → Except ClientFault (List (List (Column × RawValue)))
  | [] => .ok []
  | values :: rest =>
    if values.length = columns.length then
      (checkedRows columns rest).map (columns.zip values :: ·)
    else .error .fieldCount

/-- The response in an execution that came to its end. -/
def executionResponse (columns : List Column) (rows : List (List RawValue)) (ending : Ending) :
    Except Failure Response :=
  let ended : Except Failure Nat :=
    match ending with
    | .complete tag => .ok (affectedRows tag)
    | .empty => .ok 0
    | .failed error => .error (ClientFault.server error).failure
  if columns.isEmpty then ended.map .ofCount
  else do
    let checked ← (checkedRows columns rows).mapError ClientFault.failure
    let _ ← ended
    return .ofRows (← checked.mapM rowOfColumns)

/-- The parameters of a prepared statement in binary form; there must be as many as it has. -/
def boundParameters (statement : Prepared) (params : List Value) :
    Except ClientFault (List RawValue) :=
  if params.length = statement.parameters.length then
    (bindAll (statement.parameters.zip params)).mapError .unsent
  else .error (.parameterCount statement.parameters.length params.length)

/-- **What running a statement leaves behind**: its result, what was sent, the state of the server,
and whether the connection is still open. -/
structure Exchange (σ : Type) where
  result : Except Failure Response
  sent : List Sent
  state : σ
  isOpen : Bool

/-- Executes a prepared statement; `before` was sent already. -/
def executePrepared {σ : Type} (server : Server σ) (state : σ) (before : List Sent)
    (statement : Prepared) (params : List Value) : Exchange σ :=
  match boundParameters statement params with
  | .error fault => ⟨.error fault.failure, before, state, true⟩
  | .ok parameters =>
    let (answer, state) := server.execute state parameters
    let sent := before ++ [.bind parameters]
    match answer with
    | .refused error => ⟨.error (ClientFault.server error).failure, sent, state, true⟩
    | .closed => ⟨.error ClientFault.closed.failure, sent, state, false⟩
    | .ran rows ending => ⟨executionResponse statement.columns rows ending, sent, state, true⟩

/-- Sends a text alone; `before` was sent already. -/
def runText {σ : Type} (server : Server σ) (state : σ) (before : List Sent) (text : String) :
    Exchange σ :=
  let (messages, state) := server.run state text
  let isOpen := !messages.any fun
    | .closed => true
    | _ => false
  ⟨(textResponse messages).mapError ClientFault.failure, before ++ [.run text], state, isOpen⟩

/-- **Runs a statement.** -/
def execute {σ : Type} (server : Server σ) (state : σ) (text : String) (params : List Value) :
    Exchange σ :=
  let (answer, state) := server.prepare state text
  let sent : List Sent := [.prepare text]
  match answer with
  | .prepared statement => executePrepared server state sent statement params
  | .refused error =>
    if params.isEmpty && error.isMultiStatement then runText server state sent text
    else ⟨.error (ClientFault.server error).failure, sent, state, true⟩
  | .closed => ⟨.error ClientFault.closed.failure, sent, state, false⟩

end BoundSql.Wire
