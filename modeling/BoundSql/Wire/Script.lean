import BoundSql.Wire.Execution

/-!
# A scripted server

A server whose answers to one statement are given beforehand.

* **`Script`** — what is given.
* **`Script.server`** — the server that answers by it.
-/

namespace BoundSql.Wire

/-- The steps at which a server may close the connection. -/
inductive HangUp where
  | prepare
  | execute
  deriving DecidableEq, Repr

/-- **What a scripted server answers** to one statement. -/
structure Script where
  statement : Prepared
  rows : List (List RawValue) := []
  tag : String := "OK"
  prepareError : Option ServerError := none
  bindError : Option ServerError := none
  executeError : Option ServerError := none
  hangUp : Option HangUp := none
  messages : List TextMessage := []

namespace Script

/-- The end of an execution; an empty tag tells that there was nothing to run. -/
def ending (s : Script) : Ending :=
  match s.executeError with
  | some error => .failed error
  | none => if s.tag.isEmpty then .empty else .complete s.tag

/-- **The server that answers by a script.** -/
def server (s : Script) : Server Unit where
  prepare _ _ :=
    let answer :=
      if s.hangUp = some .prepare then .closed
      else
        match s.prepareError with
        | some error => .refused error
        | none => .prepared s.statement
    (answer, ())
  execute _ _ :=
    let answer :=
      if s.hangUp = some .execute then .closed
      else
        match s.bindError with
        | some error => .refused error
        | none => .ran s.rows s.ending
    (answer, ())
  run _ _ := (s.messages, ())

end Script

end BoundSql.Wire
