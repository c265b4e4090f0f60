import BoundSql.Session.Work

/-!
# A scripted database

A database whose answers are given beforehand: rules by which statements fail, the responses of the
others in order, and the time each takes.

* **`Script`** — what is given.
* **`Script.driver`** — the driver that answers by it.
-/

namespace BoundSql.Session

/-- **A rule by which statements fail**: those that start with a text, after `skip` of them that do
not.  The failure may quote the statement. -/
structure FailRule where
  start : String
  skip : Nat
  failure : String → Failure

/-- **What a scripted database answers.** -/
structure Script where
  rules : List FailRule := []
  /-- The responses of statements that do not fail; when they run out, responses are empty. -/
  replies : List Response := []
  /-- The nanoseconds each statement takes. -/
  latency : Nat := 0
  /-- The failure of every checkout, if connections are refused. -/
  refusal : Option Failure := none

/-- Tries the rules in order.  A rule that still skips is lowered by one and the next one is
tried. -/
def tryRules (text : String) : List FailRule → Option Failure × List FailRule
  | [] => (none, [])
  | rule :: rest =>
    if rule.start.toList.isPrefixOf text.toList then
      if rule.skip = 0 then (some (rule.failure text), rule :: rest)
      else
        let (failure, rest) := tryRules text rest
        (failure, { rule with skip := rule.skip - 1 } :: rest)
    else
      let (failure, rest) := tryRules text rest
      (failure, rule :: rest)

namespace Script

/-- The answer to a statement. -/
def answer (s : Script) (text : String) : Except Failure Response × Script :=
  let (failure, rules) := tryRules text s.rules
  match failure with
  | some failure => (.error failure, { s with rules })
  | none =>
    match s.replies with
    | [] => (.ok .empty, { s with rules })
    | reply :: replies => (.ok reply, { s with rules, replies })

/-- **The driver that answers by a script.** -/
def driver : Driver Script where
  connect s :=
    match s.refusal with
    | some failure => (.finished (.error failure), s)
    | none => (.finished (.ok ()), s)
  query s _ call :=
    let (result, next) := s.answer call.text
    (.finished result, s.latency, next)

end Script

end BoundSql.Session
