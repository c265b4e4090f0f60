import BoundSql.Session.Request
import BoundSql.Session.Trace
import BoundSql.Transaction.Options

/-!
# Programs that work with a database

A program issues statements one after the other, on the pool or inside a transaction, and goes on
from their answers as it likes.  Inside a transaction it may open another one, and still reach the
ones around it.  Running a program against a driver yields its outcome and the events it caused.

A transaction has a connection of its own.  It is opened, its body runs, and it is made to last; if
any of the three fails it is undone, and the failure is returned, with the failure of undoing in
front of it if that fails too.  A transaction may also be abandoned while an answer is awaited or
the body does not go on; then nothing more is sent.  In every case the connection is released.

* **`Outcome`** — what comes of something that may fail or never end.
* **`Driver`** — a database as a function of its state.
* **`Via.target`** — where a statement goes, among the executors that a program may reach.
* **`Work`** — programs.
* **`transact`** — the protocol of a transaction around any body.
* **`Work.runWithin`**, **`Work.run`** — what a program does.
-/

namespace BoundSql.Session

open Transaction

/-- **What comes of something** that may fail, or be given up because it does not end. -/
inductive Outcome (α : Type) where
  | finished (result : Except Failure α)
  | abandoned

/-- **A database**, as it is seen through its driver.  Each answer may depend on all that happened
before, which the state holds.  An answer that never comes is `abandoned`. -/
structure Driver (σ : Type) where
  /-- Checks out a connection. -/
  connect : σ → Outcome Unit × σ
  /-- Answers a statement, and says how many nanoseconds that took. -/
  query : σ → Target → CompiledQuery → Outcome Response × Nat × σ

/-- The executor a statement is issued through. -/
inductive Via where
  /-- The one the program was given: the transaction it is in, or else the pool. -/
  | handle
  /-- The pool, also inside a transaction. -/
  | pool
  /-- The one that an enclosing program was given: the next one at level 0, and so on outwards. -/
  | outer (level : Nat)
  deriving DecidableEq, Repr

/-- **Where a statement goes**, given the executors of a program and of those around it, from the inside
out.  Outside all of them there is the pool. -/
def Via.target (executors : List Target) : Via → Target
  | .handle => executors.headD .pool
  | .pool => .pool
  | .outer level => executors.getD (level + 1) .pool

/-- **A program** that ends in a value of type `α` or a failure, and leaves notes of type `ρ`. -/
inductive Work (σ α ρ : Type) : Type where
  /-- The end of the program. -/
  | finish (result : Except Failure α) (notes : ρ)
  /-- The program does not go on. -/
  | hang (notes : ρ)
  /-- A statement; the program goes on from its answer. -/
  | issue (via : Via) (purpose : Purpose) (call : CompiledQuery)
      (next : Except Failure Response → Work σ α ρ)
  /-- A transaction on a connection of its own; the program goes on from its outcome and the notes
  of its body, if the body came to leave any. -/
  | transaction (options : Options) (body : Work σ α ρ)
      (next : Outcome α → Option ρ → Work σ α ρ)
  /-- Something else changes the database in the meantime. -/
  | outside (change : σ → σ) (next : Work σ α ρ)

/-- The state of a database, and the number of the next connection. -/
structure World (σ : Type) where
  state : σ
  nextConnection : Nat

/-- **What a run leaves behind.** -/
structure Ran (σ α ρ : Type) where
  outcome : Outcome α
  notes : Option ρ
  world : World σ
  events : List Event

/-- The same with earlier events in front. -/
def Ran.after {σ α ρ : Type} (events : List Event) (r : Ran σ α ρ) : Ran σ α ρ :=
  { r with events := events ++ r.events }

section After

variable {σ α ρ : Type} (events : List Event) (r : Ran σ α ρ)

@[simp] theorem Ran.outcome_after : (r.after events).outcome = r.outcome := rfl

@[simp] theorem Ran.notes_after : (r.after events).notes = r.notes := rfl

@[simp] theorem Ran.world_after : (r.after events).world = r.world := rfl

@[simp] theorem Ran.events_after : (r.after events).events = events ++ r.events := rfl

end After

/-- Sends a statement. -/
def send {σ : Type} (d : Driver σ) (purpose : Purpose) (target : Target) (call : CompiledQuery)
    (w : World σ) : Outcome Response × Nat × World σ × Event :=
  let (outcome, nanos, state) := d.query w.state target call
  let succeeded :=
    match outcome with
    | .finished (.ok _) => some nanos
    | _ => none
  (outcome, nanos, { w with state }, .sent purpose target call succeeded)

/-- The record of a statement that succeeded, if there is a log and the statement is for it. -/
def logEvents (logging : Bool) (purpose : Purpose) (call : CompiledQuery) (nanos : Nat) :
    List Event :=
  if logging ∧ purpose = .work then [.logged (.ofCall call nanos)] else []

/-- A statement that opens or ends a transaction.  It is traced before it is sent, and its response
is of no interest. -/
def control {σ : Type} (d : Driver σ) (connection : Nat) (statement : String) (w : World σ) :
    Outcome Unit × World σ × List Event :=
  let (outcome, _, w, event) := send d .control (.connection connection) ⟨statement, []⟩ w
  let outcome :=
    match outcome with
    | .finished (.ok _) => .finished (.ok ())
    | .finished (.error e) => .finished (.error e)
    | .abandoned => .abandoned
  (outcome, w, [.control statement, event])

/-- **Undoes a transaction** that failed. -/
def undo {σ α ρ : Type} (d : Driver σ) (connection : Nat) (failure : Failure) (notes : Option ρ)
    (w : World σ) : Ran σ α ρ :=
  let (outcome, w, events) := control d connection rollbackStatement w
  match outcome with
  | .finished (.ok _) => ⟨.finished (.error failure), notes, w, events⟩
  | .finished (.error rollback) =>
    ⟨.finished (.error (failure.rollbackFailed rollback)), notes, w,
      events ++ [.rollbackFailed failure rollback]⟩
  | .abandoned => ⟨.abandoned, notes, w, events⟩

/-- **Ends a transaction** whose body came to an end. -/
def conclude {σ α ρ : Type} (d : Driver σ) (connection : Nat) (r : Ran σ α ρ) : Ran σ α ρ :=
  match r.outcome with
  | .abandoned => r
  | .finished (.error failure) => (undo d connection failure r.notes r.world).after r.events
  | .finished (.ok a) =>
    let (outcome, w, events) := control d connection commitStatement r.world
    match outcome with
    | .finished (.ok _) => ⟨.finished (.ok a), r.notes, w, r.events ++ events⟩
    | .finished (.error failure) =>
      (undo d connection failure r.notes w).after (r.events ++ events)
    | .abandoned => ⟨.abandoned, r.notes, w, r.events ++ events⟩

/-- **The protocol of a transaction** on a connection: it is opened, the body runs, it is ended. -/
def protocol {σ α ρ : Type} (d : Driver σ) (options : Options) (connection : Nat)
    (body : World σ → Ran σ α ρ) (w : World σ) : Ran σ α ρ :=
  let (outcome, w, events) := control d connection options.beginStatement w
  match outcome with
  | .finished (.ok _) => (conclude d connection (body w)).after events
  | .finished (.error failure) => (undo d connection failure none w).after events
  | .abandoned => ⟨.abandoned, none, w, events⟩

/-- **A transaction**: a connection is checked out for it and released however it ends. -/
def transact {σ α ρ : Type} (d : Driver σ) (options : Options)
    (body : Target → World σ → Ran σ α ρ) (w : World σ) : Ran σ α ρ :=
  let (outcome, state) := d.connect w.state
  match outcome with
  | .finished (.ok _) =>
    let connection := w.nextConnection
    let r := protocol d options connection (body (.connection connection)) ⟨state, connection + 1⟩
    { r with events := .checkout (some connection) :: (r.events ++ [.release connection]) }
  | .finished (.error failure) =>
    ⟨.finished (.error failure), none, { w with state }, [.checkout none]⟩
  | .abandoned => ⟨.abandoned, none, { w with state }, [.checkout none]⟩

namespace Work

/-- **What a program does**, given the executor it runs on and those of the programs around it. -/
def runWithin {σ α ρ : Type} (d : Driver σ) (logging : Bool) :
    Work σ α ρ → List Target → World σ → Ran σ α ρ
  | finish result notes, _, w => ⟨.finished result, some notes, w, []⟩
  | hang notes, _, w => ⟨.abandoned, some notes, w, []⟩
  | issue via purpose call next, executors, w =>
    let (outcome, nanos, w, event) := send d purpose (via.target executors) call w
    match outcome with
    | .finished (.ok response) =>
      ((next (.ok response)).runWithin d logging executors w).after
        (event :: logEvents logging purpose call nanos)
    | .finished (.error failure) =>
      ((next (.error failure)).runWithin d logging executors w).after [event]
    | .abandoned => ⟨.abandoned, none, w, [event]⟩
  | transaction options body next, executors, w =>
    let r := transact d options
      (fun target w => body.runWithin d logging (target :: executors) w) w
    ((next r.outcome r.notes).runWithin d logging executors r.world).after r.events
  | outside change next, executors, w =>
    next.runWithin d logging executors { w with state := change w.state }

/-- **What a program does** that stands in no other, given the executor it runs on. -/
def run {σ α ρ : Type} (d : Driver σ) (logging : Bool) (program : Work σ α ρ) (here : Target)
    (w : World σ) : Ran σ α ρ :=
  program.runWithin d logging [here] w

/-- Carries out a request and goes on from its answer. -/
def request {σ α ρ β : Type} (via : Via) (r : Request β) (next : Except Failure β → Work σ α ρ) :
    Work σ α ρ :=
  match r with
  | .known answer => next (.ok answer)
  | .ask call read => issue via .work call fun answer => next (answer.bind read)

end Work

end BoundSql.Session
