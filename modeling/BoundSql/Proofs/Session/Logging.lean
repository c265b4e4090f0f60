import BoundSql.Proofs.Session.Protocol
import Mathlib.Data.List.Forall2

/-!
# What the log holds

The log is written while a program runs, some statements late and some never.  In the end it holds
the statements that the program asked for through its handles and that succeeded, in the order in
which they were answered, and nothing else.

* `Asked`, `Work.Asks` — the statements that a program asks for, with their answers, and what it
  comes to.  What opens and ends a transaction is not among them.
* `LogRecord.Describes` — a record tells of a statement, its time in whole milliseconds.
* `Driver.Fulfils` — what comes of a request, and what it writes.
* `records` — the records among the events of a run.
* **`runWithin_records`** — the records of a run describe the statements asked for that succeeded;
  and a failure of the database reaches the one who asked as it was.

Durations are cut to microseconds before they are rounded.  A half is a whole number of
microseconds, so nothing is rounded to another millisecond for that.
-/

namespace BoundSql.Session

open Transaction

/-! ## Records -/

/-- The record that an event writes, if it writes one. -/
def Event.record? : Event → Option LogRecord
  | .logged record => some record
  | .checkout _ | .release _ | .sent _ _ _ _ | .control _ | .rollbackFailed _ _ => none

/-- **The records among events**, in their order. -/
def records (events : List Event) : List LogRecord := events.filterMap Event.record?

@[simp] lemma records_nil : records [] = [] := rfl

@[simp] lemma records_append (first second : List Event) :
    records (first ++ second) = records first ++ records second := List.filterMap_append

@[simp] lemma records_checkout (connection : Option Nat) (events : List Event) :
    records (.checkout connection :: events) = records events := rfl

@[simp] lemma records_release (connection : Nat) (events : List Event) :
    records (.release connection :: events) = records events := rfl

@[simp] lemma records_sent (purpose : Purpose) (target : Target) (call : CompiledQuery)
    (succeeded : Option Nat) (events : List Event) :
    records (.sent purpose target call succeeded :: events) = records events := rfl

@[simp] lemma records_rollbackFailed (failure rollback : Failure) (events : List Event) :
    records (.rollbackFailed failure rollback :: events) = records events := rfl

/-- **A time in whole milliseconds** is the nearest one, and of two the greater. -/
lemma wholeMillis_eq (nanos : Nat) : wholeMillis nanos = (nanos + 500000) / 1000000 := by
  rw [wholeMillis]
  omega

/-! ## Statements that are asked for -/

/-- **A statement that a program asked for**, and its answer. -/
structure Asked where
  target : Target
  purpose : Purpose
  call : CompiledQuery
  answer : Outcome Response
  /-- How long the answer took, in nanoseconds. -/
  nanos : Nat

/-- Whether a statement is for the log: it was asked for through a handle, and it succeeded. -/
def Asked.isLogged (a : Asked) : Bool :=
  match a.purpose, a.answer with
  | .work, .finished (.ok _) => true
  | _, _ => false

/-- **A record tells of a statement**: the text and the values that were sent, and the nearest
number of milliseconds, a half being rounded up. -/
structure LogRecord.Describes (record : LogRecord) (a : Asked) : Prop where
  text : record.text = a.call.text
  params : record.params = a.call.params
  le_duration : record.duration * 1000000 ≤ a.nanos + 500000
  duration_lt : a.nanos + 500000 < (record.duration + 1) * 1000000

/-- A record tells of the statement it was written for. -/
lemma LogRecord.describes_ofCall (a : Asked) : (LogRecord.ofCall a.call a.nanos).Describes a := by
  have hduration : (LogRecord.ofCall a.call a.nanos).duration = (a.nanos + 500000) / 1000000 :=
    wholeMillis_eq a.nanos
  constructor
  case text => rfl
  case params => rfl
  case le_duration => omega
  case duration_lt => omega

section Asking

variable {σ α ρ : Type}

/-- **The statements that a program asks for**, given its executor and those around it: each with
its answer, from which the program goes on; and what the program comes to. -/
inductive Work.Asks (d : Driver σ) : List Target → Work σ α ρ → World σ → List Asked → Outcome α →
    Option ρ → World σ → Prop where
  | finish {executors : List Target} {result : Except Failure α} {notes : ρ} {w : World σ} :
      Asks d executors (.finish result notes) w [] (.finished result) (some notes) w
  | hang {executors : List Target} {notes : ρ} {w : World σ} :
      Asks d executors (.hang notes) w [] .abandoned (some notes) w
  /-- The program goes on from the very answer of the database. -/
  | answered {executors : List Target} {via : Via} {purpose : Purpose} {call : CompiledQuery}
      {next : Except Failure Response → Work σ α ρ} {answer : Except Failure Response} {nanos : Nat}
      {w w' : World σ} {s : σ} {rest : List Asked} {outcome : Outcome α} {notes : Option ρ} :
      d.query w.state (via.target executors) call = (.finished answer, nanos, s) →
      Asks d executors (next answer) { w with state := s } rest outcome notes w' →
      Asks d executors (.issue via purpose call next) w
        (⟨via.target executors, purpose, call, .finished answer, nanos⟩ :: rest) outcome notes w'
  | unanswered {executors : List Target} {via : Via} {purpose : Purpose} {call : CompiledQuery}
      {next : Except Failure Response → Work σ α ρ} {nanos : Nat} {w : World σ} {s : σ} :
      d.query w.state (via.target executors) call = (.abandoned, nanos, s) →
      Asks d executors (.issue via purpose call next) w
        [⟨via.target executors, purpose, call, .abandoned, nanos⟩] .abandoned none
        { w with state := s }
  /-- The body of a transaction is not started: with any other body the transaction is the same. -/
  | notStarted {executors : List Target} {options : Options} {body : Work σ α ρ}
      {next : Outcome α → Option ρ → Work σ α ρ} {t : Ran σ α ρ} {w w' : World σ}
      {rest : List Asked} {outcome : Outcome α} {notes : Option ρ} :
      (∀ other, transact d options other w = t) →
      Asks d executors (next t.outcome t.notes) t.world rest outcome notes w' →
      Asks d executors (.transaction options body next) w rest outcome notes w'
  /-- It is started, asks for its own statements, and the transaction is ended. -/
  | started {executors : List Target} {options : Options} {body : Work σ α ρ}
      {next : Outcome α → Option ρ → Work σ α ρ} {s : σ} {w w₁ w₂ w' : World σ}
      {opening : List Event} {inner rest : List Asked} {ended outcome : Outcome α}
      {left notes : Option ρ} {closed : Ran σ α ρ} :
      d.connect w.state = (.finished (.ok ()), s) →
      control d w.nextConnection options.beginStatement ⟨s, w.nextConnection + 1⟩ =
        (.finished (.ok ()), w₁, opening) →
      Asks d (.connection w.nextConnection :: executors) body w₁ inner ended left w₂ →
      conclude d w.nextConnection ⟨ended, left, w₂, []⟩ = closed →
      Asks d executors (next closed.outcome closed.notes) closed.world rest outcome notes w' →
      Asks d executors (.transaction options body next) w (inner ++ rest) outcome notes w'
  | outside {executors : List Target} {change : σ → σ} {next : Work σ α ρ} {w w' : World σ}
      {asked : List Asked} {outcome : Outcome α} {notes : Option ρ} :
      Asks d executors next { w with state := change w.state } asked outcome notes w' →
      Asks d executors (.outside change next) w asked outcome notes w'

/-- **What comes of a request**: the answer that the one who made it gets, what it writes to the
log, and the state it leaves. -/
inductive Driver.Fulfils {β : Type} (d : Driver σ) (target : Target) : Request β → σ →
    Except Failure β → List LogRecord → σ → Prop where
  | known {answer : β} {s : σ} : Fulfils d target (.known answer) s (.ok answer) [] s
  /-- What is read from the response is the answer, also if it cannot be read. -/
  | read {call : CompiledQuery} {read : Response → Except Failure β} {response : Response}
      {nanos : Nat} {s s' : σ} :
      d.query s target call = (.finished (.ok response), nanos, s') →
      Fulfils d target (.ask call read) s (read response) [.ofCall call nanos] s'
  /-- A failure of the database is the answer. -/
  | failed {call : CompiledQuery} {read : Response → Except Failure β} {failure : Failure}
      {nanos : Nat} {s s' : σ} :
      d.query s target call = (.finished (.error failure), nanos, s') →
      Fulfils d target (.ask call read) s (.error failure) [] s'

/-! ## What a transaction writes to the log -/

/-- What opens or ends a transaction is not logged. -/
lemma records_of_control {d : Driver σ} {connection : Nat} {statement : String} {w w' : World σ}
    {outcome : Outcome Unit} {events : List Event}
    (h : control d connection statement w = (outcome, w', events)) : records events = [] := by
  obtain ⟨-, h⟩ := Prod.mk.inj h
  obtain ⟨-, rfl⟩ := Prod.mk.inj h
  rfl

lemma records_undo (d : Driver σ) (connection : Nat) (failure : Failure) (notes : Option ρ)
    (w : World σ) : records (undo (α := α) d connection failure notes w).events = [] := by
  rcases hcontrol : control d connection rollbackStatement w with ⟨outcome, w', events⟩
  have hevents := records_of_control hcontrol
  simp only [undo, hcontrol]
  split
  · exact hevents
  · simpa using hevents
  · exact hevents

/-- **Ending a transaction adds nothing to the log**, and does not look at what was done before. -/
lemma conclude_after (d : Driver σ) (connection : Nat) (b : Ran σ α ρ) :
    ∃ closing, records closing = [] ∧
      conclude d connection b =
        { conclude d connection ⟨b.outcome, b.notes, b.world, []⟩ with
          events := b.events ++ closing } := by
  obtain ⟨ended, notes, w, events⟩ := b
  rcases ended with ⟨failure | a⟩ | _
  · exact ⟨_, records_undo (α := α) d connection failure notes w, rfl⟩
  · rcases hcontrol : control d connection commitStatement w with ⟨outcome, w', closing⟩
    have hclosing := records_of_control hcontrol
    rcases outcome with ⟨failure | _⟩ | _
    · refine ⟨closing ++ (undo (α := α) d connection failure notes w').events, ?_, ?_⟩
      · rw [records_append, hclosing, records_undo, List.append_nil]
      · simp only [conclude, hcontrol, Ran.after, List.append_assoc]
    · exact ⟨closing, hclosing, by simp only [conclude, hcontrol]⟩
    · exact ⟨closing, hclosing, by simp only [conclude, hcontrol]⟩
  · exact ⟨[], rfl, by simp only [conclude, List.append_nil]⟩

/-- **What a transaction writes to the log**: nothing if its body is not started, and else what its
body writes. -/
lemma transact_records (d : Driver σ) (options : Options) (body : Target → World σ → Ran σ α ρ)
    (w : World σ) {t : Ran σ α ρ} (ht : transact d options body w = t) :
    ((∀ other, transact d options other w = t) ∧ records t.events = []) ∨
    ∃ s w₁ opening b closed, d.connect w.state = (.finished (.ok ()), s) ∧
      control d w.nextConnection options.beginStatement ⟨s, w.nextConnection + 1⟩ =
        (.finished (.ok ()), w₁, opening) ∧
      body (.connection w.nextConnection) w₁ = b ∧
      conclude d w.nextConnection ⟨b.outcome, b.notes, b.world, []⟩ = closed ∧
      t.outcome = closed.outcome ∧ t.notes = closed.notes ∧ t.world = closed.world ∧
      records t.events = records b.events := by
  rcases hconnect : d.connect w.state with ⟨checkedOut, s⟩
  rcases checkedOut with ⟨failure | _⟩ | _
  · simp only [transact, hconnect] at ht
    subst ht
    exact .inl ⟨fun other => by simp only [transact, hconnect], rfl⟩
  · rcases hcontrol : control d w.nextConnection options.beginStatement
      ⟨s, w.nextConnection + 1⟩ with ⟨outcome, w₁, opening⟩
    have hopening := records_of_control hcontrol
    rcases outcome with ⟨failure | _⟩ | _
    · simp only [transact, hconnect, protocol, hcontrol] at ht
      subst ht
      refine .inl ⟨fun other => by simp only [transact, hconnect, protocol, hcontrol], ?_⟩
      simp [hopening, records_undo]
    · simp only [transact, hconnect, protocol, hcontrol] at ht
      subst ht
      obtain ⟨closing, hclosing, hconclude⟩ :=
        conclude_after d w.nextConnection (body (.connection w.nextConnection) w₁)
      refine .inr ⟨s, w₁, opening, _, _, rfl, hcontrol, rfl, rfl, ?_⟩
      simp [hconclude, hopening, hclosing]
    · simp only [transact, hconnect, protocol, hcontrol] at ht
      subst ht
      refine .inl ⟨fun other => by simp only [transact, hconnect, protocol, hcontrol], ?_⟩
      simp [hopening]
  · simp only [transact, hconnect] at ht
    subst ht
    exact .inl ⟨fun other => by simp only [transact, hconnect], rfl⟩

/-- A transaction that is opened is not the same with every body. -/
lemma exists_transact_ne {d : Driver σ} {options : Options} {w w₁ : World σ} {s : σ}
    {opening : List Event} (hconnect : d.connect w.state = (.finished (.ok ()), s))
    (hcontrol : control d w.nextConnection options.beginStatement ⟨s, w.nextConnection + 1⟩ =
      (.finished (.ok ()), w₁, opening)) (t : Ran σ α ρ) :
    ∃ other, transact d options other w ≠ t := by
  by_contra! hall
  -- What the body leaves among its events stands among those of the transaction.
  have hquiet := hall fun _ w => ⟨.abandoned, none, w, []⟩
  have hloud := hall fun _ w => ⟨.abandoned, none, w, [.checkout none]⟩
  have hevents := congrArg (fun t => t.events.length) (hquiet.trans hloud.symm)
  simp [transact, hconnect, protocol, hcontrol, conclude] at hevents

/-! ## What a program writes to the log -/

/-- **A program asks for definite statements** and comes to one end. -/
lemma Work.Asks.unique {d : Driver σ} {program : Work σ α ρ} {executors : List Target}
    {w w₁ w₂ : World σ} {asked₁ asked₂ : List Asked} {outcome₁ outcome₂ : Outcome α}
    {notes₁ notes₂ : Option ρ} (h₁ : program.Asks d executors w asked₁ outcome₁ notes₁ w₁)
    (h₂ : program.Asks d executors w asked₂ outcome₂ notes₂ w₂) :
    asked₁ = asked₂ ∧ outcome₁ = outcome₂ ∧ notes₁ = notes₂ ∧ w₁ = w₂ := by
  induction h₁ generalizing asked₂ outcome₂ notes₂ w₂ with
  | finish => cases h₂; exact ⟨rfl, rfl, rfl, rfl⟩
  | hang => cases h₂; exact ⟨rfl, rfl, rfl, rfl⟩
  | answered hquery _ ih =>
      cases h₂ with
      | answered hquery' hrest =>
          rw [hquery] at hquery'
          cases hquery'
          obtain ⟨rfl, hsame⟩ := ih hrest
          exact ⟨rfl, hsame⟩
      | unanswered hquery' =>
          rw [hquery] at hquery'
          cases hquery'
  | unanswered hquery =>
      cases h₂ with
      | answered hquery' hrest =>
          rw [hquery] at hquery'
          cases hquery'
      | unanswered hquery' =>
          rw [hquery] at hquery'
          cases hquery'
          exact ⟨rfl, rfl, rfl, rfl⟩
  | notStarted hall _ ih =>
      cases h₂ with
      | notStarted hall' hrest =>
          obtain rfl := (hall fun _ w => ⟨.abandoned, none, w, []⟩).symm.trans (hall' _)
          exact ih hrest
      | started hconnect hcontrol =>
          obtain ⟨other, hne⟩ := exists_transact_ne hconnect hcontrol _
          exact absurd (hall other) hne
  | started hconnect hcontrol _ hconclude _ ihbody ihnext =>
      cases h₂ with
      | notStarted hall' =>
          obtain ⟨other, hne⟩ := exists_transact_ne hconnect hcontrol _
          exact absurd (hall' other) hne
      | started hconnect' hcontrol' hbody hconclude' hrest =>
          rw [hconnect] at hconnect'
          cases hconnect'
          rw [hcontrol] at hcontrol'
          cases hcontrol'
          obtain ⟨rfl, rfl, rfl, rfl⟩ := ihbody hbody
          obtain rfl := hconclude.symm.trans hconclude'
          obtain ⟨rfl, hsame⟩ := ihnext hrest
          exact ⟨rfl, hsame⟩
  | outside _ ih =>
      cases h₂ with
      | outside hrest => exact ih hrest

/-- A statement that succeeds is logged if it is for the log. -/
lemma records_logEvents (purpose : Purpose) (call : CompiledQuery) (nanos : Nat) :
    records (logEvents true purpose call nanos) =
      if purpose = .work then [.ofCall call nanos] else [] := by
  cases purpose <;> rfl

/-- **A run asks for the statements of its program**, and its records tell of those for the log. -/
lemma exists_asks (d : Driver σ) (program : Work σ α ρ) (executors : List Target) (w : World σ)
    {r : Ran σ α ρ} (hr : program.runWithin d true executors w = r) :
    ∃ asked, program.Asks d executors w asked r.outcome r.notes r.world ∧
      List.Forall₂ LogRecord.Describes (records r.events) (asked.filter Asked.isLogged) := by
  induction program generalizing executors w r with
  | finish result notes =>
      subst hr
      exact ⟨[], .finish, .nil⟩
  | hang notes =>
      subst hr
      exact ⟨[], .hang, .nil⟩
  | issue via purpose call next ih =>
      rcases hquery : d.query w.state (via.target executors) call with ⟨answer, nanos, s⟩
      simp only [Work.runWithin, send, hquery] at hr
      rcases answer with ⟨failure | response⟩ | _
      · subst hr
        obtain ⟨rest, hasks, hrecords⟩ := ih (.error failure) executors { w with state := s } rfl
        refine ⟨_, .answered hquery hasks, ?_⟩
        have hunlogged : Asked.isLogged
            ⟨via.target executors, purpose, call, .finished (.error failure), nanos⟩ = false := by
          cases purpose <;> rfl
        rw [List.filter_cons_of_neg (by rw [hunlogged]; exact Bool.false_ne_true)]
        exact hrecords
      · subst hr
        obtain ⟨rest, hasks, hrecords⟩ := ih (.ok response) executors { w with state := s } rfl
        refine ⟨_, .answered hquery hasks, ?_⟩
        rw [Ran.events_after, records_append, records_sent, records_logEvents]
        cases purpose with
        | work =>
            exact .cons (LogRecord.describes_ofCall
              ⟨via.target executors, .work, call, .finished (.ok response), nanos⟩) hrecords
        | unlogged => exact hrecords
        | control => exact hrecords
      · subst hr
        refine ⟨_, .unanswered hquery, ?_⟩
        cases purpose <;> exact .nil
  | transaction options body next ihbody ihnext =>
      simp only [Work.runWithin] at hr
      generalize ht : transact d options
        (fun target w => body.runWithin d true (target :: executors) w) w = t at hr
      generalize hrest : (next t.outcome t.notes).runWithin d true executors t.world = rest at hr
      subst hr
      obtain ⟨asked, hasks, hrecords⟩ := ihnext t.outcome t.notes executors t.world hrest
      rw [Ran.events_after, records_append]
      -- Either the body does not count at all, or all that is written is what it writes.
      rcases transact_records d options _ w ht with ⟨hall, hnone⟩ |
        ⟨s, w₁, opening, b, closed, hconnect, hcontrol, hb, hclosed, houtcome, hnotes, hworld,
          hsame⟩
      · rw [hnone]
        exact ⟨asked, .notStarted hall hasks, hrecords⟩
      · obtain ⟨inner, hinner, hwritten⟩ := ihbody (.connection w.nextConnection :: executors) w₁ hb
        rw [houtcome, hnotes, hworld] at hasks
        rw [hsame]
        refine ⟨inner ++ asked, .started hconnect hcontrol hinner hclosed hasks, ?_⟩
        rw [List.filter_append]
        exact List.rel_append hwritten hrecords
  | outside change next ih =>
      obtain ⟨asked, hasks, hrecords⟩ := ih executors { w with state := change w.state } hr
      exact ⟨asked, .outside hasks, hrecords⟩

/-- **The log holds exactly the statements that were asked for and succeeded**, in their order, each
as it was sent and with its time.  Which statements a program asks for is definite, as its
transactions nest and whatever the database answers.  A request writes one record if its statement
succeeds, even if its response cannot be read, and none otherwise; a failure of the database is its
answer; and with nothing to set there is no statement. -/
theorem runWithin_records (d : Driver σ) (program : Work σ α ρ) (executors : List Target)
    (w : World σ) :
    (let r := program.runWithin d true executors w
      ∃ asked, program.Asks d executors w asked r.outcome r.notes r.world ∧
        (∀ other outcome notes w', program.Asks d executors w other outcome notes w' →
          other = asked) ∧
        List.Forall₂ LogRecord.Describes (records r.events) (asked.filter Asked.isLogged)) ∧
    (∀ {β : Type} (via : Via) (request : Request β) (next : Except Failure β → Work σ α ρ) answer
        written s, d.Fulfils (via.target executors) request w.state answer written s →
      ∃ sent, records sent = written ∧
        (Work.request via request next).runWithin d true executors w =
          ((next answer).runWithin d true executors { w with state := s }).after sent) ∧
    ∀ (t : Table) (id : Value) (patch : Record) (target : Target), patch.isEmpty = true →
      d.Fulfils target (t.update id patch) w.state (.ok 0) [] w.state := by
  refine ⟨?_, ?_, ?_⟩
  · obtain ⟨asked, hasks, hrecords⟩ := exists_asks d program executors w rfl
    exact ⟨asked, hasks, fun _ _ _ _ hother => (hother.unique hasks).1, hrecords⟩
  · intro β via request next answer written s h
    cases h with
    | known => exact ⟨[], rfl, rfl⟩
    | read hquery =>
        refine ⟨_ :: logEvents true .work _ _, ?_, by
          simp only [Work.request, Work.runWithin, send, hquery]; rfl⟩
        rw [records_sent, records_logEvents, if_pos rfl]
    | failed hquery =>
        exact ⟨[_], rfl, by simp only [Work.request, Work.runWithin, send, hquery]; rfl⟩
  · intro t id patch target hempty
    have hupdate : t.update id patch = .known 0 := if_pos hempty
    rw [hupdate]
    exact .known

end Asking

end BoundSql.Session
