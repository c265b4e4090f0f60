import BoundSql.Session.Script
import Mathlib.Tactic.Lemma

/-!
# The calls of a transaction

A driver sees calls: connections asked for, statements, and connections given back.  Which calls a
transaction makes is said here from the answers of the driver and the program in it, without the
functions that carry it out.

* `Call`, `calls` — what a driver sees of a list of events.
* `Driver.Answers`, `Work.OnHandle` — a driver that answers whatever it is asked, and a program that
  issues statements through its handle and comes to an end.
* `Work.Issues` — the calls of such a program, in its order.
* `Transacts` — the five ways in which a transaction may go.
* `Succeeds` — that it goes well at every point.
* **`transact_transacts`** — a transaction goes in one of the five ways; it has a value exactly when
  it succeeds, and sends nothing after its connection is given back.

All relations thread the state of the driver from call to call, so a failure may depend on all that
was sent before.
-/

namespace BoundSql.Session

open Transaction

/-! ## What a driver sees -/

/-- **A call to a driver.** -/
inductive Call where
  /-- A connection is asked for; the one that was had. -/
  | checkout (connection : Option Nat)
  /-- A statement, and whether it succeeded. -/
  | statement (target : Target) (call : CompiledQuery) (succeeded : Bool)
  /-- A connection is given back. -/
  | release (connection : Nat)

/-- The call behind an event, if there is one. -/
def Event.call? : Event → Option Call
  | .checkout connection => some (.checkout connection)
  | .release connection => some (.release connection)
  | .sent _ target call succeeded => some (.statement target call succeeded.isSome)
  | .logged _ | .control _ | .rollbackFailed _ _ => none

/-- **The calls among events**, in their order. -/
def calls (events : List Event) : List Call := events.filterMap Event.call?

@[simp] lemma calls_nil : calls [] = [] := rfl

@[simp] lemma calls_append (first second : List Event) :
    calls (first ++ second) = calls first ++ calls second := List.filterMap_append

@[simp] lemma calls_checkout (connection : Option Nat) (events : List Event) :
    calls (.checkout connection :: events) = .checkout connection :: calls events := rfl

@[simp] lemma calls_release (connection : Nat) (events : List Event) :
    calls (.release connection :: events) = .release connection :: calls events := rfl

@[simp] lemma calls_sent (purpose : Purpose) (target : Target) (call : CompiledQuery)
    (succeeded : Option Nat) (events : List Event) :
    calls (.sent purpose target call succeeded :: events) =
      .statement target call succeeded.isSome :: calls events := rfl

@[simp] lemma calls_control (statement : String) (events : List Event) :
    calls (.control statement :: events) = calls events := rfl

@[simp] lemma calls_rollbackFailed (failure rollback : Failure) (events : List Event) :
    calls (.rollbackFailed failure rollback :: events) = calls events := rfl

/-- Writing to the log is no call. -/
@[simp] lemma calls_logEvents (logging : Bool) (purpose : Purpose) (call : CompiledQuery)
    (nanos : Nat) : calls (logEvents logging purpose call nanos) = [] := by
  rw [logEvents]
  split <;> rfl

/-! ## Drivers that answer, programs that end -/

section Relations

variable {σ α ρ : Type}

/-- **A driver that answers**: every checkout and every statement succeeds or fails. -/
structure Driver.Answers (d : Driver σ) : Prop where
  connect : ∀ s, ∃ result s', d.connect s = (.finished result, s')
  query : ∀ s target call, ∃ answer nanos s', d.query s target call = (.finished answer, nanos, s')

/-- **What a driver replies to a statement** on a connection. -/
def Driver.Replies (d : Driver σ) (connection : Nat) (call : CompiledQuery) (s : σ)
    (answer : Except Failure Response) (s' : σ) : Prop :=
  ∃ nanos, d.query s (.connection connection) call = (.finished answer, nanos, s')

/-- **A program on its handle**: it issues one statement after the other, goes on from each answer as
it likes, and ends in a value or a failure. -/
inductive Work.OnHandle : Work σ α ρ → Prop where
  | finish (result : Except Failure α) (notes : ρ) : OnHandle (.finish result notes)
  | issue (purpose : Purpose) (call : CompiledQuery)
      (next : Except Failure Response → Work σ α ρ) :
      (∀ answer, OnHandle (next answer)) → OnHandle (.issue .handle purpose call next)

/-- **The calls of a program** on a connection, one for each statement, and how it ends. -/
inductive Work.Issues (d : Driver σ) (connection : Nat) :
    Work σ α ρ → σ → List Call → Except Failure α → ρ → σ → Prop where
  | finish (result : Except Failure α) (notes : ρ) (s : σ) :
      Issues d connection (.finish result notes) s [] result notes s
  | issue {purpose : Purpose} {call : CompiledQuery}
      {next : Except Failure Response → Work σ α ρ} {s s' s'' : σ}
      {answer : Except Failure Response} {rest : List Call} {result : Except Failure α} {notes : ρ} :
      d.Replies connection call s answer s' →
      Issues d connection (next answer) s' rest result notes s'' →
      Issues d connection (.issue .handle purpose call next) s
        (.statement (.connection connection) call answer.isOk :: rest) result notes s''

/-! ## How a transaction may go -/

/-- A statement that opens or ends a transaction. -/
def controlCall (statement : String) : CompiledQuery := ⟨statement, []⟩

/-- The call that sends it. -/
def controlled (connection : Nat) (statement : String) (succeeded : Bool) : Call :=
  .statement (.connection connection) (controlCall statement) succeeded

/-- **How a failed transaction is undone**: by one statement.  If that fails too, its failure goes in
front of the first one. -/
inductive Undoes (d : Driver σ) (connection : Nat) (failure : Failure) (s : σ) :
    Call → Failure → σ → Prop where
  | undone {response : Response} {s' : σ} :
      d.Replies connection (controlCall rollbackStatement) s (.ok response) s' →
      Undoes d connection failure s (controlled connection rollbackStatement true) failure s'
  | failed {rollback : Failure} {s' : σ} :
      d.Replies connection (controlCall rollbackStatement) s (.error rollback) s' →
      Undoes d connection failure s (controlled connection rollbackStatement false)
        (failure.rollbackFailed rollback) s'

/-- **How a transaction may go**: the calls it makes, its result, what its body notes if it was
started, and the state it leaves. -/
inductive Transacts (d : Driver σ) (options : Options) (body : Work σ α ρ) (connection : Nat)
    (s : σ) : List Call → Except Failure α → Option ρ → σ → Prop where
  /-- No connection is to be had. -/
  | refused {failure : Failure} {s' : σ} :
      d.connect s = (.finished (.error failure), s') →
      Transacts d options body connection s [.checkout none] (.error failure) none s'
  /-- It cannot be opened, and its body is not started. -/
  | notBegun {failure failure' : Failure} {undo : Call} {s₁ s₂ s₃ : σ} :
      d.connect s = (.finished (.ok ()), s₁) →
      d.Replies connection (controlCall options.beginStatement) s₁ (.error failure) s₂ →
      Undoes d connection failure s₂ undo failure' s₃ →
      Transacts d options body connection s
        ([.checkout (some connection), controlled connection options.beginStatement false, undo] ++
          [.release connection])
        (.error failure') none s₃
  /-- Its body fails. -/
  | bodyFailed {began : Response} {issued : List Call} {failure failure' : Failure} {notes : ρ}
      {undo : Call} {s₁ s₂ s₃ s₄ : σ} :
      d.connect s = (.finished (.ok ()), s₁) →
      d.Replies connection (controlCall options.beginStatement) s₁ (.ok began) s₂ →
      body.Issues d connection s₂ issued (.error failure) notes s₃ →
      Undoes d connection failure s₃ undo failure' s₄ →
      Transacts d options body connection s
        ([.checkout (some connection), controlled connection options.beginStatement true] ++
          issued ++ [undo] ++ [.release connection])
        (.error failure') (some notes) s₄
  /-- It is made to last. -/
  | committed {began ended : Response} {issued : List Call} {a : α} {notes : ρ}
      {s₁ s₂ s₃ s₄ : σ} :
      d.connect s = (.finished (.ok ()), s₁) →
      d.Replies connection (controlCall options.beginStatement) s₁ (.ok began) s₂ →
      body.Issues d connection s₂ issued (.ok a) notes s₃ →
      d.Replies connection (controlCall commitStatement) s₃ (.ok ended) s₄ →
      Transacts d options body connection s
        ([.checkout (some connection), controlled connection options.beginStatement true] ++
          issued ++ [controlled connection commitStatement true] ++ [.release connection])
        (.ok a) (some notes) s₄
  /-- Its body succeeds and it cannot be made to last. -/
  | notCommitted {began : Response} {issued : List Call} {a : α} {failure failure' : Failure}
      {notes : ρ} {undo : Call} {s₁ s₂ s₃ s₄ s₅ : σ} :
      d.connect s = (.finished (.ok ()), s₁) →
      d.Replies connection (controlCall options.beginStatement) s₁ (.ok began) s₂ →
      body.Issues d connection s₂ issued (.ok a) notes s₃ →
      d.Replies connection (controlCall commitStatement) s₃ (.error failure) s₄ →
      Undoes d connection failure s₄ undo failure' s₅ →
      Transacts d options body connection s
        ([.checkout (some connection), controlled connection options.beginStatement true] ++
          issued ++ [controlled connection commitStatement false, undo] ++ [.release connection])
        (.error failure') (some notes) s₅

/-- **A transaction succeeds** with a value: a connection is had, it is opened, its body ends in the
value, and it is made to last. -/
def Succeeds (d : Driver σ) (options : Options) (body : Work σ α ρ) (connection : Nat) (s : σ)
    (a : α) : Prop :=
  ∃ s₁ s₂ s₃ s₄ began issued notes ended,
    d.connect s = (.finished (.ok ()), s₁) ∧
    d.Replies connection (controlCall options.beginStatement) s₁ (.ok began) s₂ ∧
    body.Issues d connection s₂ issued (.ok a) notes s₃ ∧
    d.Replies connection (controlCall commitStatement) s₃ (.ok ended) s₄

/-! ## What is sent is what the relations say -/

lemma Driver.Answers.replies {d : Driver σ} (hd : d.Answers) (connection : Nat)
    (call : CompiledQuery) (s : σ) : ∃ answer s', d.Replies connection call s answer s' := by
  obtain ⟨answer, nanos, s', hquery⟩ := hd.query s (.connection connection) call
  exact ⟨answer, s', nanos, hquery⟩

/-- What a driver replies is determined by its state. -/
lemma Driver.Replies.unique {d : Driver σ} {connection : Nat} {call : CompiledQuery} {s s₁ s₂ : σ}
    {answer₁ answer₂ : Except Failure Response} (h₁ : d.Replies connection call s answer₁ s₁)
    (h₂ : d.Replies connection call s answer₂ s₂) : answer₁ = answer₂ ∧ s₁ = s₂ := by
  obtain ⟨_, h₁⟩ := h₁
  obtain ⟨_, h₂⟩ := h₂
  rw [h₁] at h₂
  cases h₂
  exact ⟨rfl, rfl⟩

/-- So is how a program ends. -/
lemma Work.Issues.unique {d : Driver σ} {connection : Nat} {program : Work σ α ρ} {s s₁ s₂ : σ}
    {issued₁ issued₂ : List Call} {result₁ result₂ : Except Failure α} {notes₁ notes₂ : ρ}
    (h₁ : program.Issues d connection s issued₁ result₁ notes₁ s₁)
    (h₂ : program.Issues d connection s issued₂ result₂ notes₂ s₂) :
    result₁ = result₂ ∧ s₁ = s₂ := by
  induction h₁ generalizing issued₂ with
  | finish result notes s =>
      cases h₂
      exact ⟨rfl, rfl⟩
  | issue hreply _ ih =>
      cases h₂ with
      | issue hreply' hrest =>
          obtain ⟨rfl, rfl⟩ := hreply.unique hreply'
          exact ih hrest

/-- A control statement is one call, and nothing of its answer is kept but a failure. -/
lemma control_of_replies {d : Driver σ} {connection : Nat} {statement : String} {w : World σ}
    {answer : Except Failure Response} {s' : σ}
    (h : d.Replies connection (controlCall statement) w.state answer s') :
    ∃ events, control d connection statement w =
        (.finished (answer.map fun _ => ()), { w with state := s' }, events) ∧
      calls events = [controlled connection statement answer.isOk] := by
  obtain ⟨nanos, h⟩ := h
  rw [controlCall] at h
  cases answer with
  | ok response =>
      simp only [control, send, h]
      refine ⟨_, rfl, ?_⟩
      rw [calls_control, calls_sent]
      rfl
  | error failure =>
      simp only [control, send, h]
      refine ⟨_, rfl, ?_⟩
      rw [calls_control, calls_sent]
      rfl

/-- **A failed transaction is undone by one statement.** -/
lemma undo_undoes {d : Driver σ} (hd : d.Answers) {connection : Nat} {failure : Failure}
    {notes : Option ρ} {w : World σ} {r : Ran σ α ρ}
    (hr : undo d connection failure notes w = r) :
    ∃ call failure', r.outcome = .finished (.error failure') ∧ r.notes = notes ∧
      calls r.events = [call] ∧ Undoes d connection failure w.state call failure' r.world.state := by
  obtain ⟨answer, s', hreply⟩ := hd.replies connection (controlCall rollbackStatement) w.state
  cases answer with
  | ok response =>
      obtain ⟨events, hcontrol, hcalls⟩ := control_of_replies hreply
      simp only [undo, hcontrol, Except.map] at hr
      subst hr
      exact ⟨_, failure, rfl, rfl, hcalls, .undone hreply⟩
  | error rollback =>
      obtain ⟨events, hcontrol, hcalls⟩ := control_of_replies hreply
      simp only [undo, hcontrol, Except.map] at hr
      subst hr
      refine ⟨_, failure.rollbackFailed rollback, rfl, rfl, ?_, .failed hreply⟩
      rw [calls_append, hcalls, calls_rollbackFailed]
      rfl

/-- A statement on the handle is one call, and its answer decides how the program goes on. -/
lemma run_issue {d : Driver σ} (logging : Bool) {connection : Nat} (purpose : Purpose)
    {call : CompiledQuery} (next : Except Failure Response → Work σ α ρ) {w : World σ}
    {answer : Except Failure Response} {s' : σ}
    (h : d.Replies connection call w.state answer s') :
    ∃ events, (Work.issue .handle purpose call next).run d logging (.connection connection) w =
        ((next answer).run d logging (.connection connection) { w with state := s' }).after events ∧
      calls events = [.statement (.connection connection) call answer.isOk] := by
  obtain ⟨nanos, hquery⟩ := h
  cases answer with
  | ok response =>
      refine ⟨.sent purpose (.connection connection) call (some nanos) ::
        logEvents logging purpose call nanos, ?_, ?_⟩
      · simp only [Work.run, Work.runWithin, Via.target, List.headD_cons, send, hquery]
      · rw [calls_sent, calls_logEvents]
        rfl
  | error failure =>
      refine ⟨[.sent purpose (.connection connection) call none], ?_, ?_⟩
      · simp only [Work.run, Work.runWithin, Via.target, List.headD_cons, send, hquery]
      · rw [calls_sent, calls_nil]
        rfl

/-- **A program on its handle makes the calls of its statements**, and comes to an end. -/
lemma run_issues {d : Driver σ} (hd : d.Answers) (logging : Bool) {connection : Nat}
    {program : Work σ α ρ} (h : program.OnHandle) {w : World σ} {r : Ran σ α ρ}
    (hr : program.run d logging (.connection connection) w = r) :
    ∃ result notes, r.outcome = .finished result ∧ r.notes = some notes ∧
      program.Issues d connection w.state (calls r.events) result notes r.world.state := by
  -- the answer picks the rest of the program, so the claim is for all states and all answers
  induction h generalizing w r with
  | finish result notes =>
      subst hr
      exact ⟨result, notes, rfl, rfl, .finish result notes w.state⟩
  | issue purpose call next _ ih =>
      obtain ⟨answer, s', hreply⟩ := hd.replies connection call w.state
      obtain ⟨events, hrun, hcalls⟩ := run_issue logging purpose next hreply
      obtain ⟨result, notes, houtcome, hnotes, hissues⟩ := ih answer rfl
      rw [hrun] at hr
      subst hr
      refine ⟨result, notes, houtcome, hnotes, ?_⟩
      rw [Ran.events_after, calls_append, hcalls]
      exact .issue hreply hissues

/-- Once its body has come to an end, a transaction goes in one of the last three ways. -/
lemma conclude_transacts {d : Driver σ} (hd : d.Answers) {options : Options} {body : Work σ α ρ}
    {connection : Nat} {s s₁ s₂ : σ} {began : Response} {result : Except Failure α} {notes : ρ}
    {b r : Ran σ α ρ} (hconnect : d.connect s = (.finished (.ok ()), s₁))
    (hbegin : d.Replies connection (controlCall options.beginStatement) s₁ (.ok began) s₂)
    (houtcome : b.outcome = .finished result) (hnotes : b.notes = some notes)
    (hissues : body.Issues d connection s₂ (calls b.events) result notes b.world.state)
    (hr : conclude d connection b = r) :
    ∃ result', r.outcome = .finished result' ∧
      Transacts d options body connection s
        ([.checkout (some connection), controlled connection options.beginStatement true] ++
          calls r.events ++ [.release connection])
        result' r.notes r.world.state := by
  cases result with
  | error failure =>
      simp only [conclude, houtcome, hnotes] at hr
      generalize hu : undo d connection failure (some notes) b.world = u at hr
      obtain ⟨undoing, failure', hout, hunotes, hcalls, hundoes⟩ := undo_undoes hd hu
      subst hr
      refine ⟨.error failure', hout, ?_⟩
      have h := Transacts.bodyFailed hconnect hbegin hissues hundoes
      simpa [hunotes, hcalls] using h
  | ok a =>
      obtain ⟨answer, s', hcommit⟩ :=
        hd.replies connection (controlCall commitStatement) b.world.state
      cases answer with
      | ok ended =>
          obtain ⟨events, hcontrol, hcalls⟩ := control_of_replies hcommit
          simp only [conclude, houtcome, hnotes, hcontrol, Except.map] at hr
          subst hr
          refine ⟨.ok a, rfl, ?_⟩
          have h := Transacts.committed hconnect hbegin hissues hcommit
          simpa [hcalls, Except.isOk, Except.toBool] using h
      | error failure =>
          obtain ⟨events, hcontrol, hcalls⟩ := control_of_replies hcommit
          simp only [conclude, houtcome, hnotes, hcontrol, Except.map] at hr
          generalize hu : undo d connection failure (some notes) { b.world with state := s' } = u
            at hr
          obtain ⟨undoing, failure', hout, hunotes, hundo, hundoes⟩ := undo_undoes hd hu
          subst hr
          refine ⟨.error failure', hout, ?_⟩
          have h := Transacts.notCommitted hconnect hbegin hissues hcommit hundoes
          simpa [hunotes, hcalls, hundo, Except.isOk, Except.toBool] using h

/-- **A transaction goes in one of the five ways.** -/
lemma transacts_of_answers {d : Driver σ} (hd : d.Answers) (options : Options)
    {body : Work σ α ρ} (hbody : body.OnHandle) (logging : Bool) {w : World σ} {r : Ran σ α ρ}
    (hr : transact d options (fun target w => body.run d logging target w) w = r) :
    ∃ result, r.outcome = .finished result ∧
      Transacts d options body w.nextConnection w.state (calls r.events) result r.notes
        r.world.state := by
  obtain ⟨checkedOut, s₁, hconnect⟩ := hd.connect w.state
  cases checkedOut with
  | error failure =>
      simp only [transact, hconnect] at hr
      subst hr
      exact ⟨_, rfl, .refused hconnect⟩
  | ok _ =>
      obtain ⟨answer, s₂, hbegin⟩ :=
        hd.replies w.nextConnection (controlCall options.beginStatement) s₁
      cases answer with
      | error failure =>
          obtain ⟨events, hcontrol, hcalls⟩ :=
            control_of_replies (w := ⟨s₁, w.nextConnection + 1⟩) hbegin
          simp only [transact, hconnect, protocol, hcontrol, Except.map] at hr
          generalize hu : undo (α := α) (ρ := ρ) d w.nextConnection failure none
            ⟨s₂, w.nextConnection + 1⟩ = u at hr
          obtain ⟨undoing, failure', hout, hunotes, hundo, hundoes⟩ := undo_undoes hd hu
          subst hr
          refine ⟨.error failure', hout, ?_⟩
          have h := @Transacts.notBegun _ _ _ _ _ body _ _ _ _ _ _ _ _ hconnect hbegin hundoes
          simpa [hunotes, hcalls, hundo, Except.isOk, Except.toBool] using h
      | ok began =>
          obtain ⟨events, hcontrol, hcalls⟩ :=
            control_of_replies (w := ⟨s₁, w.nextConnection + 1⟩) hbegin
          simp only [transact, hconnect, protocol, hcontrol, Except.map] at hr
          generalize hb : body.run d logging (.connection w.nextConnection)
            ⟨s₂, w.nextConnection + 1⟩ = b at hr
          obtain ⟨result, notes, hout, hnotes, hissues⟩ := run_issues hd logging hbody hb
          obtain ⟨result', hout', htransacts⟩ :=
            conclude_transacts hd hconnect hbegin hout hnotes hissues rfl
          subst hr
          refine ⟨result', hout', ?_⟩
          simpa [hcalls, Except.isOk, Except.toBool] using htransacts

/-! ## What the five ways have in common -/

/-- A transaction has a value exactly when it succeeds with it. -/
lemma Transacts.eq_ok_iff {d : Driver σ} {options : Options} {body : Work σ α ρ}
    {connection : Nat} {s s' : σ} {called : List Call} {result : Except Failure α}
    {notes : Option ρ} (h : Transacts d options body connection s called result notes s') (a : α) :
    result = .ok a ↔ Succeeds d options body connection s a := by
  constructor
  · rintro rfl
    cases h with
    | committed hconnect hbegin hissues hcommit =>
        exact ⟨_, _, _, _, _, _, _, _, hconnect, hbegin, hissues, hcommit⟩
  · rintro ⟨s₁, s₂, s₃, s₄, began, issued, notes', ended, hconnect, hbegin, hissues, hcommit⟩
    -- the driver and the body are functions of the state, so the run can only be this one
    cases h with
    | refused hrefused =>
        rw [hconnect] at hrefused
        cases hrefused
    | notBegun hconnect' hbegin' _ =>
        cases hconnect.symm.trans hconnect'
        exact absurd (hbegin.unique hbegin').1 (by simp)
    | bodyFailed hconnect' hbegin' hissues' _ =>
        cases hconnect.symm.trans hconnect'
        obtain ⟨-, rfl⟩ := hbegin.unique hbegin'
        exact absurd (hissues.unique hissues').1 (by simp)
    | committed hconnect' hbegin' hissues' _ =>
        cases hconnect.symm.trans hconnect'
        obtain ⟨-, rfl⟩ := hbegin.unique hbegin'
        exact (hissues.unique hissues').1.symm
    | notCommitted hconnect' hbegin' hissues' hcommit' _ =>
        cases hconnect.symm.trans hconnect'
        obtain ⟨-, rfl⟩ := hbegin.unique hbegin'
        obtain ⟨-, rfl⟩ := hissues.unique hissues'
        exact absurd (hcommit.unique hcommit').1 (by simp)

/-- A program gives no connection back. -/
lemma Work.Issues.release_not_mem {d : Driver σ} {connection : Nat} {program : Work σ α ρ}
    {s s' : σ} {issued : List Call} {result : Except Failure α} {notes : ρ}
    (h : program.Issues d connection s issued result notes s') (released : Nat) :
    .release released ∉ issued := by
  induction h with
  | finish _ _ _ => simp
  | issue _ _ ih => simp [ih]

lemma Undoes.eq_controlled {d : Driver σ} {connection : Nat} {failure failure' : Failure}
    {s s' : σ} {call : Call} (h : Undoes d connection failure s call failure' s') :
    ∃ succeeded, call = controlled connection rollbackStatement succeeded := by
  cases h with
  | undone _ => exact ⟨true, rfl⟩
  | failed _ => exact ⟨false, rfl⟩

/-- **A connection that was had is given back once, as the last thing of all.** -/
lemma Transacts.release_last {d : Driver σ} {options : Options} {body : Work σ α ρ}
    {connection : Nat} {s s' : σ} {called : List Call} {result : Except Failure α}
    {notes : Option ρ} (h : Transacts d options body connection s called result notes s') :
    called = [.checkout none] ∨
      ∃ sent, called = sent ++ [.release connection] ∧ ∀ released, .release released ∉ sent := by
  cases h with
  | refused _ => exact .inl rfl
  | notBegun _ _ hundoes =>
      obtain ⟨succeeded, rfl⟩ := hundoes.eq_controlled
      refine .inr ⟨_, rfl, ?_⟩
      simp [controlled]
  | bodyFailed _ _ hissues hundoes =>
      obtain ⟨succeeded, rfl⟩ := hundoes.eq_controlled
      refine .inr ⟨_, rfl, ?_⟩
      simp [controlled, hissues.release_not_mem]
  | committed _ _ hissues _ =>
      refine .inr ⟨_, rfl, ?_⟩
      simp [controlled, hissues.release_not_mem]
  | notCommitted _ _ hissues _ hundoes =>
      obtain ⟨succeeded, rfl⟩ := hundoes.eq_controlled
      refine .inr ⟨_, rfl, ?_⟩
      simp [controlled, hissues.release_not_mem]

/-! ## Every transaction -/

/-- **A transaction makes the calls of its protocol and no others.**  Whatever the driver replies and
whatever the program does with it, the calls are those of one of the five ways; the transaction has
a value exactly when checkout, opening, body and commit all succeed, and it is the value of the
body; and after the connection is given back nothing is sent. -/
theorem transact_transacts (d : Driver σ) (hd : d.Answers) (options : Options) (body : Work σ α ρ)
    (hbody : body.OnHandle) (logging : Bool) (w : World σ) :
    let r := transact d options (fun target w => body.run d logging target w) w
    ∃ result, r.outcome = .finished result ∧
      Transacts d options body w.nextConnection w.state (calls r.events) result r.notes
        r.world.state ∧
      (∀ a, result = .ok a ↔ Succeeds d options body w.nextConnection w.state a) ∧
      (calls r.events = [.checkout none] ∨
        ∃ sent, calls r.events = sent ++ [.release w.nextConnection] ∧
          ∀ released, .release released ∉ sent) := by
  intro r
  obtain ⟨result, hout, htransacts⟩ := transacts_of_answers hd options hbody logging (r := r) rfl
  exact ⟨result, hout, htransacts, htransacts.eq_ok_iff, htransacts.release_last⟩

end Relations

/-- A scripted database answers whatever it is asked. -/
lemma Script.answers_driver : Script.driver.Answers where
  connect s := by
    cases hrefusal : s.refusal with
    | none => exact ⟨.ok (), s, by simp [driver, hrefusal]⟩
    | some failure => exact ⟨.error failure, s, by simp [driver, hrefusal]⟩
  query s _ call := ⟨(s.answer call.text).1, s.latency, (s.answer call.text).2, rfl⟩

/-- A statement that fails and is caught, and a commit and a rollback that fail. -/
theorem transact_transacts_uncommitted :
    let insert : Work Script Bool Unit :=
      .issue .handle .work ⟨"INSERT INTO t VALUES (1)", []⟩ fun _ => .finish (.ok true) ()
    let w : World Script :=
      ⟨{ rules := [⟨"INSERT", 0, .adhoc⟩, ⟨"COMMIT", 0, .adhoc⟩, ⟨"ROLLBACK", 0, .adhoc⟩] }, 7⟩
    let r := transact Script.driver { readOnly := true }
      (fun target w => insert.run Script.driver true target w) w
    Script.driver.Answers ∧ insert.OnHandle ∧
    ∃ result, r.outcome = .finished result ∧
      Transacts Script.driver { readOnly := true } insert 7 w.state (calls r.events) result r.notes
        r.world.state ∧
      (∀ a, result = .ok a ↔ Succeeds Script.driver { readOnly := true } insert 7 w.state a) ∧
      (calls r.events = [.checkout none] ∨
        ∃ sent, calls r.events = sent ++ [.release 7] ∧ ∀ released, .release released ∉ sent) := by
  intro insert w r
  have hinsert : insert.OnHandle := .issue _ _ _ fun _ => .finish _ _
  exact ⟨Script.answers_driver, hinsert,
    transact_transacts Script.driver Script.answers_driver { readOnly := true } insert hinsert true w⟩

end BoundSql.Session
