import BoundSql.Proofs.Session.Protocol

/-!
# Programs with transactions in them

A program may open a transaction, whose body is a program that may open another one.  Any checkout
and any statement may fail or remain unanswered, and any program may be given up.  Which calls are
made, on which connections, is said here from the program alone, for all answers that it may get.

* `Closes` — what is sent for a transaction once its body has come to an end or was abandoned.
* **`Via.Reaches`** — where a statement goes, told from the connections of the transactions around.
* **`Work.Makes`** — the calls of a program, the outcome they lead to, and the connections taken.
* `reaches_target` — the executors of a program are those connections, and the pool outside of them.
* `transact_cases` — what a transaction may do, for any body.
* **`runWithin_makes`** — a run makes the calls of its program, whatever the driver does.

Connections are numbered in the order in which they are checked out.
-/

namespace BoundSql.Session

open Transaction

section Nesting

variable {σ α ρ : Type}

/-! ## The calls of a program -/

/-- **How a transaction is closed**: what is sent on its connection after its body has come to an
outcome, and the outcome of the whole. -/
inductive Closes (connection : Nat) : Outcome α → List Call → Outcome α → Prop where
  /-- For a transaction that was abandoned nothing is sent any more. -/
  | abandoned : Closes connection .abandoned [] .abandoned
  | committed {a : α} :
      Closes connection (.finished (.ok a)) [controlled connection commitStatement true]
        (.finished (.ok a))
  /-- It is abandoned while the commit is not answered. -/
  | commitPending {a : α} :
      Closes connection (.finished (.ok a)) [controlled connection commitStatement false] .abandoned
  | notCommitted {a : α} {failure : Failure} {undo : List Call} {outcome : Outcome α} :
      Closes connection (.finished (.error failure)) undo outcome →
      Closes connection (.finished (.ok a))
        (controlled connection commitStatement false :: undo) outcome
  | undone {failure : Failure} :
      Closes connection (.finished (.error failure)) [controlled connection rollbackStatement true]
        (.finished (.error failure))
  | notUndone {failure rollback : Failure} :
      Closes connection (.finished (.error failure)) [controlled connection rollbackStatement false]
        (.finished (.error (failure.rollbackFailed rollback)))
  /-- It is abandoned while the rollback is not answered. -/
  | undoPending {failure : Failure} :
      Closes connection (.finished (.error failure)) [controlled connection rollbackStatement false]
        .abandoned

/-- An outcome without a value. -/
inductive Outcome.Fails : Outcome α → Prop where
  | failed (failure : Failure) : Fails (.finished (.error failure))
  | abandoned : Fails .abandoned

/-- **Where a statement goes**, given the connections of the transactions around it, from the inside
out: on the pool it goes to the pool, within any of them, and through a handle to the connection of
the transaction that the handle belongs to. -/
inductive Via.Reaches : List Nat → Via → Target → Prop where
  | pool {around : List Nat} : Reaches around .pool .pool
  /-- The own handle of a transaction. -/
  | own {connection : Nat} {around : List Nat} :
      Reaches (connection :: around) .handle (.connection connection)
  /-- Outside of all transactions a program has the pool. -/
  | alone : Reaches [] .handle .pool
  /-- The handle of a transaction further out. -/
  | enclosing {around : List Nat} {level connection : Nat} :
      around[level + 1]? = some connection →
      Reaches around (.outer level) (.connection connection)
  /-- There is no transaction so far out. -/
  | outermost {around : List Nat} {level : Nat} :
      around.length ≤ level + 1 → Reaches around (.outer level) .pool

/-- **The calls of a program**, given the connections of the transactions around it, and the number
of the first connection that is free; the outcome they lead to, and the first one that is free
afterwards. -/
inductive Work.Makes : List Nat → Work σ α ρ → Nat → List Call → Outcome α → Option ρ → Nat →
    Prop where
  | finish {around : List Nat} {result : Except Failure α} {notes : ρ} {n : Nat} :
      Makes around (.finish result notes) n [] (.finished result) (some notes) n
  /-- It is abandoned while it does something else. -/
  | hang {around : List Nat} {notes : ρ} {n : Nat} :
      Makes around (.hang notes) n [] .abandoned (some notes) n
  /-- A statement goes where its executor is, and the program goes on from the answer. -/
  | answered {around : List Nat} {via : Via} {target : Target} {purpose : Purpose}
      {call : CompiledQuery} {next : Except Failure Response → Work σ α ρ}
      {answer : Except Failure Response} {n m : Nat} {rest : List Call} {outcome : Outcome α}
      {notes : Option ρ} :
      via.Reaches around target →
      Makes around (next answer) n rest outcome notes m →
      Makes around (.issue via purpose call next) n
        (.statement target call answer.isOk :: rest) outcome notes m
  /-- It is abandoned while a statement is not answered, which is the last of it. -/
  | unanswered {around : List Nat} {via : Via} {target : Target} {purpose : Purpose}
      {call : CompiledQuery} {next : Except Failure Response → Work σ α ρ} {n : Nat} :
      via.Reaches around target →
      Makes around (.issue via purpose call next) n
        [.statement target call false] .abandoned none n
  /-- A transaction gets no connection. -/
  | refused {around : List Nat} {options : Options} {body : Work σ α ρ}
      {next : Outcome α → Option ρ → Work σ α ρ} {failed : Outcome α} {n m : Nat}
      {rest : List Call} {outcome : Outcome α} {notes : Option ρ} :
      failed.Fails →
      Makes around (next failed none) n rest outcome notes m →
      Makes around (.transaction options body next) n (.checkout none :: rest) outcome notes m
  /-- It gets one and is not opened; its body is not started. -/
  | notOpened {around : List Nat} {options : Options} {body : Work σ α ρ}
      {next : Outcome α → Option ρ → Work σ α ρ} {failed closed : Outcome α} {n m : Nat}
      {closing rest : List Call} {outcome : Outcome α} {notes : Option ρ} :
      failed.Fails →
      Closes n failed closing closed →
      Makes around (next closed none) (n + 1) rest outcome notes m →
      Makes around (.transaction options body next) n
        ([.checkout (some n), controlled n options.beginStatement false] ++ closing ++
          [.release n] ++ rest)
        outcome notes m
  /-- It is opened, and the handle of its body stands for its connection. -/
  | opened {around : List Nat} {options : Options} {body : Work σ α ρ}
      {next : Outcome α → Option ρ → Work σ α ρ} {ended closed : Outcome α} {left : Option ρ}
      {n k m : Nat} {inner closing rest : List Call} {outcome : Outcome α} {notes : Option ρ} :
      Makes (n :: around) body (n + 1) inner ended left k →
      Closes n ended closing closed →
      Makes around (next closed left) k rest outcome notes m →
      Makes around (.transaction options body next) n
        ([.checkout (some n), controlled n options.beginStatement true] ++ inner ++ closing ++
          [.release n] ++ rest)
        outcome notes m
  | outside {around : List Nat} {change : σ → σ} {next : Work σ α ρ} {n m : Nat}
      {rest : List Call} {outcome : Outcome α} {notes : Option ρ} :
      Makes around next n rest outcome notes m →
      Makes around (.outside change next) n rest outcome notes m

/-! ## What a transaction may do -/

lemma control_cases (d : Driver σ) (connection : Nat) (statement : String) (w : World σ) :
    ∃ outcome w' events, control d connection statement w = (outcome, w', events) ∧
      w'.nextConnection = w.nextConnection ∧
      ((outcome = .finished (.ok ()) ∧ calls events = [controlled connection statement true]) ∨
        (∃ failure, outcome = .finished (.error failure) ∧
          calls events = [controlled connection statement false]) ∨
        (outcome = .abandoned ∧ calls events = [controlled connection statement false])) := by
  rcases hquery : d.query w.state (.connection connection) ⟨statement, []⟩ with
    ⟨answer, nanos, s'⟩
  simp only [control, send, hquery]
  cases answer with
  | finished result =>
      cases result with
      | ok response => exact ⟨_, _, _, rfl, rfl, .inl ⟨rfl, rfl⟩⟩
      | error failure => exact ⟨_, _, _, rfl, rfl, .inr (.inl ⟨failure, rfl, rfl⟩)⟩
  | abandoned => exact ⟨_, _, _, rfl, rfl, .inr (.inr ⟨rfl, rfl⟩)⟩

lemma undo_closes (d : Driver σ) (connection : Nat) (failure : Failure) (notes : Option ρ)
    (w : World σ) {r : Ran σ α ρ} (hr : undo d connection failure notes w = r) :
    Closes connection (.finished (.error failure)) (calls r.events) r.outcome ∧
      r.notes = notes ∧ r.world.nextConnection = w.nextConnection := by
  obtain ⟨outcome, w', events, hcontrol, hnext, houtcome⟩ :=
    control_cases d connection rollbackStatement w
  simp only [undo, hcontrol] at hr
  rcases houtcome with ⟨rfl, hcalls⟩ | ⟨rollback, rfl, hcalls⟩ | ⟨rfl, hcalls⟩
  · subst hr
    rw [hcalls]
    exact ⟨.undone, rfl, hnext⟩
  · subst hr
    rw [calls_append, hcalls, calls_rollbackFailed]
    exact ⟨.notUndone, rfl, hnext⟩
  · subst hr
    rw [hcalls]
    exact ⟨.undoPending, rfl, hnext⟩

/-- **A transaction is closed by what its body came to.** -/
lemma conclude_closes (d : Driver σ) (connection : Nat) (b : Ran σ α ρ) {r : Ran σ α ρ}
    (hr : conclude d connection b = r) :
    ∃ closing, calls r.events = calls b.events ++ closing ∧
      Closes connection b.outcome closing r.outcome ∧ r.notes = b.notes ∧
      r.world.nextConnection = b.world.nextConnection := by
  obtain ⟨ended, notes, w, sent⟩ := b
  cases ended with
  | abandoned =>
      simp only [conclude] at hr
      subst hr
      exact ⟨[], (List.append_nil _).symm, .abandoned, rfl, rfl⟩
  | finished result =>
      cases result with
      | error failure =>
          simp only [conclude] at hr
          subst hr
          obtain ⟨hcloses, hnotes, hnext⟩ := undo_closes (α := α) d connection failure notes w rfl
          exact ⟨_, by rw [Ran.events_after, calls_append], hcloses, hnotes, hnext⟩
      | ok a =>
          obtain ⟨outcome, w', events, hcontrol, hnext, houtcome⟩ :=
            control_cases d connection commitStatement w
          simp only [conclude, hcontrol] at hr
          rcases houtcome with ⟨rfl, hcalls⟩ | ⟨failure, rfl, hcalls⟩ | ⟨rfl, hcalls⟩
          · subst hr
            exact ⟨_, by rw [calls_append, hcalls], .committed, rfl, hnext⟩
          · subst hr
            obtain ⟨hcloses, hnotes, hnext'⟩ :=
              undo_closes (α := α) d connection failure notes w' rfl
            refine ⟨_, ?_, .notCommitted hcloses, hnotes, hnext'.trans hnext⟩
            rw [Ran.events_after, calls_append, calls_append, hcalls, List.append_assoc]
            rfl
          · subst hr
            exact ⟨_, by rw [calls_append, hcalls], .commitPending, rfl, hnext⟩

/-- **What a transaction may do**, for any body: it gets no connection; or it gets one and is not
opened; or its body runs, and it is closed. -/
lemma transact_cases (d : Driver σ) (options : Options) (body : Target → World σ → Ran σ α ρ)
    (w : World σ) {r : Ran σ α ρ} (hr : transact d options body w = r) :
    (r.outcome.Fails ∧ r.notes = none ∧ calls r.events = [.checkout none] ∧
      r.world.nextConnection = w.nextConnection) ∨
    (∃ failed closing, failed.Fails ∧ Closes w.nextConnection failed closing r.outcome ∧
      r.notes = none ∧ r.world.nextConnection = w.nextConnection + 1 ∧
      calls r.events = [.checkout (some w.nextConnection),
        controlled w.nextConnection options.beginStatement false] ++ closing ++
          [.release w.nextConnection]) ∨
    (∃ w' b closing, body (.connection w.nextConnection) w' = b ∧
      w'.nextConnection = w.nextConnection + 1 ∧
      Closes w.nextConnection b.outcome closing r.outcome ∧
      r.notes = b.notes ∧ r.world.nextConnection = b.world.nextConnection ∧
      calls r.events = [.checkout (some w.nextConnection),
        controlled w.nextConnection options.beginStatement true] ++ calls b.events ++ closing ++
          [.release w.nextConnection]) := by
  rcases hconnect : d.connect w.state with ⟨checkedOut, s'⟩
  cases checkedOut with
  | abandoned =>
      simp only [transact, hconnect] at hr
      subst hr
      exact .inl ⟨.abandoned, rfl, rfl, rfl⟩
  | finished result =>
      cases result with
      | error failure =>
          simp only [transact, hconnect] at hr
          subst hr
          exact .inl ⟨.failed failure, rfl, rfl, rfl⟩
      | ok _ =>
          obtain ⟨outcome, w', events, hcontrol, hnext, houtcome⟩ :=
            control_cases d w.nextConnection options.beginStatement ⟨s', w.nextConnection + 1⟩
          simp only [transact, hconnect, protocol, hcontrol] at hr
          rcases houtcome with ⟨rfl, hcalls⟩ | ⟨failure, rfl, hcalls⟩ | ⟨rfl, hcalls⟩
          · subst hr
            obtain ⟨closing, hclosing, hcloses, hnotes, hnext'⟩ :=
              conclude_closes d w.nextConnection (body (.connection w.nextConnection) w') rfl
            refine .inr (.inr ⟨w', _, closing, rfl, hnext, hcloses, hnotes, hnext', ?_⟩)
            rw [calls_checkout, calls_append, Ran.events_after, calls_append, hcalls, hclosing]
            simp
          · subst hr
            obtain ⟨hcloses, hnotes, hnext'⟩ :=
              undo_closes (α := α) d w.nextConnection failure (none : Option ρ) w' rfl
            refine .inr (.inl ⟨_, _, .failed failure, hcloses, hnotes, hnext'.trans hnext, ?_⟩)
            rw [calls_checkout, calls_append, Ran.events_after, calls_append, hcalls]
            simp
          · subst hr
            refine .inr (.inl ⟨_, _, .abandoned, .abandoned, rfl, hnext, ?_⟩)
            rw [calls_checkout, calls_append, hcalls]
            simp

/-! ## What a program does -/

/-- **The executors of a program**: the connections of the transactions around it, and the pool
outside of them. -/
def executorsWithin (around : List Nat) : List Target := around.map .connection ++ [.pool]

/-- **A statement is sent where it is to go.** -/
lemma Via.reaches_target (via : Via) (around : List Nat) :
    via.Reaches around (via.target (executorsWithin around)) := by
  cases via with
  | pool => exact .pool
  | handle =>
      cases around with
      | nil => exact .alone
      | cons connection around => exact .own
  | outer level =>
      rw [Via.target, List.getD_eq_getElem?_getD, executorsWithin]
      rcases Nat.lt_or_ge (level + 1) around.length with hinside | houtside
      · have hconnection : around[level + 1]? = some around[level + 1] :=
          List.getElem?_eq_getElem hinside
        rw [List.getElem?_append_left (by simpa using hinside), List.getElem?_map, hconnection]
        exact .enclosing hconnection
      · -- either it is the pool that the list ends with, or there is none so far out
        rw [List.getElem?_append_right (by simpa using houtside), List.length_map]
        cases level + 1 - around.length with
        | zero => exact .outermost houtside
        | succ _ => exact .outermost houtside

/-- **A run makes the calls of its program**, whatever the driver does. -/
theorem runWithin_makes (d : Driver σ) (logging : Bool) (program : Work σ α ρ)
    (around : List Nat) (w : World σ) {r : Ran σ α ρ}
    (hr : program.runWithin d logging (executorsWithin around) w = r) :
    program.Makes around w.nextConnection (calls r.events) r.outcome r.notes
      r.world.nextConnection := by
  induction program generalizing around w r with
  | finish result notes =>
      subst hr
      exact .finish
  | hang notes =>
      subst hr
      exact .hang
  | issue via purpose call next ih =>
      have hreaches := via.reaches_target around
      rcases hquery : d.query w.state (via.target (executorsWithin around)) call with
        ⟨answer, nanos, s'⟩
      simp only [Work.runWithin, send, hquery] at hr
      cases answer with
      | abandoned =>
          subst hr
          exact .unanswered hreaches
      | finished result =>
          cases result with
          | ok response =>
              subst hr
              rw [Ran.events_after, List.cons_append, calls_sent, calls_append, calls_logEvents]
              exact .answered hreaches (ih (.ok response) around { w with state := s' } rfl)
          | error failure =>
              subst hr
              exact .answered hreaches (ih (.error failure) around { w with state := s' } rfl)
  | transaction options body next ihbody ihnext =>
      simp only [Work.runWithin] at hr
      generalize ht : transact d options
        (fun target w => body.runWithin d logging (target :: executorsWithin around) w) w = t at hr
      generalize hrest :
        (next t.outcome t.notes).runWithin d logging (executorsWithin around) t.world = rest at hr
      subst hr
      have hnext := ihnext t.outcome t.notes around t.world hrest
      rw [Ran.events_after, calls_append]
      rcases transact_cases d options _ w ht with ⟨hfails, hnotes, hcalls, hnumber⟩ |
        ⟨failed, closing, hfails, hcloses, hnotes, hnumber, hcalls⟩ |
        ⟨w', b, closing, hb, hnumber', hcloses, hnotes, hnumber, hcalls⟩
      · rw [hnotes, hnumber] at hnext
        rw [hcalls]
        exact .refused hfails hnext
      · rw [hnotes, hnumber] at hnext
        rw [hcalls]
        exact .notOpened hfails hcloses hnext
      · have hinner := ihbody (w.nextConnection :: around) w' hb
        rw [hnumber'] at hinner
        rw [hnotes, hnumber] at hnext
        rw [hcalls]
        exact .opened hinner hcloses hnext
  | outside change next ih =>
      exact .outside (ih around { w with state := change w.state } hr)

end Nesting

end BoundSql.Session
