import BoundSql.Failure.Node
import BoundSql.Proofs.Session.Protocol

/-!
# Failures of a transaction

A transaction may fail where it is opened, in its body, or where it should be made to last, and then
it is undone.  Undoing may fail as well.  The failure that comes out of it still has the first one
in it, whatever that was.

* `Failure.Reports` — what is to be seen in a failure with which undoing is recorded.
* `reports_rollbackFailed` — it is to be seen in the failure that is returned.
* `Undone` — the three ways in which a transaction comes to be undone, and the failure in each.
* **`outcome_transact_of_undone`** — the transaction returns that failure, or one that reports it.

Failures are shared, and the one that is put in front is made for this purpose.  So the nodes that
are there, and whoever holds them, do not matter.
-/

namespace BoundSql

namespace Failure

/-! ## Chains -/

/-- **A failure that reports two others**: undoing failed with `rollback`, and `failure` had made it
necessary. -/
structure Reports (reported rollback failure : Failure) : Prop where
  links : reported.links = .rollbackFailed rollback :: failure.links
  /-- Behind the newest link stands the whole failure. -/
  suffixes : reported.suffixes = reported :: failure.suffixes
  category : reported.category = .rollbackFailed
  rollbackFailure? : reported.rollbackFailure? = some rollback
  root : reported.root = failure.root
  display : reported.display =
    "rollback failed (" ++ rollback.display ++ "): " ++ failure.display

/-- **Recording that undoing failed hides nothing.** -/
theorem reports_rollbackFailed (failure rollback : Failure) :
    (failure.rollbackFailed rollback).Reports rollback failure := by
  obtain ⟨newest, older⟩ := failure
  constructor
  case links => rfl
  case suffixes => rfl
  case category => rfl
  case rollbackFailure? => rfl
  case root => simp [root, Failure.rollbackFailed]
  case display =>
    have hlink : (Link.rollbackFailed rollback).display =
        "rollback failed (" ++ rollback.display ++ ")" := rfl
    have hmark : ")" ++ ": " = "): " := by decide
    rw [Failure.rollbackFailed, links_chain, display, hlink, displayOlder, display, ← hmark]
    simp only [String.append_assoc]

end Failure

namespace Session

open Transaction

variable {σ α ρ : Type}

/-! ## Transactions that are undone -/

/-- **A transaction comes to be undone**: it cannot be opened, its body fails, or it cannot be made
to last.  The failure of this step, and the state of the database after it. -/
inductive Undone (d : Driver σ) (options : Options) (body : Target → World σ → Ran σ α ρ)
    (w : World σ) : Failure → σ → Prop where
  | notBegun {failure : Failure} {s₁ s₂ : σ} :
      d.connect w.state = (.finished (.ok ()), s₁) →
      d.Replies w.nextConnection (controlCall options.beginStatement) s₁ (.error failure) s₂ →
      Undone d options body w failure s₂
  | bodyFailed {failure : Failure} {began : Response} {s₁ s₂ : σ} (b : Ran σ α ρ) :
      d.connect w.state = (.finished (.ok ()), s₁) →
      d.Replies w.nextConnection (controlCall options.beginStatement) s₁ (.ok began) s₂ →
      body (.connection w.nextConnection) ⟨s₂, w.nextConnection + 1⟩ = b →
      b.outcome = .finished (.error failure) →
      Undone d options body w failure b.world.state
  | notCommitted {failure : Failure} {began : Response} {a : α} {s₁ s₂ s₃ : σ}
      (b : Ran σ α ρ) :
      d.connect w.state = (.finished (.ok ()), s₁) →
      d.Replies w.nextConnection (controlCall options.beginStatement) s₁ (.ok began) s₂ →
      body (.connection w.nextConnection) ⟨s₂, w.nextConnection + 1⟩ = b →
      b.outcome = .finished (.ok a) →
      d.Replies w.nextConnection (controlCall commitStatement) b.world.state (.error failure) s₃ →
      Undone d options body w failure s₃

section Undoing

variable {d : Driver σ} {options : Options} {body : Target → World σ → Ran σ α ρ} {w : World σ}
  {failure : Failure} {s : σ}

/-- **What a transaction returns that comes to be undone** is what undoing it returns. -/
lemma Undone.exists_undo (h : Undone d options body w failure s) :
    ∃ (notes : Option ρ) (next : Nat), (transact d options body w).outcome =
      (undo (α := α) d w.nextConnection failure notes ⟨s, next⟩).outcome := by
  cases h with
  | notBegun hconnect hbegin =>
      obtain ⟨events, hcontrol, -⟩ := control_of_replies (w := ⟨_, w.nextConnection + 1⟩) hbegin
      refine ⟨none, w.nextConnection + 1, ?_⟩
      simp only [transact, hconnect, protocol, hcontrol, Except.map, Ran.outcome_after]
  | bodyFailed b hconnect hbegin hbody houtcome =>
      obtain ⟨events, hcontrol, -⟩ := control_of_replies (w := ⟨_, w.nextConnection + 1⟩) hbegin
      refine ⟨b.notes, b.world.nextConnection, ?_⟩
      simp only [transact, hconnect, protocol, hcontrol, Except.map, hbody, conclude, houtcome,
        Ran.outcome_after]
  | notCommitted b hconnect hbegin hbody houtcome hcommit =>
      obtain ⟨events, hcontrol, -⟩ := control_of_replies (w := ⟨_, w.nextConnection + 1⟩) hbegin
      obtain ⟨events', hcontrol', -⟩ := control_of_replies hcommit
      refine ⟨b.notes, b.world.nextConnection, ?_⟩
      simp only [transact, hconnect, protocol, hcontrol, hcontrol', Except.map, hbody, conclude,
        houtcome, Ran.outcome_after]

/-- What undoing returns, by the answer of the database. -/
lemma outcome_undo_of_replies {connection : Nat} {notes : Option ρ}
    {answer : Except Failure Response} {w : World σ} {s' : σ}
    (h : d.Replies connection (controlCall rollbackStatement) w.state answer s') :
    (undo (α := α) d connection failure notes w).outcome =
      match answer with
      | .ok _ => .finished (.error failure)
      | .error rollback => .finished (.error (failure.rollbackFailed rollback)) := by
  obtain ⟨events, hcontrol, -⟩ := control_of_replies h
  cases answer with
  | ok response => simp only [undo, hcontrol, Except.map]
  | error rollback => simp only [undo, hcontrol, Except.map]

/-- **No failure of a transaction hides another.**  Whatever the failure for which a transaction is
undone, it is the failure of the transaction if undoing succeeds.  If undoing fails, the failure of
the transaction reports both; and wherever the first failure stands and whoever else holds it, the
report can be put in front of it, and leaves every failure there is as it was. -/
theorem outcome_transact_of_undone (h : Undone d options body w failure s) :
    (∀ response s', d.Replies w.nextConnection (controlCall rollbackStatement) s (.ok response) s' →
      (transact d options body w).outcome = .finished (.error failure)) ∧
    ∀ rollback s', d.Replies w.nextConnection (controlCall rollbackStatement) s (.error rollback) s' →
      ∃ reported, (transact d options body w).outcome = .finished (.error reported) ∧
        reported.Reports rollback failure ∧
        failure.context (.ofLink (.rollbackFailed rollback)) false = .ok reported ∧
        ∀ (nodes : Failure.Nodes) (address : Nat), nodes.Represents address failure →
          ∃ a nodes', nodes.rollbackFailed address rollback = .ok (a, nodes') ∧
            nodes'.Represents a reported ∧
            ∀ b f, nodes.Represents b f → nodes'.Represents b f := by
  obtain ⟨notes, next, hundo⟩ := h.exists_undo
  constructor
  · intro response s' hreply
    rw [hundo, outcome_undo_of_replies hreply]
  · intro rollback s' hreply
    refine ⟨failure.rollbackFailed rollback, ?_, failure.reports_rollbackFailed rollback, rfl,
      fun nodes address haddress => Failure.Nodes.exists_rollbackFailed haddress rollback⟩
    rw [hundo, outcome_undo_of_replies hreply]

end Undoing

/-- The opening succeeds, the body fails with a failure that already reports that undoing another
transaction failed, and undoing this one fails as well. -/
theorem outcome_transact_of_undone_twice :
    let failure := (Failure.adhoc "no such table").rollbackFailed (.adhoc "inner")
    let answer : Nat → Except Failure Response
      | 0 => .ok .empty
      | 1 => .error failure
      | _ => .error (.adhoc "outer")
    let d : Driver Nat :=
      ⟨fun n => (.finished (.ok ()), n), fun n _ _ => (.finished (answer n), 0, n + 1)⟩
    let insert : Work Nat Unit Unit := .issue .handle .work ⟨"INSERT INTO t VALUES (1)", []⟩
      fun answer => .finish (answer.map fun _ => ()) ()
    let body := fun target w => insert.run d true target w
    Undone d {} body ⟨0, 1⟩ failure 2 ∧
      d.Replies 1 (controlCall rollbackStatement) 2 (.error (.adhoc "outer")) 3 ∧
      ∃ reported, (transact d {} body ⟨0, 1⟩).outcome = .finished (.error reported) ∧
        reported.Reports (.adhoc "outer") failure := by
  intro failure answer d insert body
  have hundone : Undone d {} body ⟨0, 1⟩ failure 2 :=
    .bodyFailed (body (.connection 1) ⟨1, 2⟩) rfl ⟨0, rfl⟩ rfl rfl
  have hrollback : d.Replies 1 (controlCall rollbackStatement) 2 (.error (.adhoc "outer")) 3 :=
    ⟨0, rfl⟩
  obtain ⟨reported, houtcome, hreports, -⟩ :=
    (outcome_transact_of_undone hundone).2 _ _ hrollback
  exact ⟨hundone, hrollback, reported, houtcome, hreports⟩

end Session

end BoundSql
