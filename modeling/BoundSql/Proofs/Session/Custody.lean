import BoundSql.Proofs.Session.Nesting
import Mathlib.Data.List.Forall2
import Mathlib.Data.List.Perm.Basic

/-!
# Connections that are given back

A connection is held from its checkout to its release.  Transactions hold theirs one inside the
other, as they are nested, and what is sent on a connection is sent while it is held.

* `Bracketed` — calls in which every connection that is had is given back, in nested order, and
  every statement on a connection is sent while it is held.
* **`Makes.bracketed`** — the calls of a program are like that.
* `checkouts_eq`, `releases_perm` — each connection is had once and given back once.
* **`Bracketed.between`** — a statement on a connection stands between its checkout and its release.
* `runEach` — programs that run one after the other.
* **`runEach_bracketed`** — all of this of any number of programs, whatever becomes of them.
-/

namespace BoundSql.Session

open Transaction

/-! ## Nested calls -/

/-- **Calls in which connections are nested**: those that are held from the outset, the number of
the first that is free, the calls, and the first that is free afterwards. -/
inductive Bracketed : List Nat → Nat → List Call → Nat → Prop where
  | nil {held : List Nat} {n : Nat} : Bracketed held n [] n
  /-- A statement, to the pool or on a connection that is held. -/
  | statement {held : List Nat} {n m : Nat} {target : Target} {call : CompiledQuery}
      {succeeded : Bool} {rest : List Call} :
      (∀ connection, target = .connection connection → connection ∈ held) →
      Bracketed held n rest m →
      Bracketed held n (.statement target call succeeded :: rest) m
  /-- No connection is had. -/
  | refused {held : List Nat} {n m : Nat} {rest : List Call} :
      Bracketed held n rest m →
      Bracketed held n (.checkout none :: rest) m
  /-- A connection is had, used, and given back. -/
  | pair {held : List Nat} {n k m : Nat} {inner rest : List Call} :
      Bracketed (n :: held) (n + 1) inner k →
      Bracketed held k rest m →
      Bracketed held n (.checkout (some n) :: (inner ++ .release n :: rest)) m

lemma Bracketed.append {held : List Nat} {n k m : Nat} {first second : List Call}
    (h₁ : Bracketed held n first k) (h₂ : Bracketed held k second m) :
    Bracketed held n (first ++ second) m := by
  induction h₁ with
  | nil => exact h₂
  | statement hheld _ ih => exact .statement hheld (ih h₂)
  | refused _ ih => exact .refused (ih h₂)
  | pair hinner _ _ ih =>
      rw [List.cons_append, List.append_assoc, List.cons_append]
      exact .pair hinner (ih h₂)

section Programs

variable {σ α ρ : Type}

/-- What goes to a connection goes to that of a transaction around. -/
lemma Via.Reaches.mem {around : List Nat} {via : Via} {connection : Nat}
    (h : via.Reaches around (.connection connection)) : connection ∈ around := by
  cases h with
  | own => exact List.mem_cons_self
  | enclosing hconnection => exact List.mem_of_getElem? hconnection

lemma Bracketed.controlled {held : List Nat} {connection n m : Nat} {rest : List Call}
    (hheld : connection ∈ held) (statement : String) (succeeded : Bool)
    (h : Bracketed held n rest m) :
    Bracketed held n (controlled connection statement succeeded :: rest) m := by
  refine .statement ?_ h
  rintro _ ⟨⟩
  exact hheld

lemma Closes.bracketed {held : List Nat} {connection n : Nat} {ended closed : Outcome α}
    {closing : List Call} (h : Closes connection ended closing closed)
    (hheld : connection ∈ held) : Bracketed held n closing n := by
  induction h with
  | abandoned => exact .nil
  | committed => exact .controlled hheld _ _ .nil
  | commitPending => exact .controlled hheld _ _ .nil
  | notCommitted _ ih => exact .controlled hheld _ _ ih
  | undone => exact .controlled hheld _ _ .nil
  | notUndone => exact .controlled hheld _ _ .nil
  | undoPending => exact .controlled hheld _ _ .nil

/-- **The calls of a program are nested.** -/
lemma Work.Makes.bracketed {program : Work σ α ρ} {around : List Nat} {n m : Nat}
    {called : List Call} {outcome : Outcome α} {notes : Option ρ}
    (h : program.Makes around n called outcome notes m) : Bracketed around n called m := by
  induction h with
  | finish => exact .nil
  | hang => exact .nil
  | answered hreaches _ ih =>
      refine .statement (fun connection h => ?_) ih
      subst h
      exact hreaches.mem
  | unanswered hreaches =>
      refine .statement (fun connection h => ?_) .nil
      subst h
      exact hreaches.mem
  | refused _ _ ih => exact .refused ih
  | @notOpened around options _ _ _ _ n _ _ _ _ _ _ hcloses _ ih =>
      have hheld : n ∈ n :: around := List.mem_cons_self
      have hinner := (hcloses.bracketed (n := n + 1) hheld).controlled hheld
        options.beginStatement false
      simpa using Bracketed.pair hinner ih
  | @opened around options _ _ _ _ _ n _ _ _ _ _ _ _ _ hcloses _ ihbody ih =>
      have hheld : n ∈ n :: around := List.mem_cons_self
      have hinner := (ihbody.append (hcloses.bracketed hheld)).controlled hheld
        options.beginStatement true
      simpa using Bracketed.pair hinner ih
  | outside _ ih => exact ih

end Programs

/-! ## Checkouts and releases -/

/-- The connections that are had, in order. -/
def checkouts (called : List Call) : List Nat :=
  called.filterMap fun
    | .checkout connection => connection
    | _ => none

/-- The connections that are given back, in order. -/
def releases (called : List Call) : List Nat :=
  called.filterMap fun
    | .release connection => some connection
    | _ => none

lemma checkouts_pair (n : Nat) (inner rest : List Call) :
    checkouts (.checkout (some n) :: (inner ++ .release n :: rest)) =
      n :: (checkouts inner ++ checkouts rest) := by
  simp [checkouts]

lemma releases_pair (n : Nat) (inner rest : List Call) :
    releases (.checkout (some n) :: (inner ++ .release n :: rest)) =
      releases inner ++ n :: releases rest := by
  simp [releases]

section Trace

variable {held : List Nat} {n m : Nat} {called : List Call}

lemma Bracketed.le (h : Bracketed held n called m) : n ≤ m := by
  induction h with
  | nil => exact Nat.le_refl _
  | statement _ _ ih => exact ih
  | refused _ ih => exact ih
  | pair _ _ ihinner ihrest => omega

/-- **Connections are had one after the other.** -/
lemma Bracketed.checkouts_eq (h : Bracketed held n called m) :
    checkouts called = List.range' n (m - n) := by
  induction h with
  | nil => simp [checkouts]
  | statement _ _ ih => exact ih
  | refused _ ih => exact ih
  | @pair _ n k m inner rest hinner hrest ihinner ihrest =>
      have hle := hinner.le
      have hle' := hrest.le
      have hcount : m - n = k - (n + 1) + (m - k) + 1 := by omega
      have hk : n + 1 + (k - (n + 1)) = k := by omega
      rw [checkouts_pair, ihinner, ihrest, hcount, List.range'_succ, ← List.range'_append_1, hk]

/-- **What was had is given back**, each connection once. -/
lemma Bracketed.releases_perm (h : Bracketed held n called m) :
    (releases called).Perm (checkouts called) := by
  induction h with
  | nil => exact .nil
  | statement _ _ ih => exact ih
  | refused _ ih => exact ih
  | @pair _ n k m inner rest _ _ ihinner ihrest =>
      rw [checkouts_pair, releases_pair]
      exact List.perm_middle.trans ((ihinner.append ihrest).cons n)

lemma Bracketed.nodup_checkouts (h : Bracketed held n called m) : (checkouts called).Nodup := by
  rw [h.checkouts_eq]
  exact List.nodup_range'

/-- **A statement on a connection is sent while it is held**: from the outset, or from its checkout
to its release. -/
lemma Bracketed.between (h : Bracketed held n called m) {before after : List Call}
    {connection : Nat} {call : CompiledQuery} {succeeded : Bool}
    (hcalled : called = before ++ .statement (.connection connection) call succeeded :: after) :
    connection ∈ held ∨
      (.checkout (some connection) ∈ before ∧ .release connection ∈ after) := by
  induction h generalizing before after with
  | nil => simp at hcalled
  | statement hheld _ ih =>
      cases before with
      | nil =>
          obtain ⟨h, -⟩ := List.cons_eq_cons.mp hcalled
          cases h
          exact .inl (hheld connection rfl)
      | cons first before =>
          obtain ⟨-, hrest⟩ := List.cons_eq_cons.mp hcalled
          exact (ih hrest).imp_right fun h => ⟨List.mem_cons_of_mem _ h.1, h.2⟩
  | refused _ ih =>
      cases before with
      | nil => cases hcalled
      | cons first before =>
          obtain ⟨-, hrest⟩ := List.cons_eq_cons.mp hcalled
          exact (ih hrest).imp_right fun h => ⟨List.mem_cons_of_mem _ h.1, h.2⟩
  | @pair held n k m inner rest _ _ ihinner ihrest =>
      cases before with
      | nil => cases hcalled
      | cons first before =>
          obtain ⟨rfl, hsplit⟩ := List.cons_eq_cons.mp hcalled
          -- the statement is one of those inside the pair, or one behind it
          rcases List.append_eq_append_iff.mp hsplit with ⟨between, hbefore, hafter⟩ |
            ⟨between, hinner, hafter⟩
          · cases between with
            | nil => cases hafter
            | cons released between =>
                obtain ⟨-, hrest⟩ := List.cons_eq_cons.mp hafter
                refine (ihrest hrest).imp_right fun h => ⟨?_, h.2⟩
                rw [hbefore]
                simp [h.1]
          · cases between with
            | nil => cases hafter
            | cons sent between =>
                obtain ⟨rfl, rfl⟩ := List.cons_eq_cons.mp hafter
                rcases ihinner hinner with hheld | ⟨hcheckout, hrelease⟩
                · rcases List.mem_cons.mp hheld with rfl | hheld
                  · exact .inr ⟨List.mem_cons_self, by simp⟩
                  · exact .inl hheld
                · exact .inr ⟨List.mem_cons_of_mem _ hcheckout, by simp [hrelease]⟩

/-- **Nothing is sent on a connection that was given back.** -/
lemma Bracketed.not_mem_of_release (h : Bracketed [] n called m) {before after : List Call}
    {connection : Nat} (hcalled : called = before ++ .release connection :: after)
    (call : CompiledQuery) (succeeded : Bool) :
    .statement (.connection connection) call succeeded ∉ after := by
  intro hmem
  obtain ⟨between, behind, rfl⟩ := List.append_of_mem hmem
  -- the connection would have to be given back a second time
  have hsecond : .release connection ∈ behind := by
    have hsplit : called = (before ++ .release connection :: between) ++
        .statement (.connection connection) call succeeded :: behind := by
      rw [hcalled, List.append_assoc, List.cons_append]
    rcases h.between hsplit with hheld | ⟨-, hrelease⟩
    · cases hheld
    · exact hrelease
  have hnodup : (releases called).Nodup := h.releases_perm.nodup_iff.mpr h.nodup_checkouts
  have hreleases : releases called = releases before ++
      connection :: (releases between ++ releases behind) := by
    rw [hcalled]
    simp [releases]
  rw [hreleases] at hnodup
  have hfresh := (List.nodup_cons.mp (List.nodup_append.mp hnodup).2.1).1
  exact hfresh (List.mem_append_right _ (List.mem_filterMap.mpr ⟨_, hsecond, rfl⟩))

end Trace

/-! ## Programs one after the other -/

section Sequence

variable {σ α ρ : Type}

/-- **Programs that run one after the other**, each on the pool, whatever became of those before. -/
def runEach (d : Driver σ) (logging : Bool) : List (Work σ α ρ) → World σ → List (Ran σ α ρ)
  | [], _ => []
  | program :: rest, w =>
    let r := program.run d logging .pool w
    r :: runEach d logging rest r.world

lemma exists_bracketed_runEach (d : Driver σ) (logging : Bool) (programs : List (Work σ α ρ))
    (w : World σ) : ∃ last, Bracketed [] w.nextConnection
      ((runEach d logging programs w).flatMap fun r => calls r.events) last := by
  induction programs generalizing w with
  | nil => exact ⟨_, .nil⟩
  | cons program rest ih =>
      obtain ⟨last, hrest⟩ := ih (program.run d logging .pool w).world
      have hfirst := (runWithin_makes d logging program [] w rfl).bracketed
      exact ⟨last, hfirst.append hrest⟩

/-- **Every connection is given back exactly once, and statements stay on theirs.**  Whatever the
driver does and wherever a program is given up, each program makes the calls of its transactions,
nested as they are, with every statement on the connection of its handle or on the pool, and holds
no connection when it has come to an end or was abandoned.  No connection is had or given back
twice; what is sent on one is sent between the two, and nothing after that. -/
theorem runEach_bracketed (d : Driver σ) (logging : Bool) (programs : List (Work σ α ρ))
    (w : World σ) :
    let rans := runEach d logging programs w
    let trace := rans.flatMap fun r => calls r.events
    List.Forall₂ (fun program r => ∃ first,
        program.Makes [] first (calls r.events) r.outcome r.notes r.world.nextConnection ∧
        Bracketed [] first (calls r.events) r.world.nextConnection) programs rans ∧
      (checkouts trace).Nodup ∧ (releases trace).Perm (checkouts trace) ∧
      (∀ before after connection call succeeded,
        trace = before ++ .statement (.connection connection) call succeeded :: after →
          .checkout (some connection) ∈ before ∧ .release connection ∈ after) ∧
      ∀ before after connection, trace = before ++ .release connection :: after →
        ∀ call succeeded, .statement (.connection connection) call succeeded ∉ after := by
  intro rans trace
  obtain ⟨last, htrace⟩ := exists_bracketed_runEach d logging programs w
  refine ⟨?_, htrace.nodup_checkouts, htrace.releases_perm, ?_, ?_⟩
  · clear htrace
    induction programs generalizing w with
    | nil => exact .nil
    | cons program rest ih =>
        have hmakes := runWithin_makes d logging program [] w rfl
        exact .cons ⟨_, hmakes, hmakes.bracketed⟩ (ih _)
  · intro before after connection call succeeded hsplit
    rcases htrace.between hsplit with hheld | hheld
    · cases hheld
    · exact hheld
  · intro before after connection hsplit
    exact htrace.not_mem_of_release hsplit

end Sequence

/-- A transaction in another one reaches the outer one and the pool, and is given up; the outer one
goes on. -/
example :
    let inner : Work Script Unit Unit :=
      .issue (.outer 0) .work ⟨"UPDATE a", []⟩ fun _ =>
        .issue .pool .work ⟨"UPDATE b", []⟩ fun _ => .hang ()
    let outer : Work Script Unit Unit :=
      .transaction {} inner fun _ _ =>
        .issue .handle .work ⟨"UPDATE c", []⟩ fun _ => .finish (.ok ()) ()
    let program : Work Script Unit Unit := .transaction {} outer fun _ _ => .finish (.ok ()) ()
    calls (program.run Script.driver true .pool ⟨{}, 1⟩).events =
      [.checkout (some 1), controlled 1 "BEGIN" true,
        .checkout (some 2), controlled 2 "BEGIN" true,
        .statement (.connection 1) ⟨"UPDATE a", []⟩ true, .statement .pool ⟨"UPDATE b", []⟩ true,
        .release 2,
        .statement (.connection 1) ⟨"UPDATE c", []⟩ true, controlled 1 "COMMIT" true,
        .release 1] := by
  rfl

end BoundSql.Session
