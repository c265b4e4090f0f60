import BoundSql.Failure

/-!
# Failures that are shared

Copying a failure copies none of its links.  The links stand in nodes, each with the node behind it,
and a failure is held by holding its newest node.  A node counts its holders, and it may be changed
in place only by the one who holds it alone.

* **`Failure.Node`**, **`Failure.Nodes`** — the nodes, each at its address.
* **`Nodes.context`** — puts the failure at one address in front of the one at another.
* **`Nodes.rollbackFailed`** — records in a new node that undoing failed as well.
* `Nodes.Represents` — what failure stands at an address.
* **`exists_rollbackFailed`** — recording succeeds whoever holds the nodes that are there, and
  leaves all of them as they were.
-/

namespace BoundSql.Failure

/-- **A node**: one link of a failure. -/
structure Node where
  link : Link
  /-- The address of the next older link. -/
  cause : Option Nat
  /-- How many hold the node. -/
  holders : Nat

/-- **The nodes that there are**, each at its address. -/
abbrev Nodes := List Node

namespace Nodes

/-- A new node, at the next address.  The one who makes it holds it alone. -/
def create (s : Nodes) (link : Link) : Nodes := s ++ [⟨link, none, 1⟩]

/-- **Puts the failure at one address in front of the one at another.**  Where there is no node
there is nothing to be put in front. -/
def context (s : Nodes) (cause consequent : Nat) : Except ContextFault Nodes :=
  match s[consequent]? with
  | none => .ok s
  | some node =>
    if node.cause.isSome then .error .alreadyCaused
    else if node.holders ≠ 1 then .error .shared
    else .ok (s.set consequent { node with cause := some cause })

/-- **Records that undoing failed as well**, in a new node in front of the failure that made it
necessary; its address comes first. -/
def rollbackFailed (s : Nodes) (failure : Nat) (rollback : Failure) :
    Except ContextFault (Nat × Nodes) :=
  ((s.create (.rollbackFailed rollback)).context failure s.length).map fun s' => (s.length, s')

/-- **The failure at an address.**  Any number of failures may have their older links in common. -/
inductive Represents (s : Nodes) : Nat → Failure → Prop where
  | start {address holders : Nat} {link : Link} :
      s[address]? = some ⟨link, none, holders⟩ → Represents s address (ofLink link)
  | caused {address cause holders : Nat} {link : Link} {f : Failure} :
      s[address]? = some ⟨link, some cause, holders⟩ → Represents s cause f →
      Represents s address (.chain link f.links)

variable {s s' : Nodes} {address cause consequent : Nat} {f g : Failure}

/-- A failure stays where its nodes stay. -/
theorem Represents.frame (h : s.Represents address f)
    (hnodes : ∀ (a : Nat) node, s[a]? = some node → s'[a]? = some node) :
    s'.Represents address f := by
  induction h with
  | start hnode => exact .start (hnodes _ _ hnode)
  | caused hnode _ ih => exact .caused (hnodes _ _ hnode) ih

/-- **Recording that undoing failed always succeeds.**  The new node stands in front of the whole
failure, and every failure that was there is still there. -/
theorem exists_rollbackFailed (hf : s.Represents address f) (rollback : Failure) :
    ∃ a s', s.rollbackFailed address rollback = .ok (a, s') ∧
      s'.Represents a (f.rollbackFailed rollback) ∧
      ∀ b g, s.Represents b g → s'.Represents b g := by
  have hcontext : (s.create (.rollbackFailed rollback)).context address s.length =
      .ok (s ++ [⟨.rollbackFailed rollback, some address, 1⟩]) := by
    simp [context, create]
  have hframe : ∀ b g, s.Represents b g →
      Represents (s ++ [⟨.rollbackFailed rollback, some address, 1⟩]) b g := by
    intro b g hg
    refine hg.frame fun a node hnode => ?_
    rw [List.getElem?_append_left (List.getElem?_eq_some_iff.mp hnode).1, hnode]
  refine ⟨s.length, _, by rw [rollbackFailed, hcontext]; rfl, ?_, hframe⟩
  exact .caused List.getElem?_concat_length (hframe _ _ hf)

end Nodes

end BoundSql.Failure
