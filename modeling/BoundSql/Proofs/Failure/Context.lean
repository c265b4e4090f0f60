import BoundSql.Failure.Node
import Mathlib.Data.List.Forall2

/-!
# Failures put in front of failures

The one who puts a failure in front of another gives up both and gets the one in front, whose node
is changed in place.  That is safe as long as the holders of all nodes are counted: a node with one
holder stands behind no other, so no failure but its own changes with it.

* `Nodes.Counted` — the holders of all nodes are counted.
* `Nodes.Refuses` — when a failure cannot be put in front of another, and what is said then.
* `Nodes.contexts` — puts failures in front of another, one after the other.
* `Accumulates` — a failure with links in front of it.
* `Nodes.Counted.exists_context` — one failure goes in front.
* `Nodes.Counted.exists_contexts` — any number of failures go in front.
* **`context_accumulates`** — nothing of a failure is lost by what is put in front of it.
-/

namespace BoundSql

/-! ## Chains -/

/-- The messages of a failure from outside and of its sources are joined by colons. -/
lemma Foreign.trail_eq (e : Foreign) :
    e.trail = ": ".intercalate (e.message :: e.sources.map Source.text) := by
  have hfold : ∀ (sources : List Source) (text : String),
      sources.foldl (fun text source => text ++ ": " ++ source.text) text =
        ": ".intercalate (text :: sources.map Source.text) := by
    intro sources
    induction sources with
    | nil => simp
    | cons source sources ih =>
      intro text
      rw [List.foldl_cons, ih, List.map_cons]
      cases sources with
      | nil => simp [String.intercalate_cons_cons]
      | cons next sources => simp [String.intercalate_cons_cons, String.append_assoc]
  exact hfold e.sources e.message

namespace Failure

lemma displayOlder_eq (link : Link) (older : List Link) :
    link.display ++ displayOlder older =
      ": ".intercalate ((link :: older).map Link.display) := by
  induction older generalizing link with
  | nil => simp [displayOlder]
  | cons next older ih =>
    rw [List.map_cons, List.map_cons, String.intercalate_cons_cons, ← List.map_cons, ← ih]
    simp [displayOlder, String.append_assoc]

/-- **The message of a failure is those of its links, joined by colons.** -/
lemma display_eq (f : Failure) : f.display = ": ".intercalate (f.links.map Link.display) := by
  obtain ⟨link, older⟩ := f
  exact displayOlder_eq link older

lemma root_eq (f : Failure) : f.root = ofLink (f.links.getLast f.links_ne_nil) := by
  cases f
  rfl

lemma suffixesOf_append (front back : List Link) :
    ∃ chains, suffixesOf (front ++ back) = chains ++ suffixesOf back ∧
      chains.map newest = front := by
  induction front with
  | nil => exact ⟨[], rfl, rfl⟩
  | cons link front ih =>
    obtain ⟨chains, hchains, hnewest⟩ := ih
    exact ⟨_ :: chains, congrArg (_ :: ·) hchains, congrArg (link :: ·) hnewest⟩

/-- The last failure of a chain is its root. -/
lemma getLast?_suffixes (f : Failure) : f.suffixes.getLast? = some f.root := by
  obtain ⟨link, older⟩ := f
  induction older generalizing link with
  | nil => rfl
  | cons next older ih => exact ih next

/-- **A failure with links in front of it**, the last of which was put there last. -/
structure Accumulates (added : List Link) (f g : Failure) : Prop where
  links : g.links = added.reverse ++ f.links
  /-- The chain goes through the new links, and then through the failure that was there. -/
  chain : ∃ front, g.suffixes = front ++ f.suffixes ∧ front.map newest = added.reverse
  root : g.root = f.root
  /-- The chain ends with the root. -/
  last : g.suffixes.getLast? = some f.root
  display : g.display = ": ".intercalate ((added.reverse ++ f.links).map Link.display)

/-- The chain, the root and the message are those of the links. -/
lemma accumulates_of_links {added : List Link} {f g : Failure}
    (h : g.links = added.reverse ++ f.links) : Accumulates added f g := by
  have hroot : g.root = f.root := by
    rw [root_eq, root_eq]
    simp only [h, List.getLast_append_of_ne_nil _ f.links_ne_nil]
  obtain ⟨front, hfront, hnewest⟩ := suffixesOf_append added.reverse f.links
  refine ⟨h, ⟨front, ?_, hnewest⟩, hroot, ?_, ?_⟩
  · rw [suffixes, h, hfront]
    rfl
  · rw [getLast?_suffixes, hroot]
  · rw [display_eq, h]

namespace Nodes

/-! ## Holders -/

/-- **The holders of all nodes are counted**: those who hold a node themselves, and the nodes that
it stands behind. -/
def Counted (s : Nodes) (handles : List Nat) : Prop :=
  ∀ a node, s[a]? = some node →
    node.holders = handles.count a + (s.map Node.cause).count (some a)

/-- **When a failure cannot be put in front of another**: it has links behind it; or it has none,
and it is held by others as well, or stands behind a node. -/
inductive Refuses (s : Nodes) (others : List Nat) (consequent : Nat) (node : Node) :
    ContextFault → Prop
  | alreadyCaused {b : Nat} : node.cause = some b → Refuses s others consequent node .alreadyCaused
  | shared : node.cause = none → (consequent ∈ others ∨ ∃ n ∈ s, n.cause = some consequent) →
      Refuses s others consequent node .shared

/-- **Puts failures in front of another**, one after the other; the address of the last one comes
first. -/
def contexts (s : Nodes) (address : Nat) : List Nat → Except ContextFault (Nat × Nodes)
  | [] => .ok (address, s)
  | consequent :: rest =>
    match s.context address consequent with
    | .error fault => .error fault
    | .ok s' => s'.contexts consequent rest

section Counted

variable {s s' : Nodes} {handles others : List Nat} {a e c : Nat} {node : Node} {link : Link}
  {f : Failure}

/-- A node is held by no one else if it is not held twice and stands behind no other. -/
lemma Counted.holders_ne_one_iff (hs : s.Counted (c :: handles)) (hnode : s[c]? = some node) :
    node.holders ≠ 1 ↔ c ∈ handles ∨ ∃ n ∈ s, n.cause = some c := by
  have hcauses : (∃ n ∈ s, n.cause = some c) ↔ 0 < (s.map Node.cause).count (some c) := by
    rw [List.count_pos_iff, List.mem_map]
  have hhandles : c ∈ handles ↔ 0 < handles.count c := List.count_pos_iff.symm
  have hholders := hs c node hnode
  rw [List.count_cons_self] at hholders
  rw [hcauses, hhandles]
  omega

lemma Counted.swap (hs : s.Counted (e :: c :: others)) : s.Counted (c :: e :: others) := by
  intro a node hnode
  rw [hs a node hnode, (List.Perm.swap c e others).count_eq]

/-- **When and how putting a failure in front is refused.** -/
lemma Counted.context_refuses_iff (hs : s.Counted (e :: c :: others)) (hnode : s[c]? = some node)
    (fault : ContextFault) :
    s.context e c = .error fault ↔ Refuses s (e :: others) c node fault := by
  have hshared := hs.swap.holders_ne_one_iff hnode
  cases hcause : node.cause with
  | some b =>
    simp only [Nodes.context, hnode, hcause]
    constructor
    · rintro ⟨⟩
      exact .alreadyCaused hcause
    · rintro (_ | ⟨hnone, -⟩)
      · rfl
      · cases hcause.symm.trans hnone
  | none =>
    by_cases hholders : node.holders = 1
    · simp only [Nodes.context, hnode, hcause, hholders]
      constructor
      · rintro ⟨⟩
      · rintro (hsome | ⟨-, hheld⟩)
        · cases hcause.symm.trans hsome
        · exact absurd hholders (hshared.mpr hheld)
    · have hcontext : s.context e c = .error .shared := by
        simp [Nodes.context, hnode, hcause, hholders]
      rw [hcontext]
      constructor
      · rintro ⟨⟩
        exact .shared hcause (hshared.mp hholders)
      · rintro (hsome | -)
        · cases hcause.symm.trans hsome
        · rfl

/-- A failure does not change with a node that stands behind no other. -/
lemma Represents.set_of_ne (h : s.Represents a f) (hac : a ≠ c)
    (hbehind : ∀ n ∈ s, n.cause ≠ some c) (node : Node) :
    Represents (s.set c node) a f := by
  induction h with
  | start hnode => exact .start (by rw [List.getElem?_set_ne hac.symm, hnode])
  | @caused _ cause _ _ _ hnode _ ih =>
    have hcause : cause ≠ c := by
      rintro rfl
      exact hbehind _ (List.mem_of_getElem? hnode) rfl
    exact .caused (by rw [List.getElem?_set_ne hac.symm, hnode]) (ih hcause)

/-- A node that gets another behind it holds that one, instead of the one who gave it up. -/
lemma Counted.set_cause (hs : s.Counted (e :: handles)) (hnode : s[c]? = some ⟨link, none, 1⟩) :
    Counted (s.set c ⟨link, some e, 1⟩) handles := by
  obtain ⟨hc, hget⟩ := List.getElem?_eq_some_iff.mp hnode
  intro a node ha
  -- The node itself still has one holder; of the others none is changed.
  have hcauses : ((s.set c ⟨link, some e, 1⟩).map Node.cause).count (some a) =
      (s.map Node.cause).count (some a) + if e = a then 1 else 0 := by
    rw [List.map_set, List.count_set (by simpa using hc)]
    simp [hget]
  have hholders : node.holders = (e :: handles).count a + (s.map Node.cause).count (some a) := by
    by_cases hac : c = a
    · subst hac
      rw [List.getElem?_set_self hc, Option.some.injEq] at ha
      rw [← hs c _ hnode, ← ha]
    · rw [List.getElem?_set_ne hac] at ha
      exact hs a node ha
  rw [hholders, hcauses, List.count_cons]
  simp only [beq_iff_eq]
  omega

/-- **One failure goes in front**: it has no link behind it, and the one who puts it there holds it
alone. -/
lemma Counted.exists_context (hs : s.Counted (e :: c :: others)) (hf : s.Represents e f)
    (hnode : s[c]? = some ⟨link, none, 1⟩) :
    ∃ s', s.context e c = .ok s' ∧ s'.Counted (c :: others) ∧
      s'.Represents c (.chain link f.links) ∧ c ∉ e :: others ∧ (∀ b, b ≠ c → s'[b]? = s[b]?) ∧
      ∀ b g, b ≠ c → s.Represents b g → s'.Represents b g := by
  have halone : ¬ (c ∈ e :: others ∨ ∃ n ∈ s, n.cause = some c) := fun hheld =>
    hs.swap.holders_ne_one_iff hnode |>.mpr hheld rfl
  obtain ⟨hheld, hbehind⟩ := not_or.mp halone
  have hframe : ∀ b g, b ≠ c → s.Represents b g →
      Represents (s.set c ⟨link, some e, 1⟩) b g := fun b g hb hg =>
    hg.set_of_ne hb (fun n hn hcause => hbehind ⟨n, hn, hcause⟩) _
  refine ⟨s.set c ⟨link, some e, 1⟩, ?_, hs.set_cause hnode, ?_, hheld,
    fun b hb => List.getElem?_set_ne hb.symm, hframe⟩
  · simp [Nodes.context, hnode]
  · refine .caused (List.getElem?_set_self (List.getElem?_eq_some_iff.mp hnode).1) ?_
    exact hframe e f (fun h => hheld (h ▸ List.mem_cons_self)) hf

/-- **Any number of failures go in front**, the last one foremost; no other failure changes. -/
lemma Counted.exists_contexts {cs : List Nat} {links : List Link}
    (hs : s.Counted (e :: cs ++ others)) (hf : s.Represents e f)
    (hcs : List.Forall₂ (fun c link => s[c]? = some ⟨link, none, 1⟩) cs links) :
    ∃ a s' g, s.contexts e cs = .ok (a, s') ∧ s'.Counted (a :: others) ∧ s'.Represents a g ∧
      (links.map ofLink).foldlM (fun f c => f.context c false) f = .ok g ∧
      g.links = links.reverse ++ f.links ∧
      ∀ b h, b ∉ cs → s.Represents b h → s'.Represents b h := by
  induction cs generalizing s e f links with
  | nil =>
    cases hcs
    exact ⟨e, s, f, rfl, hs, hf, rfl, rfl, fun _ _ _ h => h⟩
  | cons c cs ih =>
    obtain ⟨link, links, hnode, hrest, rfl⟩ := List.forall₂_cons_left_iff.mp hcs
    obtain ⟨s₁, hcontext, hs₁, hf₁, halone, hnodes, hframe⟩ := hs.exists_context hf hnode
    -- The nodes to come are other nodes, for the one at hand is held only once.
    have hother : ∀ b ∈ cs, b ≠ c := by
      rintro b hb rfl
      exact halone (List.mem_cons_of_mem _ (List.mem_append_left _ hb))
    have hcs₁ : List.Forall₂ (fun c link => s₁[c]? = some ⟨link, none, 1⟩) cs links :=
      ((List.forall₂_and_left cs links).mpr ⟨hother, hrest⟩).imp fun b _ hb =>
        (hnodes b hb.1).trans hb.2
    obtain ⟨a, s', g, hcontexts, hs', hg, hfold, hlinks, hframe'⟩ := ih hs₁ hf₁ hcs₁
    refine ⟨a, s', g, ?_, hs', hg, ?_, ?_, ?_⟩
    · rw [contexts, hcontext]
      exact hcontexts
    · exact hfold
    · rw [hlinks]
      simp
    · intro b h hb hbh
      rw [List.mem_cons, not_or] at hb
      exact hframe' b h hb.2 (hframe b h hb.1 hbh)

end Counted

end Nodes

/-! ## Putting failures in front -/

/-- When putting a failure in front is refused, by what is known of it. -/
lemma context_eq_error_iff (f g : Failure) (shared : Bool) (fault : ContextFault) :
    f.context g shared = .error fault ↔
      fault = .alreadyCaused ∧ g.links.length ≠ 1 ∨
        fault = .shared ∧ g.links.length = 1 ∧ shared = true := by
  obtain ⟨link, older⟩ := g
  cases older with
  | nil =>
    cases shared with
    | false => simp [context]
    | true => simp [context, eq_comm]
  | cons next older => simp [context, eq_comm]

/-- **Nothing of a failure is lost by what is put in front of it.**  Any failures of one link that
no one else holds go in front of any failure, and no other failure changes with them; and a failure
is refused just if it has links behind it, or else is held by others as well. -/
theorem context_accumulates :
    (∀ (s : Nodes) (e : Nat) (cs others : List Nat) (f : Failure) (added : List Link),
      s.Counted (e :: cs ++ others) → s.Represents e f →
      List.Forall₂ (fun c link => s[c]? = some ⟨link, none, 1⟩) cs added →
      ∃ a s' g, s.contexts e cs = .ok (a, s') ∧ s'.Counted (a :: others) ∧ s'.Represents a g ∧
        (added.map ofLink).foldlM (fun f c => f.context c false) f = .ok g ∧
        Accumulates added f g ∧ ∀ b h, b ∉ cs → s.Represents b h → s'.Represents b h) ∧
    (∀ (s : Nodes) (e c : Nat) (others : List Nat) (node : Node),
      s.Counted (e :: c :: others) → s[c]? = some node →
      ∀ fault, s.context e c = .error fault ↔ s.Refuses (e :: others) c node fault) ∧
    (∀ (f g : Failure) (shared : Bool) (fault : ContextFault), f.context g shared = .error fault ↔
      fault = .alreadyCaused ∧ g.links.length ≠ 1 ∨
        fault = .shared ∧ g.links.length = 1 ∧ shared = true) ∧
    ∀ cause : Foreign, (Link.driver cause).display =
      ": ".intercalate (cause.message :: cause.sources.map Source.text) := by
  refine ⟨fun s e cs others f added hs hf hcs => ?_,
    fun s e c others node hs hnode fault => hs.context_refuses_iff hnode fault,
    context_eq_error_iff, fun cause => ?_⟩
  · obtain ⟨a, s', g, hcontexts, hs', hg, hfold, hlinks, hframe⟩ := hs.exists_contexts hf hcs
    exact ⟨a, s', g, hcontexts, hs', hg, hfold, accumulates_of_links hlinks, hframe⟩
  · have hdisplay : (Link.driver cause).display = cause.trail := rfl
    rw [hdisplay, Foreign.trail_eq]

/-- A failure of two links, which is held twice, and two failures that are put in front of it. -/
theorem context_accumulates_shared :
    let s : Nodes := [⟨.adhoc "no rows", none, 1⟩, ⟨.adhoc "load", some 0, 2⟩,
      ⟨.adhoc "user 7", none, 1⟩, ⟨.driver (.ofMessages "timeout" [.message "io"]), none, 1⟩]
    s.Counted [1, 2, 3, 1] ∧ ∃ s' g, s.contexts 1 [2, 3] = .ok (3, s') ∧ s'.Represents 3 g ∧
      g.display = "timeout: io: user 7: load: no rows" ∧
      s'.Represents 1 (.chain (.adhoc "load") [.adhoc "no rows"]) := by
  intro s
  have hload : s.Represents 1 (.chain (.adhoc "load") [.adhoc "no rows"]) := .caused rfl (.start rfl)
  have hcounted : s.Counted [1, 2, 3, 1] := by
    intro a node hnode
    rcases a with _ | _ | _ | _ | a
    all_goals first | cases hnode; rfl | simp [s] at hnode
  obtain ⟨a, s', g, hcontexts, -, hg, -, haccumulates, hframe⟩ := context_accumulates.1 s 1 [2, 3]
    [1] _ [.adhoc "user 7", .driver (.ofMessages "timeout" [.message "io"])] hcounted hload
    (.cons rfl (.cons rfl .nil))
  obtain rfl : 3 = a := by
    cases hcontexts
    rfl
  have hmessages : [.driver (.ofMessages "timeout" [.message "io"]), .adhoc "user 7",
      .adhoc "load", .adhoc "no rows"].map Link.display =
      ["timeout" ++ ": " ++ "io", "user 7", "load", "no rows"] := rfl
  refine ⟨hcounted, s', g, hcontexts, hg, ?_, hframe 1 _ (by simp) hload⟩
  refine haccumulates.display.trans ((congrArg (String.intercalate ": ") hmessages).trans ?_)
  simp [String.intercalate_cons_cons]

end Failure

end BoundSql
