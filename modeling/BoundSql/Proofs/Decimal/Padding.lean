import Mathlib.Data.List.Basic
import Mathlib.Data.List.TakeWhile
import Mathlib.Tactic.Lemma

/-!
# Padding

A list may start and end with one element repeated.  What is left between the two runs is its core.

* `IsCore` — a list that neither starts nor ends with the element.
* `IsCore.eq_nil_iff` — it is empty if there is nothing but the element.
* `exists_padding` — every list is a core between two runs.
* `getElem?_padding` — what stands where in such a list.
* `dropWhile_padding`, **`trim_padding`** — dropping the runs leaves the core.
-/

namespace BoundSql.Decimal

variable {α : Type}

/-- **A core**: a list that neither starts nor ends with an element. -/
structure IsCore (a : α) (core : List α) : Prop where
  head : core.head? ≠ some a
  last : core.getLast? ≠ some a

lemma IsCore.eq_nil_iff {a : α} {core : List α} (h : IsCore a core) (front back : Nat) :
    core = [] ↔ ∀ b ∈ List.replicate front a ++ core ++ List.replicate back a, b = a := by
  constructor
  · rintro rfl b hb
    rw [List.append_nil, List.replicate_append_replicate] at hb
    exact List.eq_of_mem_replicate hb
  · intro hall
    cases core with
    | nil => rfl
    | cons b rest =>
        have hb : b = a := hall b (by simp)
        exact absurd (congrArg some hb) h.head

lemma getElem?_padding (a : α) (front back : Nat) {core : List α} {i : Nat} (h : i < core.length) :
    (List.replicate front a ++ core ++ List.replicate back a)[front + i]? = some core[i] := by
  rw [List.append_assoc, List.getElem?_append_right (by simp), List.length_replicate,
    Nat.add_sub_cancel_left, List.getElem?_append_left h, List.getElem?_eq_getElem h]

lemma dropWhile_eq_self_of_head? {p : α → Bool} {l : List α} (h : ∀ a ∈ l.head?, p a = false) :
    l.dropWhile p = l := by
  cases l with
  | nil => rfl
  | cons a rest => exact List.dropWhile_cons_of_neg (by simp [h a rfl])

variable [BEq α] [LawfulBEq α]

lemma dropWhile_replicate_append (a : α) (n : Nat) (l : List α) :
    (List.replicate n a ++ l).dropWhile (· == a) = l.dropWhile (· == a) := by
  induction n with
  | zero => rfl
  | succ n ih =>
      rw [List.replicate_succ, List.cons_append, List.dropWhile_cons_of_pos (by simp), ih]

lemma dropWhile_eq_self_of_head {a : α} {l : List α} (h : l.head? ≠ some a) :
    l.dropWhile (· == a) = l := by
  apply dropWhile_eq_self_of_head?
  rintro b hb
  rw [beq_eq_false_iff_ne]
  rintro rfl
  exact h hb

lemma head?_dropWhile_ne (a : α) (l : List α) : (l.dropWhile (· == a)).head? ≠ some a := by
  induction l with
  | nil => simp
  | cons b rest ih =>
      by_cases h : b = a
      · rw [List.dropWhile_cons_of_pos (by simpa using h)]
        exact ih
      · rw [List.dropWhile_cons_of_neg (by simpa using h)]
        simpa using h

lemma exists_replicate_append (a : α) (l : List α) :
    ∃ n, l = List.replicate n a ++ l.dropWhile (· == a) := by
  refine ⟨(l.takeWhile (· == a)).length, ?_⟩
  have hrun : l.takeWhile (· == a) = List.replicate (l.takeWhile (· == a)).length a := by
    rw [List.eq_replicate_length]
    intro b hb
    simpa using List.mem_takeWhile_imp hb
  rw [← hrun, List.takeWhile_append_dropWhile]

/-- **Every list is a core between two runs.** -/
lemma exists_padding (a : α) (l : List α) :
    ∃ front core back, l = List.replicate front a ++ core ++ List.replicate back a ∧
      IsCore a core := by
  obtain ⟨front, hfront⟩ := exists_replicate_append a l
  obtain ⟨back, hback⟩ := exists_replicate_append a (l.dropWhile (· == a)).reverse
  generalize hcore : (l.dropWhile (· == a)).reverse.dropWhile (· == a) = reversed at hback
  have hkept : l.dropWhile (· == a) = reversed.reverse ++ List.replicate back a := by
    rw [← List.reverse_reverse (l.dropWhile _), hback, List.reverse_append, List.reverse_replicate]
  refine ⟨front, reversed.reverse, back, ?_, ?_, ?_⟩
  · rw [List.append_assoc, ← hkept]
    exact hfront
  · intro hhead
    have hne := head?_dropWhile_ne a l
    rw [hkept, List.head?_append, hhead] at hne
    exact hne rfl
  · rw [List.getLast?_reverse, ← hcore]
    exact head?_dropWhile_ne a _

section Core

variable {a : α} {core : List α}

/-- Dropping the run in front leaves the core and the run behind it; nothing, if the core is empty.
-/
lemma dropWhile_padding (h : IsCore a core) (hne : core ≠ []) (front back : Nat) :
    (List.replicate front a ++ core ++ List.replicate back a).dropWhile (· == a) =
      core ++ List.replicate back a := by
  rw [List.append_assoc, dropWhile_replicate_append]
  apply dropWhile_eq_self_of_head
  rw [List.head?_append_of_ne_nil _ hne]
  exact h.head

/-- **Dropping both runs leaves the core.** -/
lemma trim_padding (h : IsCore a core) (front back : Nat) :
    (((List.replicate front a ++ core ++ List.replicate back a).dropWhile
      (· == a)).reverse.dropWhile (· == a)).reverse = core := by
  by_cases hne : core = []
  · subst hne
    have hrun := dropWhile_replicate_append a (front + back) ([] : List α)
    rw [List.append_nil, List.replicate_add] at hrun
    rw [List.append_nil, hrun]
    rfl
  · rw [dropWhile_padding h hne, List.reverse_append, List.reverse_replicate,
      dropWhile_replicate_append, dropWhile_eq_self_of_head, List.reverse_reverse]
    rw [List.head?_reverse]
    exact h.last

end Core

end BoundSql.Decimal
