import BoundSql.Proofs.Sql.Concatenation
import Mathlib.Tactic.ByContra

/-!
# Texts with colons in pairs

Two colons are a cast and never start a name.  A text in which colons only stand in runs of even
length is therefore all casts and other characters: the scan passes from pair to pair and never gets
out of phase, whatever names are known and whatever follows.

* `Paired` — such texts, from left to right.
* **`paired_iff`** — these are the texts in which every maximal run of colons has an even length.
* `Paired.append`, `Paired.intercalate` — texts put together from such texts.
* **`Paired.tokenises_append`** — such a text holds no name, and is scanned apart from what follows.
-/

namespace BoundSql.Sql.NamedParameter

/-- **Colons in pairs**, and any other characters. -/
inductive Paired : List Char → Prop where
  | nil : Paired []
  | char {c : Char} {rest : List Char} : c ≠ ':' → Paired rest → Paired (c :: rest)
  | pair {rest : List Char} : Paired rest → Paired (':' :: ':' :: rest)

/-! ## Runs of colons -/

/-- **Every maximal run of colons has an even length.** -/
def EvenRuns (text : List Char) : Prop :=
  ∀ front n rest, text = front ++ List.replicate n ':' ++ rest → front.getLast? ≠ some ':' →
    rest.head? ≠ some ':' → 2 ∣ n

section Runs

variable {c : Char} {text rest : List Char}

lemma EvenRuns.of_char (h : EvenRuns (c :: rest)) (hc : c ≠ ':') : EvenRuns rest := by
  intro front n tail htext hfront htail
  refine h (c :: front) n tail (by rw [htext]; rfl) ?_ htail
  cases front with
  | nil => simpa using hc
  | cons d front => rwa [List.getLast?_cons_cons]

/-- The run in front is longer by two. -/
lemma EvenRuns.of_pair (h : EvenRuns (':' :: ':' :: rest)) : EvenRuns rest := by
  intro front n tail htext hfront htail
  cases front with
  | nil =>
      have heven := h [] (n + 2) tail (by rw [htext]; rfl) hfront htail
      omega
  | cons d front =>
      refine h (':' :: ':' :: d :: front) n tail (by rw [htext]; rfl) ?_ htail
      rwa [List.getLast?_cons_cons, List.getLast?_cons_cons]

/-- A colon by itself is a run of length one. -/
lemma EvenRuns.head?_eq (h : EvenRuns (':' :: rest)) : rest.head? = some ':' := by
  by_contra hne
  have heven := h [] 1 rest rfl (by simp) hne
  omega

/-- **Runs of even length are pairs one after the other.** -/
lemma EvenRuns.paired : ∀ {text : List Char}, EvenRuns text → Paired text
  | [], _ => .nil
  | c :: rest, h => by
      by_cases hc : c = ':'
      · subst hc
        obtain ⟨rest', rfl⟩ := List.head?_eq_some_iff.mp h.head?_eq
        exact .pair h.of_pair.paired
      · exact .char hc (h.of_char hc).paired
termination_by text => text.length

lemma Paired.evenRuns (h : Paired text) : EvenRuns text := by
  induction h with
  | nil =>
      intro front n tail htext _ _
      have hlength := congrArg List.length htext
      simp only [List.length_nil, List.length_append, List.length_replicate] at hlength
      omega
  | @char c rest hc _ ih =>
      intro front n tail htext hfront htail
      cases front with
      | nil =>
          cases n with
          | zero => exact Nat.dvd_zero 2
          | succ n => exact absurd (List.cons.inj htext).1 hc
      | cons d front =>
          obtain ⟨rfl, hrest⟩ := List.cons.inj htext
          refine ih front n tail hrest ?_ htail
          cases front with
          | nil => simp
          | cons e front => rwa [List.getLast?_cons_cons] at hfront
  | @pair rest _ ih =>
      intro front n tail htext hfront htail
      match front, n with
      | [], 0 => exact Nat.dvd_zero 2
      | [], 1 =>
          obtain rfl := (List.cons.inj htext).2
          exact absurd rfl htail
      | [], n + 2 =>
          have heven := ih [] n tail (List.cons.inj (List.cons.inj htext).2).2 (by simp) htail
          omega
      | [d], n =>
          obtain ⟨rfl, -⟩ := List.cons.inj htext
          exact absurd rfl hfront
      | d :: e :: front, n =>
          obtain ⟨-, hsecond⟩ := List.cons.inj htext
          obtain ⟨rfl, hrest⟩ := List.cons.inj hsecond
          refine ih front n tail hrest ?_ htail
          cases front with
          | nil => simp
          | cons f front => rwa [List.getLast?_cons_cons, List.getLast?_cons_cons] at hfront

/-- **Colons stand in pairs** if and only if every maximal run of them has an even length. -/
theorem paired_iff : Paired text ↔ EvenRuns text := ⟨Paired.evenRuns, EvenRuns.paired⟩

end Runs

/-! ## Texts put together -/

section Parts

variable {a b : List Char}

lemma Paired.append (ha : Paired a) (hb : Paired b) : Paired (a ++ b) := by
  induction ha with
  | nil => exact hb
  | char hc _ ih => exact .char hc ih
  | pair _ ih => exact .pair ih

lemma paired_of_not_mem (h : ':' ∉ a) : Paired a := by
  induction a with
  | nil => exact .nil
  | cons c rest ih =>
      rw [List.mem_cons, not_or] at h
      exact .char (Ne.symm h.1) (ih h.2)

lemma Paired.intercalate (ha : Paired a) {parts : List (List Char)}
    (h : ∀ part ∈ parts, Paired part) : Paired (a.intercalate parts) := by
  induction parts with
  | nil => exact .nil
  | cons first rest ih =>
      have hfirst := h first List.mem_cons_self
      cases rest with
      | nil => simpa using hfirst
      | cons second rest =>
          rw [List.intercalate_cons_cons]
          exact (hfirst.append ha).append (ih fun part hpart => h part (List.mem_cons_of_mem _ hpart))

/-- **A text with colons in pairs holds no name**, whatever names are known, and what follows it is
scanned as if it stood alone. -/
theorem Paired.tokenises_append {names : List (List Char)} {items : List Item} (ha : Paired a)
    (hb : Tokenises names b items) :
    ∃ front, Tokenises names (a ++ b) (front ++ items) ∧ tokens front = [] ∧
      front.flatMap Item.source = a := by
  induction ha with
  | nil => exact ⟨[], hb, rfl, rfl⟩
  | @char c rest hc _ ih =>
      obtain ⟨front, hitems, htokens, hsource⟩ := ih
      refine ⟨.char c :: front, .char hc hitems, ?_, ?_⟩
      · rw [tokens_cons_of_ne (by simp), htokens]
      · rw [List.flatMap_cons, hsource]
        rfl
  | pair _ ih =>
      obtain ⟨front, hitems, htokens, hsource⟩ := ih
      refine ⟨.cast :: front, .cast hitems, ?_, ?_⟩
      · rw [tokens_cons_of_ne (by simp), htokens]
      · rw [List.flatMap_cons, hsource]
        rfl

end Parts

end BoundSql.Sql.NamedParameter
