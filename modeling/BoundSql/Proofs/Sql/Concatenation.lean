import BoundSql.Proofs.Sql.Marker

/-!
# Texts put together

Where one text follows another, a name might begin in the first and end in the second, or a colon at
the end of the first might be one of a pair.  Neither happens if the second starts with a character
that no name has; then the tokenisation of the whole is that of the parts.

* `Breaks` — a text in front of which every item ends.
* **`Tokenises.append`** — the items of such a text come after those of the text in front of it.
* `numbered_append` — and its placeholders count on.
* `raised` — a text with every placeholder number raised.
* **`raised_numbered`** — raised numbers are the numbers after more values.
-/

namespace BoundSql.Sql.NamedParameter

open Text Decimal

/-! ## Where items end -/

/-- **A text in front of which every item ends**: it is empty, or it starts with a character that
is no colon, stands in no name and continues none. -/
def Breaks (names : List (List Char)) (text : List Char) : Prop :=
  ∀ c, text.head? = some c →
    c ≠ ':' ∧ ¬ (isAlphanumeric c = true ∨ c = '_') ∧ ∀ name ∈ names, c ∉ name

lemma breaks_nil (names : List (List Char)) : Breaks names [] := by
  intro c hc
  simp at hc

/-- A space breaks, unless a name has one in it. -/
lemma breaks_space {names : List (List Char)} (h : ∀ name ∈ names, ' ' ∉ name) (rest : List Char) :
    Breaks names (' ' :: rest) := by
  intro c hc
  obtain rfl := Option.some.inj hc
  exact ⟨by decide, by decide, h⟩

section Parts

variable {names : List (List Char)} {a b : List Char}

/-- In front of a text that breaks, the same names are eligible as at the end of the text. -/
lemma Breaks.eligible_append_iff (hb : Breaks names b) {name : List Char} (hname : name ∈ names) :
    Eligible (a ++ b) name ↔ Eligible a name := by
  constructor
  · rintro ⟨hne, rest, heq, hrest⟩
    rcases List.append_eq_append_iff.mp heq with ⟨front, rfl, hfront⟩ | ⟨front, rfl, rfl⟩
    · cases front with
      | nil => exact ⟨hne, [], by simp, by simp⟩
      | cons c front =>
          -- the name would reach into the second text and take its first character
          have hc := (hb c (by rw [hfront]; rfl)).2.2 (a ++ c :: front) hname
          exact absurd (by simp) hc
    · refine ⟨hne, front, rfl, ?_⟩
      intro c hc
      exact hrest c (by rw [List.head?_append, hc]; rfl)
  · rintro ⟨hne, rest, rfl, hrest⟩
    refine ⟨hne, rest ++ b, by simp, ?_⟩
    intro c hc
    cases rest with
    | nil => exact (hb c hc).2.1
    | cons d rest => exact hrest c hc

lemma Breaks.longest_append (hb : Breaks names b) {name : List Char} (h : Longest names a name) :
    Longest names (a ++ b) name where
  known := h.known
  eligible := (hb.eligible_append_iff h.known).mpr h.eligible
  le other hother helig := h.le other hother ((hb.eligible_append_iff hother).mp helig)

lemma Breaks.head?_append_ne (hb : Breaks names b) (ha : a.head? ≠ some ':') :
    (a ++ b).head? ≠ some ':' := by
  cases a with
  | nil => exact fun hcolon => (hb ':' hcolon).1 rfl
  | cons c rest => exact ha

/-- **The items of two texts put together**, if the second breaks: those of the first, and then
those of the second. -/
theorem Tokenises.append {items items' : List Item} (ha : Tokenises names a items)
    (hb : Breaks names b) (hitems : Tokenises names b items') :
    Tokenises names (a ++ b) (items ++ items') := by
  induction ha with
  | nil => exact hitems
  | char hc _ ih => exact .char hc ih
  | cast _ ih => exact .cast ih
  | colon hrest hnone _ ih =>
      refine .colon (hb.head?_append_ne hrest) ?_ ih
      intro name hname helig
      exact hnone name hname ((hb.eligible_append_iff hname).mp helig)
  | @token name rest items hrest hname _ ih =>
      have hhead : (name ++ (rest ++ b)).head? ≠ some ':' := by
        rw [← List.append_assoc]
        exact hb.head?_append_ne hrest
      have hlongest : Longest names (name ++ (rest ++ b)) name := by
        rw [← List.append_assoc]
        exact hb.longest_append hname
      rw [List.cons_append, List.append_assoc, List.cons_append]
      exact .token hhead hlongest ih

lemma tokenises_of_not_mem (h : ':' ∉ a) : Tokenises names a (a.map .char) := by
  induction a with
  | nil => exact .nil
  | cons c rest ih =>
      rw [List.mem_cons, not_or] at h
      exact .char (Ne.symm h.1) (ih h.2)

end Parts

/-! ## Placeholders of the parts -/

lemma tokens_append (first second : List Item) :
    tokens (first ++ second) = tokens first ++ tokens second := List.filterMap_append

/-- **The placeholders of the second part count on.** -/
lemma numbered_append (bound : Nat) (first second : List Item) :
    numbered bound (first ++ second) =
      numbered bound first ++ numbered (bound + (tokens first).length) second := by
  induction first generalizing bound with
  | nil => rfl
  | cons item rest ih =>
      by_cases hitem : ∃ name, item = .token name
      · obtain ⟨name, rfl⟩ := hitem
        rw [List.cons_append, numbered_token, numbered_token, ih, tokens_token, List.length_cons,
          List.append_assoc, Nat.add_assoc, Nat.add_comm 1]
      · have hne (name : List Char) : item ≠ .token name := fun h => hitem ⟨name, h⟩
        rw [List.cons_append, numbered_cons_of_ne hne, numbered_cons_of_ne hne, ih,
          tokens_cons_of_ne hne, List.append_assoc]

lemma tokens_map_char (text : List Char) : tokens (text.map .char) = [] := by
  induction text with
  | nil => rfl
  | cons c rest ih => rw [List.map_cons, tokens_cons_of_ne (by simp), ih]

lemma numbered_map_char (bound : Nat) (text : List Char) :
    numbered bound (text.map .char) = text := by
  rw [numbered_eq_flatMap_source (tokens_map_char text), List.flatMap_map]
  exact List.flatMap_singleton' text

end BoundSql.Sql.NamedParameter

namespace BoundSql.Sql

open Decimal NamedParameter

/-! ## Raised numbers -/

/-- **A text with every placeholder number raised.**  The digits behind a dollar sign, as far as
they go, are a number; a dollar sign without digits is no placeholder. -/
def raised (shift : Nat) : List Char → List Char
  | [] => []
  | '$' :: rest =>
    let number := rest.takeWhile Char.isDigit
    if number = [] then '$' :: raised shift rest
    else placeholder (value number + shift) ++ raised shift (rest.dropWhile Char.isDigit)
  | c :: rest => c :: raised shift rest
termination_by text => text.length
decreasing_by
  · simp
  · have hle := (List.dropWhile_suffix Char.isDigit (l := rest)).length_le
    simp only [List.length_cons]
    omega
  · simp

@[simp] lemma raised_nil (shift : Nat) : raised shift [] = [] := by
  rw [raised]

lemma raised_cons_of_ne (shift : Nat) {c : Char} (hc : c ≠ '$') (rest : List Char) :
    raised shift (c :: rest) = c :: raised shift rest := by
  rw [raised]
  exact hc

lemma raised_append_of_not_mem (shift : Nat) {a : List Char} (ha : '$' ∉ a) (b : List Char) :
    raised shift (a ++ b) = a ++ raised shift b := by
  induction a with
  | nil => rfl
  | cons c rest ih =>
      rw [List.mem_cons, not_or] at ha
      rw [List.cons_append, raised_cons_of_ne shift (Ne.symm ha.1), ih ha.2, List.cons_append]

/-- A placeholder is raised by itself, if no digit follows. -/
lemma raised_placeholder_append (shift n : Nat) {rest : List Char}
    (hrest : rest.takeWhile Char.isDigit = []) :
    raised shift (placeholder n ++ rest) = placeholder (n + shift) ++ raised shift rest := by
  have hdigits : ∀ c ∈ digits n, Char.isDigit c = true := List.all_eq_true.mp (allDigits_digits n)
  have htake : (digits n ++ rest).takeWhile Char.isDigit = digits n := by
    rw [List.takeWhile_append_of_pos hdigits, hrest, List.append_nil]
  have hdrop : (digits n ++ rest).dropWhile Char.isDigit = rest := by
    have hsplit := List.takeWhile_append_dropWhile (p := Char.isDigit) (l := digits n ++ rest)
    rw [htake] at hsplit
    exact List.append_cancel_left hsplit
  rw [placeholder, List.cons_append, raised]
  simp only [htake, hdrop, digits_ne_nil, if_false, value_digits]

/-- **Raised numbers are the numbers after more values.** -/
theorem raised_numbered {names : List (List Char)} {text : List Char} {items : List Item}
    (h : Tokenises names text items) (htext : '$' ∉ text) (bound shift : Nat) :
    raised shift (numbered bound items) = numbered (bound + shift) items := by
  induction h generalizing bound with
  | nil => exact raised_nil shift
  | char _ _ ih =>
      rw [List.mem_cons, not_or] at htext
      rw [numbered_cons_of_ne (by simp), numbered_cons_of_ne (by simp), Item.source,
        List.singleton_append, List.singleton_append, raised_cons_of_ne shift (Ne.symm htext.1),
        ih htext.2]
  | cast _ ih =>
      simp only [List.mem_cons, not_or] at htext
      rw [numbered_cons_of_ne (by simp), numbered_cons_of_ne (by simp),
        raised_append_of_not_mem shift (by decide), ih htext.2.2]
  | colon _ _ _ ih =>
      rw [List.mem_cons, not_or] at htext
      rw [numbered_cons_of_ne (by simp), numbered_cons_of_ne (by simp),
        raised_append_of_not_mem shift (by decide), ih htext.2]
  | @token name rest items _ hname hrest ih =>
      have hdigits : (numbered (bound + 1) items).takeWhile Char.isDigit = [] := by
        rw [takeWhile_numbered hrest, takeWhile_isDigit_of_eligible hname.eligible]
      simp only [List.mem_cons, List.mem_append, not_or] at htext
      rw [numbered_token, numbered_token, raised_placeholder_append shift _ hdigits,
        ih htext.2.2, Nat.add_right_comm bound 1 shift]

end BoundSql.Sql
