import BoundSql.Proofs.Sql.Tokenisation

/-!
# Placeholders as the database reads them

The database finds a placeholder where a dollar sign stands, and takes for its number the digits
behind it, as far as they go.  So a placeholder must not be followed by another digit, whatever text
stands there.

* `markers` — the digits behind each dollar sign of a text.
* `markers_append` — texts put together have the placeholders of both, unless the second one goes on
  with a digit.
* `markers_commas` — a list of things, each with its own placeholder.
* `takeWhile_numbered` — substitution neither takes digits from the front of a text nor puts any
  there.
* **`markers_numbered`** — it keeps the placeholders that a text has and adds the next ones.

The last one needs that no name has a dollar sign, since a name is taken out of the text with all
that is in it.  It needs nothing of the text: a name never ends in front of a digit.
-/

namespace BoundSql.Sql

open Text Decimal NamedParameter

/-- **What a reader takes for placeholders**: behind each dollar sign the digits up to the first
character that is none. -/
def markers : List Char → List (List Char)
  | [] => []
  | c :: rest => if c = '$' then rest.takeWhile Char.isDigit :: markers rest else markers rest

lemma markers_dollar (rest : List Char) :
    markers ('$' :: rest) = rest.takeWhile Char.isDigit :: markers rest := rfl

lemma markers_cons_of_ne {c : Char} (hc : c ≠ '$') (rest : List Char) :
    markers (c :: rest) = markers rest := if_neg hc

/-! ## Texts put together -/

/-- A piece without a dollar sign has no placeholder, and ends none. -/
lemma markers_append_of_not_mem {a : List Char} (ha : '$' ∉ a) (b : List Char) :
    markers (a ++ b) = markers b := by
  induction a with
  | nil => rfl
  | cons c rest ih =>
      rw [List.mem_cons, not_or] at ha
      rw [List.cons_append, markers_cons_of_ne (Ne.symm ha.1), ih ha.2]

lemma markers_of_not_mem {a : List Char} (ha : '$' ∉ a) : markers a = [] := by
  have h := markers_append_of_not_mem ha []
  rwa [List.append_nil] at h

/-- Digits end where the next piece begins, if that does not go on with a digit. -/
lemma takeWhile_isDigit_append {b : List Char} (hb : b.takeWhile Char.isDigit = [])
    (a : List Char) : (a ++ b).takeWhile Char.isDigit = a.takeWhile Char.isDigit := by
  rw [List.takeWhile_append]
  split
  · rename_i hall
    rw [hb, List.append_nil, (List.takeWhile_prefix _).eq_of_length hall]
  · rfl

/-- **Texts put together have the placeholders of both**, unless the second goes on with a digit. -/
lemma markers_append (a : List Char) {b : List Char} (hb : b.takeWhile Char.isDigit = []) :
    markers (a ++ b) = markers a ++ markers b := by
  induction a with
  | nil => rfl
  | cons c rest ih =>
      by_cases hc : c = '$'
      · subst hc
        rw [List.cons_append, markers_dollar, markers_dollar, takeWhile_isDigit_append hb, ih]
        rfl
      · rw [List.cons_append, markers_cons_of_ne hc, markers_cons_of_ne hc, ih]

lemma dollar_not_mem_digits (n : Nat) : '$' ∉ digits n := by
  intro h
  have hdigit := List.all_eq_true.mp (allDigits_digits n) '$' h
  exact absurd hdigit (by decide)

lemma colon_not_mem_placeholder (n : Nat) : ':' ∉ placeholder n := by
  rw [placeholder, List.mem_cons, not_or]
  refine ⟨by decide, fun h => ?_⟩
  have hdigit := List.all_eq_true.mp (allDigits_digits n) ':' h
  exact absurd hdigit (by decide)

/-- A placeholder is read with its own number, if no digit follows. -/
lemma markers_placeholder_append (n : Nat) {rest : List Char}
    (hrest : rest.takeWhile Char.isDigit = []) :
    markers (placeholder n ++ rest) = digits n :: markers rest := by
  have hdigits : ∀ c ∈ digits n, Char.isDigit c = true := List.all_eq_true.mp (allDigits_digits n)
  rw [placeholder, List.cons_append, markers_dollar, takeWhile_isDigit_append hrest,
    markers_append_of_not_mem (dollar_not_mem_digits n)]
  have hall : (digits n ++ []).takeWhile Char.isDigit = digits n ++ [].takeWhile Char.isDigit :=
    List.takeWhile_append_of_pos hdigits
  rw [List.append_nil, List.takeWhile_nil, List.append_nil] at hall
  rw [hall]

lemma markers_placeholder (n : Nat) : markers (placeholder n) = [digits n] := by
  have h := @markers_placeholder_append n [] rfl
  rwa [List.append_nil] at h

/-- **A list of things with commas between them, each with its own placeholder.** -/
lemma markers_commas {α : Type} {label : α → List Char} {xs : List α}
    (hlabel : ∀ x ∈ xs, '$' ∉ label x) (bound : Nat) {rest : List Char}
    (hrest : rest.takeWhile Char.isDigit = []) :
    markers ([',', ' '].intercalate (xs.mapIdx fun i x => label x ++ placeholder (bound + i + 1))
        ++ rest) =
      (List.range' (bound + 1) xs.length).map digits ++ markers rest := by
  induction xs generalizing bound with
  | nil => rfl
  | cons x tail ih =>
      have hx := hlabel x List.mem_cons_self
      have htail : ∀ y ∈ tail, '$' ∉ label y := fun y hy => hlabel y (List.mem_cons_of_mem _ hy)
      have hshift (i : Nat) : bound + (i + 1) + 1 = bound + 1 + i + 1 := by omega
      have hstep := ih htail (bound + 1)
      rw [List.mapIdx_cons, List.length_cons, List.range'_succ, List.map_cons, List.cons_append]
      simp only [hshift, Nat.add_zero]
      cases hrestList : tail.mapIdx fun i y => label y ++ placeholder (bound + 1 + i + 1) with
      | nil =>
          rw [hrestList] at hstep
          rw [List.intercalate_singleton, List.append_assoc, markers_append_of_not_mem hx,
            markers_placeholder_append _ hrest, ← hstep]
          rfl
      | cons y more =>
          rw [hrestList] at hstep
          rw [List.intercalate_cons_cons, List.append_assoc, List.append_assoc, List.append_assoc,
            markers_append_of_not_mem hx, markers_placeholder_append _ rfl, ← hstep]
          exact congrArg _ (markers_append_of_not_mem (by decide) _)

/-! ## Substitution -/

/-- No name is taken in front of a digit. -/
lemma takeWhile_isDigit_of_eligible {name rest : List Char} (h : Eligible (name ++ rest) name) :
    rest.takeWhile Char.isDigit = [] := by
  obtain ⟨-, rest', heq, hnone⟩ := h
  rw [← List.append_cancel_left heq] at hnone
  cases rest with
  | nil => rfl
  | cons c tail =>
      have hc := hnone c rfl
      rw [not_or] at hc
      apply List.takeWhile_cons_of_neg
      intro hdigit
      have halpha : c.isAlphanum = true := by
        rw [Char.isAlphanum, hdigit, Bool.or_true]
      exact hc.1 (isAlphanumeric_of_isAlphanum halpha)

section Substitution

variable {names : List (List Char)} {text : List Char} {items : List Item}

/-- **Substitution neither takes digits from the front of a text nor puts any there.** -/
lemma takeWhile_numbered (h : Tokenises names text items) (bound : Nat) :
    (numbered bound items).takeWhile Char.isDigit = text.takeWhile Char.isDigit := by
  induction h generalizing bound with
  | nil => rfl
  | @char c rest items hc _ ih =>
      rw [numbered_cons_of_ne (by simp), Item.source, List.singleton_append, List.takeWhile_cons,
        List.takeWhile_cons, ih]
  | cast _ _ => rw [numbered_cons_of_ne (by simp)]; rfl
  | colon _ _ _ _ => rw [numbered_cons_of_ne (by simp)]; rfl
  | token _ _ _ _ => rw [numbered_token]; rfl

/-- **Substitution keeps the placeholders of a text and adds the next ones**, one for each name. -/
theorem markers_numbered (hnames : ∀ name ∈ names, '$' ∉ name) (h : Tokenises names text items)
    (bound : Nat) :
    (markers (numbered bound items)).Perm
      (markers text ++ (List.range' (bound + 1) (tokens items).length).map digits) := by
  induction h generalizing bound with
  | nil => exact List.Perm.refl _
  | @char c rest items hc hrest ih =>
      rw [numbered_cons_of_ne (by simp), tokens_cons_of_ne (by simp), Item.source,
        List.singleton_append]
      by_cases hdollar : c = '$'
      · subst hdollar
        rw [markers_dollar, markers_dollar, takeWhile_numbered hrest]
        exact (ih bound).cons _
      · rw [markers_cons_of_ne hdollar, markers_cons_of_ne hdollar]
        exact ih bound
  | cast _ ih =>
      rw [numbered_cons_of_ne (by simp), tokens_cons_of_ne (by simp)]
      exact ih bound
  | colon _ _ _ ih =>
      rw [numbered_cons_of_ne (by simp), tokens_cons_of_ne (by simp)]
      exact ih bound
  | @token name rest items _ hname hrest ih =>
      have hdigits : (numbered (bound + 1) items).takeWhile Char.isDigit = [] := by
        rw [takeWhile_numbered hrest, takeWhile_isDigit_of_eligible hname.eligible]
      -- the name goes away with nothing in it that counts, and its placeholder comes first
      rw [numbered_token, markers_placeholder_append _ hdigits, markers_cons_of_ne (by decide),
        markers_append_of_not_mem (hnames name hname.known), tokens_token, List.length_cons,
        List.range'_succ, List.map_cons]
      exact ((ih (bound + 1)).cons _).trans List.perm_middle.symm

end Substitution

end BoundSql.Sql
