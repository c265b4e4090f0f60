import BoundSql.Proofs.Sql.Renumbering

/-!
# What substitution leaves

Where a name is replaced the text changes, and what stands in front of it is then followed by a
placeholder.  A colon there could become one of a pair, and a name could end where it did not end
before.  Neither happens, so there is nothing left to replace.

* `SameFront` — two texts are the same up to a place where the one goes on with a colon and the other
  with a dollar sign; text and result are, up to the first name that is taken.
* `SameFront.eligible` — so no name can be taken in the result that could not be taken in the text.
* **`Tokenises.exists_numbered`** — the result is cut into items without a name among them.

Names have no dollar sign here.
-/

namespace BoundSql.Sql.NamedParameter

/-- **Two texts are the same up to a name that is replaced**: where they differ first, the one goes on
with a colon and the other with a dollar sign. -/
inductive SameFront : List Char → List Char → Prop where
  | same (front : List Char) : SameFront front front
  | replaced (front rest rest' : List Char) :
      SameFront (front ++ ':' :: rest) (front ++ '$' :: rest')

section Leftover

variable {names : List (List Char)} {text written name : List Char} {items : List Item}

lemma SameFront.append (h : SameFront text written) (piece : List Char) :
    SameFront (piece ++ text) (piece ++ written) := by
  cases h with
  | same => exact .same _
  | replaced front rest rest' =>
      rw [← List.append_assoc, ← List.append_assoc]
      exact .replaced _ _ _

lemma SameFront.head?_ne_colon (h : SameFront text written) (hhead : text.head? ≠ some ':') :
    written.head? ≠ some ':' := by
  cases h with
  | same => exact hhead
  | replaced front _ _ =>
      cases front with
      | nil => exact absurd rfl hhead
      | cons c front => exact hhead

lemma SameFront.ne_nil (h : SameFront text written) (hne : text ≠ []) : written ≠ [] := by
  cases h with
  | same => exact hne
  | replaced => simp

/-- **No name can be taken in the result that could not be taken in the text.**  A name that ends in
front of the dollar sign ends in front of the colon as well. -/
lemma SameFront.eligible (h : SameFront text written) (hname : '$' ∉ name)
    (heligible : Eligible written name) : Eligible text name := by
  cases h with
  | same => exact heligible
  | replaced front rest rest' =>
      have hbreaks : Breaks [name] ('$' :: rest') := by
        intro c hc
        obtain rfl := Option.some.inj hc
        exact ⟨by decide, by decide, by simpa using hname⟩
      obtain ⟨hne, after, rfl, hafter⟩ :=
        (hbreaks.eligible_append_iff List.mem_cons_self).mp heligible
      refine ⟨hne, after ++ ':' :: rest, by simp, ?_⟩
      cases after with
      | nil =>
          intro c hc
          obtain rfl := Option.some.inj hc
          decide
      | cons d after => exact hafter

/-- Text and result are the same up to the first name that is taken. -/
lemma Tokenises.sameFront (h : Tokenises names text items) (bound : Nat) :
    SameFront text (numbered bound items) := by
  induction h with
  | nil => exact .same []
  | @char c _ _ _ _ ih =>
      rw [numbered_cons_of_ne (by simp)]
      exact ih.append [c]
  | cast _ ih =>
      rw [numbered_cons_of_ne (by simp)]
      exact ih.append [':', ':']
  | colon _ _ _ ih =>
      rw [numbered_cons_of_ne (by simp)]
      exact ih.append [':']
  | token _ _ _ _ =>
      rw [numbered_token]
      exact .replaced [] _ _

/-- **There is nothing left to replace**: the result is cut into items without a name among them. -/
theorem Tokenises.exists_numbered (hnames : ∀ known ∈ names, '$' ∉ known)
    (h : Tokenises names text items) (bound : Nat) :
    ∃ items', Tokenises names (numbered bound items) items' ∧ tokens items' = [] := by
  induction h generalizing bound with
  | nil => exact ⟨[], .nil, rfl⟩
  | @char c _ _ hc _ ih =>
      obtain ⟨items', hitems, htokens⟩ := ih bound
      rw [numbered_cons_of_ne (by simp)]
      exact ⟨.char c :: items', .char hc hitems, htokens⟩
  | cast _ ih =>
      obtain ⟨items', hitems, htokens⟩ := ih bound
      rw [numbered_cons_of_ne (by simp)]
      exact ⟨.cast :: items', .cast hitems, htokens⟩
  | @colon rest _ hhead hnone hrest ih =>
      obtain ⟨items', hitems, htokens⟩ := ih bound
      have hfront := hrest.sameFront bound
      rw [numbered_cons_of_ne (by simp)]
      refine ⟨.colon :: items', .colon (hfront.head?_ne_colon hhead) ?_ hitems, htokens⟩
      intro name hname heligible
      exact hnone name hname (hfront.eligible (hnames name hname) heligible)
  | token _ _ _ ih =>
      obtain ⟨items', hitems, htokens⟩ := ih (bound + 1)
      rw [numbered_token]
      refine ⟨(placeholder (bound + 1)).map .char ++ items',
        hitems.map_char_append (colon_not_mem_placeholder _), ?_⟩
      rw [tokens_map_char_append, htokens]

end Leftover

end BoundSql.Sql.NamedParameter
