import BoundSql.Proofs.Sql.Tokenisation

/-!
# Names that a text mentions

A name that a text does not have behind a colon cannot be taken in it.  So the text is cut in the
same way whether such a name is known or not, and in whatever order the names are known.

* `Mentions` — a text has a name behind a colon.
* **`Tokenises.congr`** — names that agree on what is mentioned cut the text in the same way.
* `Tokenises.mentions_of_mem_tokens` — what is taken is mentioned.

The converse of the last one fails: a name that is mentioned may stand in a cast, inside a longer
name, or at the front of a word.
-/

namespace BoundSql.Sql.NamedParameter

/-- **A text mentions a name**: somewhere it has the name behind a colon. -/
def Mentions (text name : List Char) : Prop := (':' :: name) <:+: text

/-- **Two lists of names agree on what a text mentions.** -/
def AgreeOn (text : List Char) (names names' : List (List Char)) : Prop :=
  ∀ name, Mentions text name → (name ∈ names ↔ name ∈ names')

section Agreement

variable {names names' : List (List Char)} {text rest name : List Char} {items : List Item}

lemma Mentions.of_suffix (h : Mentions rest name) (hsuffix : rest <:+ text) : Mentions text name :=
  List.IsInfix.trans h hsuffix.isInfix

lemma AgreeOn.of_suffix (h : AgreeOn text names names') (hsuffix : rest <:+ text) :
    AgreeOn rest names names' :=
  fun name hname => h name (hname.of_suffix hsuffix)

/-- A name that may be taken behind a colon is mentioned. -/
lemma Eligible.mentions (h : Eligible text name) : Mentions (':' :: text) name := by
  obtain ⟨-, rest, rfl, -⟩ := h
  exact ⟨[], rest, by simp⟩

lemma Longest.congr (h : Longest names text name) (hagree : AgreeOn (':' :: text) names names') :
    Longest names' text name where
  known := (hagree name h.eligible.mentions).mp h.known
  eligible := h.eligible
  le other hother heligible :=
    h.le other ((hagree other heligible.mentions).mpr hother) heligible

/-- **Names that agree on what is mentioned cut the text in the same way.** -/
theorem Tokenises.congr (h : Tokenises names text items) (hagree : AgreeOn text names names') :
    Tokenises names' text items := by
  induction h with
  | nil => exact .nil
  | char hc _ ih => exact .char hc (ih (hagree.of_suffix (List.suffix_cons _ _)))
  | @cast rest _ _ ih => exact .cast (ih (hagree.of_suffix ⟨[':', ':'], rfl⟩))
  | @colon rest _ hhead hnone _ ih =>
      refine .colon hhead (fun name hname heligible => ?_)
        (ih (hagree.of_suffix (List.suffix_cons _ _)))
      exact hnone name ((hagree name heligible.mentions).mpr hname) heligible
  | @token name rest _ hhead hname _ ih =>
      exact .token hhead (hname.congr hagree) (ih (hagree.of_suffix ⟨':' :: name, rfl⟩))

/-- **What is taken is mentioned.** -/
lemma Tokenises.mentions_of_mem_tokens (h : Tokenises names text items)
    (hname : name ∈ tokens items) : Mentions text name := by
  induction h with
  | nil => simp at hname
  | char _ _ ih => exact (ih hname).of_suffix (List.suffix_cons _ _)
  | cast _ ih => exact (ih hname).of_suffix ⟨[':', ':'], rfl⟩
  | colon _ _ _ ih => exact (ih hname).of_suffix (List.suffix_cons _ _)
  | @token taken rest _ _ htaken _ ih =>
      rw [tokens_token] at hname
      rcases List.mem_cons.mp hname with rfl | hname
      · exact htaken.eligible.mentions
      · exact (ih hname).of_suffix ⟨':' :: taken, rfl⟩

end Agreement

end BoundSql.Sql.NamedParameter
