import BoundSql.Proofs.Sql.Leftover
import BoundSql.Proofs.Sql.Mention
import BoundSql.Proofs.Statement.Counting

/-!
# The text before its names are replaced

A query is put together as one text, its limit at the end, and this text is then scanned for names.
What the scan does to a text it does to a query.

* `Query.body` — the text that is scanned.
* `serialize_of_tokenises` — what is sent, told from the items of this text.
* `serialize_params` — parameters that agree on what the text mentions give one statement.
* **`compile_params`** — so the others make no difference, and neither does the order of the
  parameters.
* **`compile_ofRaw_compile`** — what is sent stays as it is when it is compiled once more.
-/

namespace BoundSql

open Sql NamedParameter

namespace Query

/-- **The text of a query before its names are replaced**, where `bound` values are there already. -/
def body (q : Query) (bound : Nat) : List Char :=
  q.selection ++ q.ordering ++ (q.pagingFragment bound).text

/-- **A query as it is sent**, told from the items of its text. -/
lemma serialize_of_tokenises {q : Query} {items : List Item} (bound : List Value)
    (h : Tokenises q.names (q.body bound.length) items) :
    (Statement.query q).serialize bound =
      (String.ofList (numbered (bound.length + q.pagingSlots.length) items),
        bound ++ (q.pagingValues ++ (parameterSlots items).map q.read)) := by
  have hslots : (q.pagingFragment bound.length).slots = q.pagingSlots := by
    rw [pagingFragment_apply]
  simp only [Statement.serialize, Statement.fragment, Statement.read, fragment]
  rw [← body, hslots, substitute_eq h, List.map_append, map_read_pagingSlots, parameterSlots]

lemma not_mem_of_mem_names {q : Query} {c : Char}
    (h : ∀ name ∈ q.params.names, c ∉ name.toList) : ∀ name ∈ q.names, c ∉ name := by
  intro name hname
  obtain ⟨known, hknown, rfl⟩ := List.mem_map.mp hname
  exact h known hknown

lemma compile_of_serialize {q : Query} {text : String} {values : List Value}
    (h : (Statement.query q).serialize [] = (text, values)) : q.compile = ⟨text, values⟩ := by
  rw [compile, Statement.compile, h]

/-! ## Parameters that are not mentioned -/

lemma mem_map_toList_iff {names : List String} {name : List Char} :
    name ∈ names.map String.toList ↔ String.ofList name ∈ names := by
  rw [List.mem_map]
  constructor
  · rintro ⟨known, hknown, rfl⟩
    rwa [String.ofList_toList]
  · intro h
    exact ⟨_, h, String.toList_ofList⟩

section Params

variable {q : Query} {params params' : Record}

/-- **Parameters that agree on what the text mentions** give one text and one list of values. -/
lemma serialize_params (bound : List Value)
    (h : ∀ name : String, Mentions (q.body bound.length) name.toList →
      params.get? name = params'.get? name) :
    (Statement.query { q with params := params }).serialize bound =
      (Statement.query { q with params := params' }).serialize bound := by
  have hvalue (name : List Char) (hname : Mentions (q.body bound.length) name) :
      params.get? (String.ofList name) = params'.get? (String.ofList name) :=
    h _ (by rwa [String.toList_ofList])
  have hagree : AgreeOn (q.body bound.length) (params.names.map String.toList)
      (params'.names.map String.toList) := by
    intro name hname
    rw [mem_map_toList_iff, mem_map_toList_iff, Record.mem_names_iff, Record.mem_names_iff,
      hvalue name hname]
  have hscan := tokenises_scan (params.names.map String.toList) (q.body bound.length)
  generalize scan (params.names.map String.toList) (q.body bound.length) = items at hscan
  have hvalues : (parameterSlots items).map (read { q with params := params }) =
      (parameterSlots items).map (read { q with params := params' }) :=
    map_read_parameterSlots fun name hname => hvalue name (hscan.mentions_of_mem_tokens hname)
  rw [serialize_of_tokenises (q := { q with params := params }) bound hscan,
    serialize_of_tokenises (q := { q with params := params' }) bound (hscan.congr hagree), hvalues]
  rfl

lemma compile_congr_params
    (h : ∀ name : String, Mentions (q.body 0) name.toList → params.get? name = params'.get? name) :
    ({ q with params := params } : Query).compile =
      ({ q with params := params' } : Query).compile := by
  rw [compile, compile, Statement.compile, Statement.compile, serialize_params [] h]

end Params

/-- **Only the parameters that a query mentions count.**  With parameters that agree on every name
behind a colon in its text, the query has one text and one list of values.  So the order of the
parameters does not show, and neither does a parameter, new or changed, that is not mentioned. -/
theorem compile_params (q : Query) (params : Record) :
    (∀ params' : Record,
      (∀ name : String, Mentions (q.body 0) name.toList → params.get? name = params'.get? name) →
        ({ q with params := params } : Query).compile =
          ({ q with params := params' } : Query).compile) ∧
    (∀ params' : Record, params.entries.Perm params'.entries →
      ({ q with params := params } : Query).compile =
        ({ q with params := params' } : Query).compile) ∧
    ∀ (name : String) (value : Value), ¬ Mentions (q.body 0) name.toList →
      ({ q with params := params.insert name value } : Query).compile =
        ({ q with params := params } : Query).compile := by
  refine ⟨fun params' h => compile_congr_params h, fun params' h => ?_, fun name value h => ?_⟩
  · exact compile_congr_params fun name _ => Record.get?_eq_of_perm h name
  · apply compile_congr_params
    intro other hother
    rw [Record.get?_insert, if_neg]
    rintro rfl
    exact h hother

/-- The parameter `x` is new and not mentioned; the other two come in either order. -/
theorem compile_params_unused :
    let q := (Query.ofTable "t").filter "a::int = :id2 OR b = :id"
    let params := (Record.empty.insert "id" (.int64 1)).insert "id2" (.text "2")
    let params' := (Record.empty.insert "id2" (.text "2")).insert "id" (.int64 1)
    ((∀ name : String, Mentions (q.body 0) name.toList →
        params.get? name = (params.insert "x" .null).get? name) ∧
      params.entries.Perm params'.entries ∧ ¬ Mentions (q.body 0) "x".toList) ∧
    ({ q with params := params } : Query).compile =
      ({ q with params := params.insert "x" .null } : Query).compile ∧
    ({ q with params := params } : Query).compile = ({ q with params := params' } : Query).compile ∧
    ({ q with params := Record.empty.insert "x" .null } : Query).compile =
      ({ q with params := Record.empty } : Query).compile := by
  intro q params params'
  have hletter : 'x' ∉ q.body 0 := by decide
  have hunused : ¬ Mentions (q.body 0) "x".toList := fun h => hletter (h.subset (by decide))
  have hperm : params.entries.Perm params'.entries := .swap _ _ _
  have hagree : ∀ name : String, Mentions (q.body 0) name.toList →
      params.get? name = (params.insert "x" .null).get? name := by
    intro name hname
    have hne : name ≠ "x" := by
      rintro rfl
      exact hunused hname
    rw [Record.get?_insert params, if_neg hne]
  exact ⟨⟨hagree, hperm, hunused⟩, (compile_params q params).1 _ hagree,
    (compile_params q params).2.1 _ hperm, (compile_params q Record.empty).2.2 _ _ hunused⟩

/-! ## Compiling once more -/

lemma given?_some {s : String} (h : s.toList ≠ []) : given? (some s) = some s.toList := if_neg h

lemma ne_nil_of_given? {s : Option String} {text : List Char} (h : given? s = some text) :
    text ≠ [] := by
  cases s with
  | none => simp [given?] at h
  | some t =>
      rw [given?] at h
      split_ifs at h with hempty
      obtain rfl := Option.some.inj h
      exact hempty

/-- A query always selects something. -/
lemma selection_ne_nil (q : Query) : q.selection ≠ [] := by
  rw [selection]
  cases hraw : given? q.queryText with
  | none => simp
  | some raw =>
      have hne := ne_nil_of_given? hraw
      simp only
      split_ifs
      · exact hne
      · simp

/-- A raw text with parameters and nothing else is scanned as it is. -/
lemma body_ofRaw {text : String} (h : text.toList ≠ []) (params : Record) (bound : Nat) :
    ({ ofRaw text with params := params } : Query).body bound = text.toList := by
  have hnone : given? none = none := rfl
  simp [body, selection, ordering, pagingFragment_apply, pagingSlots, paging, ofRaw, given?_some h,
    hnone]

/-- **Compiling once more changes nothing.**  What a query was sent as, compiled as a raw text with
the same parameters, is sent as it is and binds no value. -/
theorem compile_ofRaw_compile (q : Query) (h : ∀ name ∈ q.params.names, '$' ∉ name.toList) :
    ({ ofRaw q.compile.text with params := q.params } : Query).compile =
      ⟨q.compile.text, []⟩ := by
  have hnames := not_mem_of_mem_names h
  have hscan := tokenises_scan q.names (q.body 0)
  generalize scan q.names (q.body 0) = items at hscan
  obtain ⟨items', hitems, htokens⟩ := hscan.exists_numbered hnames (0 + q.pagingSlots.length)
  have htext : q.compile.text.toList = numbered (0 + q.pagingSlots.length) items := by
    rw [compile_of_serialize (serialize_of_tokenises [] hscan), String.toList_ofList]
    rfl
  have hne : q.compile.text.toList ≠ [] := by
    rw [htext]
    refine (hscan.sameFront _).ne_nil ?_
    rw [body, List.append_assoc]
    exact List.append_ne_nil_of_left_ne_nil q.selection_ne_nil _
  rw [← htext, ← body_ofRaw hne q.params 0] at hitems
  have hsame := hitems.flatMap_source
  rw [body_ofRaw hne] at hsame
  rw [compile_of_serialize (serialize_of_tokenises [] hitems),
    numbered_eq_flatMap_source htokens, hsame, String.ofList_toList, parameterSlots, htokens]
  rfl

/-- A colon and a cast that are left in the text, a name with a colon in it, and a limit. -/
theorem compile_ofRaw_compile_page :
    let q := (((Query.ofTable "t").filter "a = :a:b OR c = ::a :d").page 1 20).param "a" (.text "1")
      |>.param "a:b" .null
    (∀ name ∈ q.params.names, '$' ∉ name.toList) ∧
      ({ ofRaw q.compile.text with params := q.params } : Query).compile = ⟨q.compile.text, []⟩ := by
  intro q
  have hnames : ∀ name ∈ q.params.names, '$' ∉ name.toList := by decide
  exact ⟨hnames, compile_ofRaw_compile q hnames⟩

end Query

end BoundSql
