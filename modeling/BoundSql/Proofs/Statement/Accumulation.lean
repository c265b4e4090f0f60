import BoundSql.Proofs.Sql.Renumbering
import BoundSql.Proofs.Statement.Numbering

/-!
# Statements that share their values

Several statements may push their values into one list.  Each of them is then the statement it is by
itself, with every number raised by as many values as were there before.

* `Statement.relocates_fragment` — a statement only changes its numbers, whatever its kind.
* `Statement.bindAll` — the list after several statements.
* **`serializeAll_raised`** — the texts and the list, told from each statement by itself.

In a query the limit and the offset are in the text before names are looked for in it, so the scan
runs over other numbers than it does for the query by itself.
-/

namespace BoundSql

open Sql Fragment NamedParameter

/-! ## Each kind of statement -/

lemma Query.relocates_pagingFragment (q : Query) : Relocates q.pagingFragment := by
  rcases hpaging : q.paging with ⟨limit, offset⟩
  have hlimit : Relocates (Fragment.text " LIMIT ".toList ++ Fragment.bind .limit) :=
    (relocates_bind _).text_append (by decide)
  have hoffset : Relocates (Fragment.text " OFFSET ".toList ++ Fragment.bind .offset) :=
    (relocates_bind _).text_append (by decide)
  simp only [pagingFragment, hpaging]
  refine Relocates.append ?_ ?_ fun bound => ?_
  · split_ifs
    · exact hlimit
    · exact relocates_text (by simp)
  · split_ifs
    · exact hoffset
    · exact relocates_text (by simp)
  · split_ifs <;> rfl

/-- **A query only changes its numbers**, those of its limit and offset and those of its names. -/
lemma Query.relocates_fragment {q : Query} (h : ∀ text ∈ q.texts, '$' ∉ text.toList) :
    Relocates q.fragment := by
  intro bound shift
  have hnames : ∀ name ∈ q.params.names, '$' ∉ name.toList :=
    fun name hname => h name (by simp [texts, hname])
  have hbody : '$' ∉ q.selection ++ q.ordering := by
    rw [List.mem_append, not_or]
    exact ⟨dollar_not_mem_selection h, dollar_not_mem_ordering h⟩
  simp only [fragment, q.relocates_pagingFragment bound shift]
  rw [← raised_append_of_not_mem shift hbody, Nat.add_right_comm bound shift,
    relocates_substitute hnames]

lemma Query.relocates_countFragment {q : Query} (h : ∀ text ∈ q.texts, '$' ∉ text.toList) :
    Relocates q.countFragment := by
  have hunpaged : Relocates q.unpaged.fragment :=
    relocates_fragment fun text htext => h text (mem_texts_of_unpaged htext)
  exact (hunpaged.text_append (by decide)).append (relocates_text (by decide)) fun bound => rfl

/-- **An insertion**: nothing but commas and the closing bracket stands behind a number. -/
lemma Insert.relocates_fragment {i : Insert}
    (h : ∀ text ∈ i.table :: (i.record.names ++ i.returning.toList), '$' ∉ text.toList) :
    Relocates i.fragment := by
  have htable : '$' ∉ i.table.toList := h i.table (by simp)
  have hcolumns : '$' ∉ [',', ' '].intercalate (i.record.names.map String.toList) := by
    apply not_mem_intercalate (by decide)
    intro piece hpiece
    obtain ⟨column, hcolumn, rfl⟩ := List.mem_map.mp hpiece
    exact h column (by simp [hcolumn])
  have hvalues :
      Relocates (commas (i.record.names.map fun name => Fragment.bind (.column name))) := by
    apply Relocates.commas
    intro f hf
    obtain ⟨name, -, rfl⟩ := List.mem_map.mp hf
    exact relocates_bind _
  rw [fragment]
  refine Relocates.append (Relocates.text_append (by simp [htable]) ?_) ?_ fun bound => ?_
  · split_ifs
    · exact relocates_text (by decide)
    · exact (hvalues.text_append (by simp [hcolumns])).append (relocates_text (by decide))
        fun bound => rfl
  · cases hreturning : i.returning with
    | none => exact relocates_text (by simp)
    | some column => exact relocates_text (by simp [h column (by simp [hreturning])])
  · cases i.returning <;> rfl

/-- **An update**: behind a number stands a comma, the condition, or nothing. -/
lemma Update.relocates_fragment {u : Update}
    (h : ∀ text ∈ u.table :: u.idField :: u.patch.names, '$' ∉ text.toList) :
    Relocates u.fragment := by
  have htable : '$' ∉ u.table.toList := h u.table (by simp)
  have hid : '$' ∉ u.idField.toList := h u.idField (by simp)
  have hassignments : Relocates (commas (u.patch.names.map assignment)) := by
    apply Relocates.commas
    intro f hf
    obtain ⟨name, hname, rfl⟩ := List.mem_map.mp hf
    exact (relocates_bind _).text_append (by simp [h name (by simp [hname])])
  have htext : Relocates (text (" WHERE ".toList ++ u.idField.toList ++ " = ".toList)) :=
    relocates_text (by simp [hid])
  have hset : Relocates (text ("UPDATE ".toList ++ u.table.toList ++ " SET ".toList) ++
      commas (u.patch.names.map assignment)) := hassignments.text_append (by simp [htable])
  exact (hset.append htext fun bound => rfl).append (relocates_bind .id) fun bound => rfl

lemma Delete.relocates_fragment {d : Delete}
    (h : ∀ text ∈ [d.table, d.idField], '$' ∉ text.toList) :
    Relocates d.fragment := by
  have htable : '$' ∉ d.table.toList := h d.table (by simp)
  have hid : '$' ∉ d.idField.toList := h d.idField (by simp)
  exact (relocates_bind .id).text_append (by simp [htable, hid])

namespace Statement

/-- **A statement after more values** is the statement with its numbers raised. -/
theorem relocates_fragment {s : Statement} (h : ∀ text ∈ s.texts, '$' ∉ text.toList) :
    Relocates s.fragment := by
  cases s with
  | query q => exact Query.relocates_fragment h
  | count q => exact Query.relocates_countFragment h
  | insert i => exact Insert.relocates_fragment h
  | update u => exact Update.relocates_fragment h
  | delete d => exact Delete.relocates_fragment h

/-! ## Several statements -/

/-- The values that are bound after several statements. -/
def bindAll (bound : List Value) (statements : List Statement) : List Value :=
  statements.foldl (fun bound s => (s.serialize bound).2) bound

/-- **A statement in a list of values**, told from the statement by itself. -/
lemma serialize_eq_raised {s : Statement} (h : ∀ text ∈ s.texts, '$' ∉ text.toList)
    (bound : List Value) :
    s.serialize bound =
      (String.ofList (raised bound.length s.compile.text.toList), bound ++ s.compile.params) := by
  have hshift := relocates_fragment h 0 bound.length
  rw [Nat.zero_add] at hshift
  simp only [compile, serialize, hshift, List.length_nil, List.nil_append, String.toList_ofList]

lemma bindAll_eq_append {statements : List Statement}
    (h : ∀ s ∈ statements, ∀ text ∈ s.texts, '$' ∉ text.toList) (bound : List Value) :
    bindAll bound statements = bound ++ statements.flatMap fun s => s.compile.params := by
  induction statements generalizing bound with
  | nil => simp [bindAll]
  | cons s rest ih =>
      have hs := h s List.mem_cons_self
      have hrest := ih (fun t ht => h t (List.mem_cons_of_mem _ ht)) (bound ++ s.compile.params)
      rw [bindAll] at hrest ⊢
      rw [List.foldl_cons, serialize_eq_raised hs, hrest, List.flatMap_cons, List.append_assoc]

/-- **Statements that share their values.**  When several statements have pushed their values into
one list, it holds what it held before and then the values of each statement by itself, in order.
The text of each is its text by itself, with every number raised by the length of the list just
before it. -/
theorem serializeAll_raised (statements : List Statement)
    (h : ∀ s ∈ statements, ∀ text ∈ s.texts, '$' ∉ text.toList) (bound : List Value) :
    bindAll bound statements = bound ++ (statements.flatMap fun s => s.compile.params) ∧
      serializeAll bound statements = statements.mapIdx fun i s =>
        (String.ofList
            (raised (bindAll bound (statements.take i)).length s.compile.text.toList),
          bindAll bound (statements.take (i + 1))) := by
  refine ⟨bindAll_eq_append h bound, ?_⟩
  induction statements generalizing bound with
  | nil => rfl
  | cons s rest ih =>
      have hs : s.serialize bound =
          (String.ofList (raised bound.length s.compile.text.toList), (s.serialize bound).2) := by
        rw [serialize_eq_raised (h s List.mem_cons_self)]
      have hrest := ih (fun t ht => h t (List.mem_cons_of_mem _ ht)) (s.serialize bound).2
      rw [serializeAll, hrest, List.mapIdx_cons]
      exact congrArg (· :: _) hs

/-- After eight values the limit of the first statement has one digit and its offset has two, and a
name with a space in it reaches up to the limit. -/
theorem serializeAll_raised_tenth :
    let q := (((Query.ofTable "t").filter "a = :a b").page 1 20).param "a b" (.bool true)
    let statements := [.query q, .count q, .update ⟨"t", "id", .int64 1, Record.empty.insert "c" .null⟩]
    let bound := List.replicate 8 Value.null
    (∀ s ∈ statements, ∀ text ∈ s.texts, '$' ∉ text.toList) ∧
      bindAll bound statements = bound ++ (statements.flatMap fun s => s.compile.params) ∧
      serializeAll bound statements = statements.mapIdx fun i s =>
        (String.ofList
            (raised (bindAll bound (statements.take i)).length s.compile.text.toList),
          bindAll bound (statements.take (i + 1))) := by
  intro q statements bound
  have htexts : ∀ s ∈ statements, ∀ text ∈ s.texts, '$' ∉ text.toList := by decide
  exact ⟨htexts, serializeAll_raised statements htexts bound⟩

end Statement

end BoundSql
