import BoundSql.Proofs.Sql.Marker
import BoundSql.Proofs.Statement.Source

/-!
# Placeholders and values line up

After `k` values a statement that pushes `m` of them has the placeholders `k + 1` to `k + m`, each in
one place.

* `Statement.texts` — what the author of a statement wrote: its texts and the names of its values.
* `markers_query`, `markers_insert`, `markers_update`, `markers_delete` — the placeholders of each
  kind of statement, if no text has a dollar sign of its own.
* `Statement.Paired` — which column or key stands beside which placeholder.
* **`serialize_numbered`** — all of this for any statement, after any values.

In a query the placeholders are not in the order of the text: those of limit and offset come last
and have the first numbers.
-/

namespace BoundSql

open Sql Decimal NamedParameter

/-! ## What the author of a statement wrote -/

/-- The texts of a query, and the names of its parameters. -/
def Query.texts (q : Query) : List String :=
  q.table.toList ++ q.queryText.toList ++ q.whereClause.toList ++ q.fields ++ q.sortBy ++
    q.params.names

/-- **The texts of a statement**, and the names of its columns and parameters. -/
def Statement.texts : Statement → List String
  | query q | count q => q.texts
  | insert i => i.table :: (i.record.names ++ i.returning.toList)
  | update u => u.table :: u.idField :: u.patch.names
  | delete d => [d.table, d.idField]

lemma not_mem_intercalate {c : Char} {sep : List Char} (hsep : c ∉ sep) {pieces : List (List Char)}
    (h : ∀ piece ∈ pieces, c ∉ piece) : c ∉ sep.intercalate pieces := by
  induction pieces with
  | nil => simp
  | cons piece rest ih =>
      have hpiece := h piece List.mem_cons_self
      have hrest := ih fun p hp => h p (List.mem_cons_of_mem _ hp)
      cases rest with
      | nil => rwa [List.intercalate_singleton]
      | cons next more =>
          rw [List.intercalate_cons_cons, List.mem_append, List.mem_append, not_or, not_or]
          exact ⟨⟨hpiece, hsep⟩, hrest⟩

namespace Query

variable {q : Query}

lemma dollar_not_mem_given? {s : Option String} (h : ∀ t ∈ s.toList, '$' ∉ t.toList)
    {text : List Char} (ht : given? s = some text) : '$' ∉ text := by
  cases s with
  | none => simp [given?] at ht
  | some t =>
      have htext := h t (by simp)
      rw [given?] at ht
      split_ifs at ht with hempty
      obtain rfl := Option.some.inj ht
      exact htext

lemma dollar_not_mem_projection {fields : List String} (h : ∀ field ∈ fields, '$' ∉ field.toList) :
    '$' ∉ projection fields := by
  rw [projection]
  split_ifs
  · decide
  · apply not_mem_intercalate (by decide)
    intro piece hpiece
    obtain ⟨field, hfield, rfl⟩ := List.mem_map.mp hpiece
    have hf := h field hfield
    simp [aliased, hf]

lemma dollar_not_mem_sortEntry {entry : String} (h : '$' ∉ entry.toList) :
    '$' ∉ sortEntry entry := by
  have hcolumn : '$' ∉ entry.toList.takeWhile (· ≠ '|') :=
    fun hm => h ((List.takeWhile_prefix _).subset hm)
  have hdirection : '$' ∉ entry.toList.dropWhile (· ≠ '|') :=
    fun hm => h ((List.dropWhile_suffix _).subset hm)
  rw [sortEntry]
  cases hd : entry.toList.dropWhile (· ≠ '|') with
  | nil => simpa [hd] using hcolumn
  | cons bar direction =>
      rw [hd, List.mem_cons, not_or] at hdirection
      simp only [List.mem_append, List.mem_cons, not_or]
      exact ⟨hcolumn, by decide, hdirection.2⟩

lemma dollar_not_mem_selection (h : ∀ text ∈ q.texts, '$' ∉ text.toList) : '$' ∉ q.selection := by
  have hprojection : '$' ∉ projection q.fields :=
    dollar_not_mem_projection fun field hfield => h field (by simp [texts, hfield])
  have htable : '$' ∉ (q.table.getD "").toList := by
    cases ht : q.table with
    | none => decide
    | some table => exact h table (by simp [texts, ht])
  have hraw (raw : List Char) (hr : given? q.queryText = some raw) : '$' ∉ raw :=
    dollar_not_mem_given? (fun t ht => h t (by simp [texts, ht])) hr
  have hclause (clause : List Char) (hc : given? q.whereClause = some clause) : '$' ∉ clause :=
    dollar_not_mem_given? (fun t ht => h t (by simp [texts, ht])) hc
  rw [selection]
  cases hw : given? q.whereClause with
  | none =>
      cases hq : given? q.queryText with
      | none => simp [hprojection, htable]
      | some raw =>
          by_cases hfields : q.fields.isEmpty
          · simp [hfields, hraw raw hq]
          · simp [hfields, hprojection, hraw raw hq]
  | some clause =>
      cases hq : given? q.queryText with
      | none => simp [hprojection, htable, hclause clause hw]
      | some raw => simp [hprojection, hraw raw hq, hclause clause hw]

lemma dollar_not_mem_ordering (h : ∀ text ∈ q.texts, '$' ∉ text.toList) : '$' ∉ q.ordering := by
  rw [ordering]
  split_ifs
  · simp
  · rw [List.mem_append, not_or]
    refine ⟨by decide, not_mem_intercalate (by decide) ?_⟩
    intro piece hpiece
    obtain ⟨entry, hentry, rfl⟩ := List.mem_map.mp hpiece
    exact dollar_not_mem_sortEntry (h entry (by simp [texts, hentry]))

/-! ## The placeholders of each kind of statement -/

/-- The end of a query has the placeholders of limit and offset, in this order. -/
lemma markers_paging (q : Query) (bound : Nat) :
    markers (q.pagingFragment bound).text =
      (List.range' (bound + 1) q.pagingSlots.length).map digits := by
  rw [pagingFragment_apply, pagingSlots]
  cases q.paging.1.isSome with
  | false =>
      cases q.paging.2.isSome with
      | false => rfl
      | true =>
          exact (markers_append_of_not_mem (a := " OFFSET ".toList) (by decide) _).trans
            (markers_placeholder _)
  | true =>
      cases q.paging.2.isSome with
      | false =>
          simp only [if_true, Bool.false_eq_true, if_false, List.append_nil]
          exact (markers_append_of_not_mem (by decide) _).trans (markers_placeholder _)
      | true =>
          simp only [if_true, List.append_assoc]
          rw [markers_append_of_not_mem (by decide), markers_placeholder_append _ rfl,
            markers_append_of_not_mem (by decide), markers_placeholder]
          rfl

/-- **A query** has the placeholders of limit and offset and behind them those of its parameters,
wherever they stand in its text. -/
lemma markers_query (h : ∀ text ∈ q.texts, '$' ∉ text.toList) (bound : Nat) :
    (markers (q.fragment bound).text).Perm
      ((List.range' (bound + 1) (q.fragment bound).slots.length).map digits) := by
  have hnames : ∀ name ∈ q.params.names.map String.toList, '$' ∉ name := by
    intro name hname
    obtain ⟨known, hknown, rfl⟩ := List.mem_map.mp hname
    exact h known (by simp [texts, hknown])
  have hbody : '$' ∉ q.selection ++ q.ordering := by
    rw [List.mem_append, not_or]
    exact ⟨dollar_not_mem_selection h, dollar_not_mem_ordering h⟩
  have hscan := tokenises_scan (q.params.names.map String.toList)
    (q.selection ++ q.ordering ++ (q.pagingFragment bound).text)
  have hslots : (q.pagingFragment bound).slots = q.pagingSlots := by rw [pagingFragment_apply]
  -- the end of the query is scanned with the rest, its placeholders are already in the text
  have hperm := markers_numbered hnames hscan (bound + q.pagingSlots.length)
  rw [markers_append_of_not_mem hbody, markers_paging, ← List.map_append] at hperm
  rw [fragment, hslots, substitute_eq hscan]
  refine hperm.trans (List.Perm.of_eq ?_)
  rw [List.length_append, List.length_map, ← List.range'_append_1, Nat.add_right_comm]

/-- What is counted has no texts of its own. -/
lemma mem_texts_of_unpaged {text : String} (h : text ∈ q.unpaged.texts) : text ∈ q.texts := by
  simp only [texts, unpaged, List.mem_append, List.not_mem_nil, or_false] at h ⊢
  exact h.imp_left Or.inl

/-- **A count** has the placeholders of what it counts. -/
lemma markers_count (h : ∀ text ∈ q.texts, '$' ∉ text.toList) (bound : Nat) :
    (markers (q.countFragment bound).text).Perm
      ((List.range' (bound + 1) (q.countFragment bound).slots.length).map digits) := by
  have hunpaged : ∀ text ∈ q.unpaged.texts, '$' ∉ text.toList :=
    fun text htext => h text (mem_texts_of_unpaged htext)
  have htext : (q.countFragment bound).text =
      "SELECT COUNT(*) AS count FROM (".toList ++
        ((q.unpaged.fragment bound).text ++ ") AS T".toList) := by
    simp [countFragment, Fragment.append_apply]
  rw [htext, q.slots_countFragment, markers_append_of_not_mem (by decide), markers_append _ rfl,
    markers_of_not_mem (a := ") AS T".toList) (by decide), List.append_nil]
  exact markers_query hunpaged bound

end Query

/-- **An insertion** has one placeholder for each column. -/
lemma markers_insert {i : Insert}
    (h : ∀ text ∈ i.table :: (i.record.names ++ i.returning.toList), '$' ∉ text.toList)
    (bound : Nat) :
    markers (i.fragment bound).text =
      (List.range' (bound + 1) (i.fragment bound).slots.length).map digits := by
  have htable : '$' ∉ i.table.toList := h i.table (by simp)
  have hreturning : '$' ∉ i.returningText := by
    rw [Insert.returningText]
    cases hr : i.returning with
    | none => simp
    | some column => simp [h column (by simp [hr])]
  cases hempty : i.record.isEmpty with
  | true =>
      rw [Insert.fragment_of_isEmpty hempty]
      apply markers_of_not_mem
      simp [htable, hreturning]
  | false =>
      have hcolumns : '$' ∉ [',', ' '].intercalate (i.record.names.map String.toList) := by
        apply not_mem_intercalate (by decide)
        intro piece hpiece
        obtain ⟨column, hcolumn, rfl⟩ := List.mem_map.mp hpiece
        exact h column (by simp [hcolumn])
      have hcommas := @markers_commas _ (fun _ => []) i.record.names (by simp) bound
        (")".toList ++ i.returningText) rfl
      rw [Insert.fragment_of_ne hempty]
      simp only [List.append_assoc]
      rw [markers_append_of_not_mem (by decide), markers_append_of_not_mem htable,
        markers_append_of_not_mem (by decide), markers_append_of_not_mem hcolumns,
        markers_append_of_not_mem (by decide)]
      refine hcommas.trans ?_
      rw [markers_append_of_not_mem (by decide), markers_of_not_mem hreturning, List.append_nil,
        List.length_map]

/-- **An update** has one placeholder for each column, and one for the key. -/
lemma markers_update {u : Update}
    (h : ∀ text ∈ u.table :: u.idField :: u.patch.names, '$' ∉ text.toList) (bound : Nat) :
    markers (u.fragment bound).text =
      (List.range' (bound + 1) (u.fragment bound).slots.length).map digits := by
  have htable : '$' ∉ u.table.toList := h u.table (by simp)
  have hid : '$' ∉ u.idField.toList := h u.idField (by simp)
  have hlabel : ∀ name ∈ u.patch.names, '$' ∉ name.toList ++ " = ".toList := by
    intro name hname
    simp [h name (by simp [hname])]
  have hcommas := @markers_commas _ (fun name => name.toList ++ " = ".toList) u.patch.names hlabel
    bound (" WHERE ".toList ++ (u.idField.toList ++ (" = ".toList ++
      placeholder (bound + u.patch.names.length + 1)))) rfl
  have hkey : markers (" WHERE ".toList ++ (u.idField.toList ++ (" = ".toList ++
      placeholder (bound + u.patch.names.length + 1)))) =
        [digits (bound + 1 + u.patch.names.length)] := by
    rw [markers_append_of_not_mem (by decide), markers_append_of_not_mem hid,
      markers_append_of_not_mem (by decide), markers_placeholder, Nat.add_right_comm]
  rw [hkey] at hcommas
  rw [u.fragment_apply]
  simp only [List.append_assoc] at hcommas ⊢
  rw [markers_append_of_not_mem (by decide), markers_append_of_not_mem htable,
    markers_append_of_not_mem (by decide), hcommas, List.length_append, List.length_map,
    List.length_singleton, List.range'_1_concat, List.map_append]
  rfl

/-- **A deletion** has one placeholder, for the key. -/
lemma markers_delete {d : Delete} (h : ∀ text ∈ [d.table, d.idField], '$' ∉ text.toList)
    (bound : Nat) :
    markers (d.fragment bound).text =
      (List.range' (bound + 1) (d.fragment bound).slots.length).map digits := by
  have htable : '$' ∉ d.table.toList := h d.table (by simp)
  have hid : '$' ∉ d.idField.toList := h d.idField (by simp)
  rw [d.fragment_apply]
  simp only [List.append_assoc]
  rw [markers_append_of_not_mem (by decide), markers_append_of_not_mem htable,
    markers_append_of_not_mem (by decide), markers_append_of_not_mem hid,
    markers_append_of_not_mem (by decide), markers_placeholder]
  rfl

/-! ## Columns, keys and their placeholders -/

namespace Statement

/-- **Columns and keys beside their placeholders**, in the text of a statement after `bound` values
and in the values it pushes. -/
def Paired (bound : Nat) (text : List Char) (pushed : List Value) : Statement → Prop
  | query _ | count _ => True
  | insert i =>
    i.record.isEmpty = false →
      text = "INSERT INTO ".toList ++ i.table.toList ++ " (".toList ++
          [',', ' '].intercalate (i.record.names.map String.toList) ++ ") VALUES (".toList ++
          [',', ' '].intercalate (i.record.names.mapIdx fun j _ => placeholder (bound + j + 1)) ++
          ")".toList ++ i.returningText ∧
        pushed.map some = i.record.names.map i.record.get?
  | update u =>
    text = "UPDATE ".toList ++ u.table.toList ++ " SET ".toList ++
        [',', ' '].intercalate (u.patch.names.mapIdx fun j name =>
          name.toList ++ " = ".toList ++ placeholder (bound + j + 1)) ++
        " WHERE ".toList ++ u.idField.toList ++ " = ".toList ++
        placeholder (bound + pushed.length) ∧
      pushed.map some = u.patch.names.map u.patch.get? ++ [some u.id]
  | delete d =>
    text = "DELETE FROM ".toList ++ d.table.toList ++ " WHERE ".toList ++ d.idField.toList ++
        " = ".toList ++ placeholder (bound + 1) ∧
      pushed = [d.id]

lemma paired_fragment (s : Statement) (bound : Nat) :
    s.Paired bound (s.fragment bound).text ((s.fragment bound).slots.map s.read) := by
  have hread := s.map_some_read_slots bound
  cases s with
  | query q => trivial
  | count q => trivial
  | insert i =>
      intro hempty
      rw [fragment, Insert.fragment_of_ne hempty] at hread ⊢
      refine ⟨rfl, hread.trans ?_⟩
      rw [List.map_map]
      rfl
  | update u =>
      rw [fragment, u.fragment_apply] at hread ⊢
      refine ⟨?_, hread.trans ?_⟩
      · rw [List.length_map, List.length_append, List.length_map, List.length_singleton,
          Nat.add_assoc]
      · rw [List.map_append, List.map_map]
        rfl
  | delete d =>
      rw [fragment, d.fragment_apply]
      exact ⟨rfl, rfl⟩

/-- **The placeholders of a statement are the next ones, each once**, if none of its texts has a dollar
sign of its own. -/
lemma markers_fragment {s : Statement} (h : ∀ text ∈ s.texts, '$' ∉ text.toList) (bound : Nat) :
    (markers (s.fragment bound).text).Perm
      ((List.range' (bound + 1) (s.fragment bound).slots.length).map digits) := by
  cases s with
  | query q => exact Query.markers_query h bound
  | count q => exact Query.markers_count h bound
  | insert i => exact List.Perm.of_eq (markers_insert h bound)
  | update u => exact List.Perm.of_eq (markers_update h bound)
  | delete d => exact List.Perm.of_eq (markers_delete h bound)

/-- **Placeholders and pushed values line up.**  After `k` values a statement keeps these and pushes
`m` more; what follows the dollar signs of its text are the numbers `k + 1` to `k + m`, each in one
place; and the columns and the key of a row stand beside the placeholders of their values. -/
theorem serialize_numbered (s : Statement) (h : ∀ text ∈ s.texts, '$' ∉ text.toList)
    (bound : List Value) :
    ∃ (text : List Char) (pushed : List Value),
      s.serialize bound = (String.ofList text, bound ++ pushed) ∧
      (markers text).Perm ((List.range' (bound.length + 1) pushed.length).map digits) ∧
      s.Paired bound.length text pushed := by
  refine ⟨(s.fragment bound.length).text, (s.fragment bound.length).slots.map s.read, rfl, ?_,
    s.paired_fragment bound.length⟩
  rw [List.length_map]
  exact markers_fragment h bound.length

/-- A limit, two parameters of which one is a cast's neighbour, and one value bound before. -/
theorem serialize_numbered_limit :
    (∀ text ∈ (Statement.query ((((Query.ofTable "t").filter "a = :a::int OR b = :b").withLimit
      5).param "a" (.text "1") |>.param "b" .null)).texts, '$' ∉ text.toList) ∧
    ∃ (text : List Char) (pushed : List Value),
      (Statement.query ((((Query.ofTable "t").filter "a = :a::int OR b = :b").withLimit
        5).param "a" (.text "1") |>.param "b" .null)).serialize [.null] =
          (String.ofList text, [.null] ++ pushed) ∧
      (markers text).Perm ((List.range' 2 pushed.length).map digits) ∧
      (Statement.query ((((Query.ofTable "t").filter "a = :a::int OR b = :b").withLimit
        5).param "a" (.text "1") |>.param "b" .null)).Paired 1 text pushed := by
  have htexts : ∀ text ∈ (Statement.query ((((Query.ofTable "t").filter
      "a = :a::int OR b = :b").withLimit 5).param "a" (.text "1") |>.param "b" .null)).texts,
      '$' ∉ text.toList := by
    decide
  exact ⟨htexts, serialize_numbered _ htexts [.null]⟩

end Statement

end BoundSql
