import BoundSql.Proofs.Sql.Fragment
import BoundSql.Proofs.Sql.Tokenisation
import Mathlib.Tactic.SplitIfs

/-!
# Values stay out of the text

A statement has texts, which its author writes, and values, which may come from anywhere.  The text
that is sent depends on the former alone.

* `Statement.value?` — the value of a slot, if the statement has one for it.
* `value?_of_mem_slots` — every slot that is bound belongs to the statement.
* `Statement.SameShape` — two statements differ in nothing but values.
* `SameShape.fragment_eq` — they have the same text and the same slots.
* **`serialize_sameShape`** — so they are sent as one text, and what is bound is one list of slots,
  read in either of them.
-/

namespace BoundSql

open Sql NamedParameter

/-! ## The value of a slot, if there is one -/

/-- The value of a slot of a query. -/
def Query.value? (q : Query) : Slot → Option Value
  | .limit => q.paging.1.map .int64
  | .offset => q.paging.2.map .int64
  | .parameter name => q.params.get? name
  | .column _ | .id => none

namespace Statement

/-- **The value of a slot**, if the statement has one for it. -/
def value? : Statement → Slot → Option Value
  | query q, slot => q.value? slot
  | count q, slot => q.unpaged.value? slot
  | insert i, .column name => i.record.get? name
  | update u, .column name => u.patch.get? name
  | update u, .id => some u.id
  | delete d, .id => some d.id
  | _, _ => none

end Statement

/-- The slots of named parameters are those of parameters of the query. -/
lemma Query.value?_of_mem_substitute (q : Query) (text : List Char) {bound : Nat} {slot : Slot}
    (h : slot ∈ (substitute q.params.names text bound).slots) :
    q.value? slot = some (q.read slot) := by
  have hscan := tokenises_scan (q.params.names.map String.toList) text
  rw [substitute_eq hscan] at h
  obtain ⟨name, hname, rfl⟩ := List.mem_map.mp h
  obtain ⟨known, hknown, rfl⟩ := List.mem_map.mp (hscan.mem_of_mem_tokens hname)
  obtain ⟨value, hvalue⟩ := Record.exists_get?_of_mem hknown
  simp [Query.value?, Query.read, hvalue]

/-- The slots of limit and offset are there only if limit and offset are. -/
lemma Query.value?_of_mem_pagingSlots (q : Query) {slot : Slot} (h : slot ∈ q.pagingSlots) :
    q.value? slot = some (q.read slot) := by
  rcases List.mem_append.mp h with h | h
  · split_ifs at h with hlimit
    · obtain ⟨n, hn⟩ := Option.isSome_iff_exists.mp hlimit
      rw [List.mem_singleton.mp h]
      simp [Query.value?, Query.read, hn]
    · simp at h
  · split_ifs at h with hoffset
    · obtain ⟨n, hn⟩ := Option.isSome_iff_exists.mp hoffset
      rw [List.mem_singleton.mp h]
      simp [Query.value?, Query.read, hn]
    · simp at h

lemma Query.value?_of_mem_slots (q : Query) {bound : Nat} {slot : Slot}
    (h : slot ∈ (q.fragment bound).slots) : q.value? slot = some (q.read slot) := by
  rw [Query.fragment, pagingFragment_apply] at h
  rcases List.mem_append.mp h with h | h
  · exact q.value?_of_mem_pagingSlots h
  · exact q.value?_of_mem_substitute _ h

/-- The slots of an insertion are its columns, in their order. -/
lemma Insert.slots_fragment (i : Insert) (bound : Nat) :
    (i.fragment bound).slots = i.record.names.map .column := by
  cases h : i.record.isEmpty with
  | true =>
      have hnames : i.record.names = [] := by
        simpa [Record.isEmpty, Record.names] using h
      rw [Insert.fragment_of_isEmpty h, hnames]
      rfl
  | false => rw [Insert.fragment_of_ne h]

/-- A counting query binds what the query without its order and limit binds. -/
lemma Query.slots_countFragment (q : Query) (bound : Nat) :
    (q.countFragment bound).slots = (q.unpaged.fragment bound).slots := by
  simp [Query.countFragment, Fragment.append_apply]

namespace Statement

/-- **Every slot that is bound belongs to the statement**, and its value is the one bound. -/
theorem value?_of_mem_slots (s : Statement) {bound : Nat} {slot : Slot}
    (h : slot ∈ (s.fragment bound).slots) : s.value? slot = some (s.read slot) := by
  cases s with
  | query q => exact q.value?_of_mem_slots h
  | count q =>
      rw [Statement.fragment, q.slots_countFragment] at h
      exact q.unpaged.value?_of_mem_slots h
  | insert i =>
      rw [Statement.fragment, i.slots_fragment] at h
      obtain ⟨name, hname, rfl⟩ := List.mem_map.mp h
      obtain ⟨value, hvalue⟩ := Record.exists_get?_of_mem hname
      simp [Statement.value?, Statement.read, Insert.read, hvalue]
  | update u =>
      rw [Statement.fragment, u.fragment_apply] at h
      rcases List.mem_append.mp h with h | h
      · obtain ⟨name, hname, rfl⟩ := List.mem_map.mp h
        obtain ⟨value, hvalue⟩ := Record.exists_get?_of_mem hname
        simp [Statement.value?, Statement.read, Update.read, hvalue]
      · rw [List.mem_singleton.mp h]
        rfl
  | delete d =>
      rw [Statement.fragment, d.fragment_apply] at h
      rw [List.mem_singleton.mp h]
      rfl

/-- What a statement pushes is what it has for its slots. -/
lemma map_some_read_slots (s : Statement) (bound : Nat) :
    ((s.fragment bound).slots.map s.read).map some = (s.fragment bound).slots.map s.value? := by
  rw [List.map_map]
  apply List.map_congr_left
  intro slot hslot
  exact (s.value?_of_mem_slots hslot).symm

end Statement

/-! ## Statements that differ only in values -/

/-- **Two queries differ in nothing but values**: the same of their limits and pages are given, and
the same names have a value. -/
structure Query.SameShape (p q : Query) : Prop where
  table : p.table = q.table
  queryText : p.queryText = q.queryText
  whereClause : p.whereClause = q.whereClause
  fields : p.fields = q.fields
  sortBy : p.sortBy = q.sortBy
  limit : p.limit.isSome = q.limit.isSome
  offset : p.offset.isSome = q.offset.isSome
  pageIndex : p.pageIndex.isSome = q.pageIndex.isSome
  rowsPerPage : p.rowsPerPage.isSome = q.rowsPerPage.isSome
  names : p.params.names = q.params.names

/-- **Two statements differ in nothing but values.** -/
inductive Statement.SameShape : Statement → Statement → Prop where
  | query {p q : Query} : p.SameShape q → SameShape (.query p) (.query q)
  | count {p q : Query} : p.SameShape q → SameShape (.count p) (.count q)
  | insert {i j : Insert} : i.table = j.table → i.record.names = j.record.names →
      i.returning = j.returning → SameShape (.insert i) (.insert j)
  | update {u v : Update} : u.table = v.table → u.idField = v.idField →
      u.patch.names = v.patch.names → SameShape (.update u) (.update v)
  | delete {d e : Delete} : d.table = e.table → d.idField = e.idField →
      SameShape (.delete d) (.delete e)

namespace Query

/-- Whether rows are limited is a matter of what is given, not of the numbers. -/
lemma isSome_paging_limit (q : Query) :
    q.paging.1.isSome = ((q.pageIndex.isSome && q.rowsPerPage.isSome) || q.limit.isSome) := by
  rw [paging]
  cases q.pageIndex <;> cases q.rowsPerPage <;> simp

/-- Whether rows are passed over is a matter of what is given, not of the numbers. -/
lemma isSome_paging_offset (q : Query) :
    q.paging.2.isSome = ((q.pageIndex.isSome && q.rowsPerPage.isSome) || q.offset.isSome) := by
  rw [paging]
  cases q.pageIndex <;> cases q.rowsPerPage <;> simp

variable {p q : Query}

lemma SameShape.pagingFragment_eq (h : p.SameShape q) : p.pagingFragment = q.pagingFragment := by
  have hlimit : p.paging.1.isSome = q.paging.1.isSome := by
    rw [isSome_paging_limit, isSome_paging_limit, h.pageIndex, h.rowsPerPage, h.limit]
  have hoffset : p.paging.2.isSome = q.paging.2.isSome := by
    rw [isSome_paging_offset, isSome_paging_offset, h.pageIndex, h.rowsPerPage, h.offset]
  funext bound
  rw [pagingFragment_apply, pagingFragment_apply, pagingSlots, pagingSlots, hlimit, hoffset]

lemma SameShape.selection_eq (h : p.SameShape q) : p.selection = q.selection := by
  rw [selection, selection, h.table, h.queryText, h.whereClause, h.fields]

lemma SameShape.ordering_eq (h : p.SameShape q) : p.ordering = q.ordering := by
  rw [ordering, ordering, h.sortBy]

/-- The scan looks at the names of parameters, at no value. -/
lemma SameShape.fragment_eq (h : p.SameShape q) : p.fragment = q.fragment := by
  funext bound
  rw [fragment, fragment, h.selection_eq, h.ordering_eq, h.pagingFragment_eq, h.names]

lemma SameShape.unpaged (h : p.SameShape q) : p.unpaged.SameShape q.unpaged :=
  ⟨h.table, h.queryText, h.whereClause, h.fields, rfl, rfl, rfl, rfl, rfl, h.names⟩

end Query

namespace Statement

/-- **The text and the slots of a statement do not depend on its values.** -/
theorem SameShape.fragment_eq {s t : Statement} (h : s.SameShape t) : s.fragment = t.fragment := by
  cases h with
  | query h => exact h.fragment_eq
  | count h =>
      rw [fragment, fragment, Query.countFragment, Query.countFragment, h.unpaged.fragment_eq]
  | @insert i j htable hnames hreturning =>
      have hempty : i.record.isEmpty = j.record.isEmpty := by
        have hlength := congrArg List.isEmpty hnames
        rwa [Record.names, Record.names, List.isEmpty_map, List.isEmpty_map] at hlength
      rw [fragment, fragment, Insert.fragment, Insert.fragment, htable, hnames, hreturning, hempty]
  | @update u v htable hid hnames =>
      rw [fragment, fragment, Update.fragment, Update.fragment, htable, hid, hnames]
  | @delete d e htable hid =>
      rw [fragment, fragment, Delete.fragment, Delete.fragment, htable, hid]

/-- **Values do not reach the text.**  Statements that differ in nothing but values are sent as one
text after equally many values, and push equally many values; what they push is one list of slots,
each of which both of them have, read in either of them. -/
theorem serialize_sameShape {s t : Statement} (h : s.SameShape t) {bound bound' : List Value}
    (hlength : bound.length = bound'.length) :
    ∃ (text : String) (slots : List Slot) (pushed pushed' : List Value),
      s.serialize bound = (text, bound ++ pushed) ∧
      t.serialize bound' = (text, bound' ++ pushed') ∧
      pushed.length = pushed'.length ∧
      pushed.map some = slots.map s.value? ∧ pushed'.map some = slots.map t.value? := by
  have hslots : (s.fragment bound.length).slots = (t.fragment bound'.length).slots := by
    rw [h.fragment_eq, hlength]
  refine ⟨String.ofList (s.fragment bound.length).text, (s.fragment bound.length).slots,
    (s.fragment bound.length).slots.map s.read, (t.fragment bound'.length).slots.map t.read,
    rfl, ?_, ?_, s.map_some_read_slots _, ?_⟩
  · rw [serialize, h.fragment_eq, hlength]
  · rw [List.length_map, List.length_map, hslots]
  · rw [hslots]
    exact t.map_some_read_slots _

/-- Two pages of the rows of one name: neither the name nor the page shows in the text. -/
theorem serialize_sameShape_pages :
    (Statement.query ((((Query.ofTable "t").filter "name = :name").page 0 20).param "name"
      (.text "x"))).SameShape
      (.query ((((Query.ofTable "t").filter "name = :name").page 3 50).param "name"
        (.text "$1 :name"))) ∧
    [Value.null].length = [Value.bool true].length ∧
    ∃ (text : String) (slots : List Slot) (pushed pushed' : List Value),
      (Statement.query ((((Query.ofTable "t").filter "name = :name").page 0 20).param "name"
        (.text "x"))).serialize [.null] = (text, [.null] ++ pushed) ∧
      (Statement.query ((((Query.ofTable "t").filter "name = :name").page 3 50).param "name"
        (.text "$1 :name"))).serialize [.bool true] = (text, [.bool true] ++ pushed') ∧
      pushed.length = pushed'.length ∧
      pushed.map some = slots.map (Statement.query ((((Query.ofTable "t").filter
        "name = :name").page 0 20).param "name" (.text "x"))).value? ∧
      pushed'.map some = slots.map (Statement.query ((((Query.ofTable "t").filter
        "name = :name").page 3 50).param "name" (.text "$1 :name"))).value? := by
  have hshape := SameShape.query (p := (((Query.ofTable "t").filter "name = :name").page 0 20).param
    "name" (.text "x")) (q := (((Query.ofTable "t").filter "name = :name").page 3 50).param "name"
    (.text "$1 :name")) ⟨rfl, rfl, rfl, rfl, rfl, rfl, rfl, rfl, rfl, rfl⟩
  exact ⟨hshape, rfl, serialize_sameShape hshape rfl⟩

end Statement

end BoundSql
