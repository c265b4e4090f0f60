import BoundSql.Proofs.Statement.Body
import Mathlib.Algebra.Order.Ring.Int

/-!
# Queries that limit their rows

The limit and the offset of a query are bound before anything else and written after everything
else.  Their text is there when the query is scanned for names, and the scan has to leave it alone.

* `Query.Limits` — what the limit and the offset of a query are, `toInt_clampedProduct` — that the
  product of a page never leaves eight bytes.
* `limits_iff` — every query has one limit and one offset, given or not.
* `Query.unlimited` — the query without them.
* `Query.Limited` — a query as it is sent, told from the query without limit and offset.
* **`exists_limited`** — every query is sent in this way, if no name has a space in it.

A space stands in front of the limit and of the offset, so a name at the end of the text ends there,
and a colon at the end is not one of a pair.
-/

namespace BoundSql.Query

open Sql NamedParameter

/-! ## Limit and offset -/

/-- **A product is kept within eight bytes.** -/
lemma toInt_clampedProduct (a b : Int64) :
    (clampedProduct a b).toInt = max (-2 ^ 63) (min (2 ^ 63 - 1) (a.toInt * b.toInt)) := by
  rw [clampedProduct, Value.leastInt64, Value.greatestInt64]
  exact Int64.toInt_ofInt_of_le (by omega) (by omega)

/-- **The limit and the offset of a query.**  If page and size are both given, the size is the limit
and the offset is their product, kept within eight bytes; if not, limit and offset are those that are
given. -/
inductive Limits (q : Query) : Option Int64 → Option Int64 → Prop where
  | page {index rows offset : Int64} : q.pageIndex = some index → q.rowsPerPage = some rows →
      offset.toInt = max (-2 ^ 63) (min (2 ^ 63 - 1) (rows.toInt * index.toInt)) →
      Limits q (some rows) (some offset)
  | plain : q.pageIndex = none ∨ q.rowsPerPage = none → Limits q q.limit q.offset

/-- **Every query has one limit and one offset**, given or not. -/
lemma limits_iff {q : Query} {limit offset : Option Int64} :
    q.Limits limit offset ↔ q.paging = (limit, offset) := by
  constructor
  · rintro (⟨hindex, hrows, hoffset⟩ | hnone)
    · rename_i index rows offset
      rw [← toInt_clampedProduct, Int64.toInt_inj] at hoffset
      rw [paging, hindex, hrows, hoffset]
    · rw [paging]
      split
      · rename_i hindex hrows
        simp [hindex, hrows] at hnone
      · rfl
  · intro h
    rw [paging] at h
    split at h
    · rename_i hindex hrows
      obtain ⟨rfl, rfl⟩ := Prod.mk.inj h
      exact .page hindex hrows (toInt_clampedProduct _ _)
    · rename_i hnone
      obtain ⟨rfl, rfl⟩ := Prod.mk.inj h
      refine .plain ?_
      cases hindex : q.pageIndex with
      | none => exact .inl rfl
      | some index =>
          cases hrows : q.rowsPerPage with
          | none => exact .inr rfl
          | some rows => exact (hnone index rows hindex hrows).elim

/-- The end of a query with the given limit and offset, whose values come first. -/
def limitText (limit offset : Option Int64) : List Char :=
  (limit.elim [] fun _ => " LIMIT ".toList ++ placeholder 1) ++
    offset.elim [] fun _ => " OFFSET ".toList ++ placeholder (limit.toList.length + 1)

/-- The values of the given limit and offset. -/
def limitValues (limit offset : Option Int64) : List Value :=
  (limit.toList ++ offset.toList).map .int64

section Limits

variable {q : Query} {limit offset : Option Int64}

lemma pagingText_eq (h : q.paging = (limit, offset)) : q.pagingText = limitText limit offset := by
  rw [pagingText, pagingSlots, limitText, h]
  cases limit <;> cases offset <;> rfl

lemma pagingValues_eq (h : q.paging = (limit, offset)) :
    q.pagingValues = limitValues limit offset := by
  rw [pagingValues, limitValues, h, List.map_append]

end Limits

/-! ## The query without them -/

/-- **The query without limit and offset.** -/
def unlimited (q : Query) : Query :=
  { q with limit := none, offset := none, pageIndex := none, rowsPerPage := none }

lemma paging_unlimited (q : Query) : q.unlimited.paging = (none, none) := rfl

lemma pagingSlots_unlimited (q : Query) : q.unlimited.pagingSlots = [] := by
  rw [pagingSlots, paging_unlimited]
  rfl

lemma body_unlimited (q : Query) (bound : Nat) :
    q.unlimited.body bound = q.selection ++ q.ordering := by
  have hpaging : (q.unlimited.pagingFragment bound).text = [] := by
    rw [pagingFragment_apply, paging_unlimited]
    rfl
  rw [body, hpaging, List.append_nil]
  rfl

/-- **A query as it is sent**, told from the query without limit and offset. -/
structure Limited (q : Query) (limit offset : Option Int64) (items : List Item)
    (later : List Value) : Prop where
  limits : ∀ limit' offset', q.Limits limit' offset' ↔ limit' = limit ∧ offset' = offset
  /-- The items are those of the query without limit and offset. -/
  tokenises : Tokenises q.names (q.unlimited.body 0) items
  /-- Each name among them binds its value. -/
  later_eq : later.map some = (tokens items).map fun name => q.params.get? (String.ofList name)
  /-- The query without limit and offset, when their values are there already. -/
  unlimited : (Statement.query q.unlimited).serialize (limitValues limit offset) =
    (String.ofList (numbered (limitValues limit offset).length items),
      limitValues limit offset ++ later)
  /-- The query itself has the same values, and in its text only the limit and the offset are new. -/
  compile : q.compile =
    ⟨String.ofList (numbered (limitValues limit offset).length items ++ limitText limit offset),
      limitValues limit offset ++ later⟩

/-- **Limit and offset come first among the values and last in the text.**  What stands between is
what the query without them is, after these values. -/
theorem exists_limited (q : Query) (hspace : ∀ name ∈ q.params.names, ' ' ∉ name.toList) :
    ∃ limit offset items later, q.Limited limit offset items later := by
  have hspaces := not_mem_of_mem_names hspace
  obtain ⟨limit, offset, hpaging⟩ : ∃ limit offset, q.paging = (limit, offset) := ⟨_, _, rfl⟩
  have hscan := tokenises_scan q.names (q.selection ++ q.ordering)
  generalize scan q.names (q.selection ++ q.ordering) = items at hscan
  have hlength : q.pagingSlots.length = (limitValues limit offset).length := by
    rw [← pagingValues_eq hpaging, ← map_read_pagingSlots, List.length_map]
  have hbody : Tokenises q.names (q.body 0) (items ++ q.pagingText.map .char) := by
    rw [body, pagingFragment_zero]
    exact hscan.append (breaks_pagingText hspaces)
      (tokenises_of_not_mem q.colon_not_mem_pagingText)
  refine ⟨limit, offset, items, (parameterSlots items).map q.read, ?_⟩
  constructor
  case limits =>
    intro limit' offset'
    rw [limits_iff, hpaging, Prod.mk.injEq, eq_comm, @eq_comm _ offset]
  case tokenises => rwa [body_unlimited]
  case later_eq => exact map_read_of_tokenises hscan
  case unlimited =>
    have hread : (parameterSlots items).map q.unlimited.read =
        (parameterSlots items).map q.read := map_read_parameterSlots fun _ _ => rfl
    rw [serialize_of_tokenises (q := q.unlimited) _ (by rwa [body_unlimited]), pagingSlots_unlimited,
      pagingValues_eq q.paging_unlimited, hread]
    rfl
  case compile =>
    rw [compile_of_serialize (serialize_of_tokenises [] hbody), numbered_append,
      numbered_map_char, pagingText_eq hpaging, pagingValues_eq hpaging, hlength, parameterSlots,
      tokens_append, tokens_map_char, List.append_nil]
    simp [parameterSlots]

/-- A page far in front of the first one: its offset is kept at the least number.  The condition ends
in a cast and the order in a name. -/
theorem exists_limited_page :
    let q := (((Query.ofTable "t").filter "a = :a OR b::").sorted ["c|:", ":a"]).page (-3)
      4611686018427387904 |>.param "a" (.text "1")
    (∀ name ∈ q.params.names, ' ' ∉ name.toList) ∧
      ∃ limit offset items later, q.Limited limit offset items later := by
  intro q
  have hspace : ∀ name ∈ q.params.names, ' ' ∉ name.toList := by decide
  exact ⟨hspace, exists_limited q hspace⟩

end BoundSql.Query
