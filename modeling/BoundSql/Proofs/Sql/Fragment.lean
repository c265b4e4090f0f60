import BoundSql.Statement.Basic
import Mathlib.Tactic.Lemma

/-!
# Statements written out

Statements are put together from fragments.  Here each of them is written out as one text and one
list of slots, so that nothing later has to take a fragment apart.

* `Fragment.commas_single` — fragments that bind one value each, with commas between them: the
  `i`-th of them has the `i`-th placeholder.
* `Insert.fragment_of_isEmpty`, `Insert.fragment_of_ne`, `Update.fragment_apply`,
  `Delete.fragment_apply` — the statements that bind columns and keys.
* `Query.pagingSlots`, `Query.pagingFragment_apply` — the end of a query that limits its rows.
-/

namespace BoundSql

open Sql

namespace Sql.Fragment

@[simp] lemma empty_apply (bound : Nat) : empty bound = ⟨[], []⟩ := rfl

@[simp] lemma commas_singleton (f : Fragment) : commas [f] = f := rfl

lemma commas_cons_cons (f g : Fragment) (rest : List Fragment) :
    commas (f :: g :: rest) = f ++ text [',', ' '] ++ commas (g :: rest) := rfl

/-- **Fragments that bind one value each, with commas between them.**  What the fragment of `x`
writes may depend on the number of its placeholder and on nothing else that was bound. -/
lemma commas_single {α : Type} {f : α → Fragment} {written : α → Nat → List Char} {slot : α → Slot}
    (hf : ∀ x bound, f x bound = ⟨written x (bound + 1), [slot x]⟩) (xs : List α) (bound : Nat) :
    commas (xs.map f) bound =
      ⟨[',', ' '].intercalate (xs.mapIdx fun i x => written x (bound + i + 1)), xs.map slot⟩ := by
  induction xs generalizing bound with
  | nil => rfl
  | cons x rest ih =>
      cases rest with
      | nil => simp [hf]
      | cons y rest =>
          have hshift (i : Nat) : bound + (i + 1) + 1 = bound + 1 + i + 1 := by omega
          have htail := ih (bound + 1)
          rw [List.map_cons] at htail
          rw [List.map_cons, List.map_cons, commas_cons_cons, append_apply, append_apply, hf,
            text_apply]
          simp only [List.append_nil, List.length_singleton, htail]
          rw [List.mapIdx_cons (l := y :: rest), List.intercalate_cons_of_ne_nil (by simp)]
          simp only [hshift, Nat.add_zero, List.append_assoc, List.map_cons, List.cons_append,
            List.nil_append]

end Sql.Fragment

open Sql.Fragment

/-! ## Rows inserted, changed and deleted -/

/-- The end of an insertion: the column whose value comes back, if one is asked for. -/
def Insert.returningText (i : Insert) : List Char :=
  match i.returning with
  | some column => " RETURNING ".toList ++ column.toList
  | none => []

/-- A row of defaults binds nothing. -/
lemma Insert.fragment_of_isEmpty {i : Insert} (h : i.record.isEmpty = true) (bound : Nat) :
    i.fragment bound =
      ⟨"INSERT INTO ".toList ++ i.table.toList ++ " DEFAULT VALUES".toList ++ i.returningText,
        []⟩ := by
  cases hr : i.returning with
  | none => simp [Insert.fragment, Insert.returningText, h, hr, append_apply]
  | some column => simp [Insert.fragment, Insert.returningText, h, hr, append_apply]

/-- **An insertion**: the columns, and as many placeholders. -/
lemma Insert.fragment_of_ne {i : Insert} (h : i.record.isEmpty = false) (bound : Nat) :
    i.fragment bound =
      ⟨"INSERT INTO ".toList ++ i.table.toList ++ " (".toList ++
          [',', ' '].intercalate (i.record.names.map String.toList) ++ ") VALUES (".toList ++
          [',', ' '].intercalate (i.record.names.mapIdx fun j _ => placeholder (bound + j + 1)) ++
          ")".toList ++ i.returningText,
        i.record.names.map .column⟩ := by
  have hvalues := commas_single (fun name bound => bind_apply (.column name) bound)
    i.record.names bound
  cases hr : i.returning with
  | none => simp [Insert.fragment, Insert.returningText, h, hr, append_apply, hvalues]
  | some column => simp [Insert.fragment, Insert.returningText, h, hr, append_apply, hvalues]

/-- **An update**: each column beside its placeholder, and the key last. -/
lemma Update.fragment_apply (u : Update) (bound : Nat) :
    u.fragment bound =
      ⟨"UPDATE ".toList ++ u.table.toList ++ " SET ".toList ++
          [',', ' '].intercalate (u.patch.names.mapIdx fun j name =>
            name.toList ++ " = ".toList ++ placeholder (bound + j + 1)) ++
          " WHERE ".toList ++ u.idField.toList ++ " = ".toList ++
          placeholder (bound + u.patch.names.length + 1),
        u.patch.names.map .column ++ [.id]⟩ := by
  have hassign (name : String) (k : Nat) : Update.assignment name k =
      ⟨name.toList ++ " = ".toList ++ placeholder (k + 1), [.column name]⟩ := by
    simp [Update.assignment, append_apply]
  have hset := @commas_single _ Update.assignment
    (fun name number => name.toList ++ " = ".toList ++ placeholder number) .column hassign
    u.patch.names bound
  simp [Update.fragment, append_apply, hset]

/-- **A deletion**: the key and nothing else. -/
lemma Delete.fragment_apply (d : Delete) (bound : Nat) :
    d.fragment bound =
      ⟨"DELETE FROM ".toList ++ d.table.toList ++ " WHERE ".toList ++ d.idField.toList ++
          " = ".toList ++ placeholder (bound + 1), [.id]⟩ := by
  simp [Delete.fragment, append_apply]

/-! ## The end of a query -/

namespace Query

/-- The slots of limit and offset, where they are given. -/
def pagingSlots (q : Query) : List Slot :=
  (if q.paging.1.isSome then [.limit] else []) ++ if q.paging.2.isSome then [.offset] else []

/-- **The end of a query that limits its rows**: the placeholder of the offset comes after the one of
the limit, if there is one. -/
lemma pagingFragment_apply (q : Query) (bound : Nat) :
    q.pagingFragment bound =
      ⟨(if q.paging.1.isSome then " LIMIT ".toList ++ placeholder (bound + 1) else []) ++
          (if q.paging.2.isSome then
            " OFFSET ".toList ++ placeholder (bound + q.pagingSlots.length) else []),
        q.pagingSlots⟩ := by
  rcases h : q.paging with ⟨limit, offset⟩
  simp only [pagingFragment, pagingSlots, h]
  cases limit with
  | none =>
      cases offset with
      | none => simp [append_apply]
      | some m => simp [append_apply]
  | some n =>
      cases offset with
      | none => simp [append_apply]
      | some m => simp [append_apply]

end Query

end BoundSql
