import BoundSql.Proofs.Json.Real

/-!
# Documents whose numbers are kept

A document holds whole numbers of eight bytes and finite floating-point numbers.  All that is read
is of this kind, and what is written for a document of this kind is read as some document: its
floating-point numbers may come back rounded, but nothing is refused.

* `Number.Kept` — the numbers there are.
* **`ofText?_numbersKept`** — the numbers that are read are kept.
* `exists_readsAs_real` — a finite number is read as a number.
* **`exists_readsAs`** — a document whose numbers are kept is read as a draft of some document.
* **`exists_ofText?_text`** — its text is the text of a document, up to the limit of nesting.
-/

namespace BoundSql.Json

open Decimal Floating

/-- **What a document holds when it is kept**: whole numbers that fit, and finite ones. -/
def Number.Kept (n : Number) : Prop := n.Fits ∧ n.IsFinite

lemma number?_kept (l : NumberLiteral) : ∀ n ∈ l.number?, n.Kept :=
  fun n hn => ⟨number?_fits l n hn, NumberLiteral.number?_isFinite hn⟩

/-- The numbers of every document that is read are kept. -/
theorem ofText?_numbersKept {s : String} {j : Json} (h : ofText? s = some j) :
    j.AllNumbers Number.Kept := by
  obtain ⟨d, hdraft, hj⟩ := Option.bind_eq_some_iff.mp h
  exact toJson?_allNumbers (ofText?_allNumbers number?_kept hdraft) hj

lemma NumberLiteral.Grammatical.exists_write_eq {l : NumberLiteral} (h : l.Grammatical) :
    ∃ c cs, l.write = c :: cs ∧ c.isDigit = true := by
  obtain ⟨c, cs, hwhole⟩ := List.exists_cons_of_ne_nil h.whole_ne_nil
  refine ⟨c, _, by rw [write, hwhole, List.cons_append], ?_⟩
  exact allDigits_iff.mp h.whole c (by rw [hwhole]; exact List.mem_cons_self)

/-- A finite number opens with a minus sign or with a digit. -/
lemma opens_real {x : Binary64} (hx : x.IsFinite) : Opens (.number (.real x)) := by
  obtain ⟨l, hgrammatical, hwrite, -⟩ := exists_literal hx
  obtain ⟨c, cs, hlead, hc⟩ := hgrammatical.exists_write_eq
  cases hnegative : l.negative with
  | true =>
      rw [hnegative, if_pos rfl] at hwrite
      exact ⟨_, _, hwrite, rfl, by decide⟩
  | false =>
      rw [hnegative, if_neg Bool.false_ne_true, hlead] at hwrite
      exact opens_of_isDigit hwrite hc

lemma opens_of_kept {v : Json} (h : v.AllNumbers Number.Kept) : v.Opens := by
  apply opens
  rintro x rfl
  cases h with
  | number hkept => exact opens_real hkept.2

/-- **A finite number is read as a number**, though not always as the same one. -/
lemma exists_readsAs_real {x : Binary64} (hx : x.IsFinite) :
    ∃ y, ReadsAs (.number (.real x)) (.number (some (.real y))) := by
  obtain ⟨l, hgrammatical, hwrite, y, hy⟩ := exists_literal hx
  obtain ⟨c, cs, hlead, hc⟩ := hgrammatical.exists_write_eq
  refine ⟨y, ?_⟩
  intro fuel rest hfuel hends
  have hread := readNumber_write hends hgrammatical
  rw [write, Number.write, hwrite] at hfuel ⊢
  cases hnegative : l.negative with
  | true =>
      rw [hnegative, if_pos rfl, List.length_cons] at hfuel
      obtain ⟨fuel, rfl⟩ : ∃ k, fuel = k + 1 := ⟨fuel - 1, by omega⟩
      rw [hnegative] at hread
      rw [if_pos rfl, List.cons_append, readDraft, skipSpace_cons rfl]
      simp only [hread, Option.map_some, hy]
  | false =>
      rw [hnegative, if_neg Bool.false_ne_true, hlead, List.length_cons] at hfuel
      obtain ⟨fuel, rfl⟩ : ∃ k, fuel = k + 1 := ⟨fuel - 1, by omega⟩
      rw [hnegative, hlead, List.cons_append] at hread
      rw [if_neg Bool.false_ne_true, hlead, List.cons_append, readDraft_digit hc]
      simp only [hread, Option.map_some, hy]

lemma exists_itemsToJson? {limit : Nat} {drafts : List Draft}
    (h : ∀ d ∈ drafts, ∃ j, d.toJson? limit = some j) :
    ∃ items, itemsToJson? limit drafts = some items := by
  induction drafts with
  | nil => exact ⟨[], rfl⟩
  | cons d drafts ih =>
      rw [List.forall_mem_cons] at h
      obtain ⟨v, hv⟩ := h.1
      obtain ⟨items, hitems⟩ := ih h.2
      exact ⟨v :: items, by rw [itemsToJson?, hv, hitems]⟩

lemma exists_membersToJson? {limit : Nat} {drafts : List (Option String × Draft)}
    (h : ∀ m ∈ drafts, ∃ n j, m.1 = some n ∧ m.2.toJson? limit = some j)
    (done : List (String × Json)) :
    ∃ members, membersToJson? limit done drafts = some members := by
  induction drafts generalizing done with
  | nil => exact ⟨done, rfl⟩
  | cons m drafts ih =>
      rw [List.forall_mem_cons] at h
      obtain ⟨⟨n, v, hn, hv⟩, hothers⟩ := h
      obtain ⟨members, hmembers⟩ := ih hothers (insertMember n v done)
      exact ⟨members, by simp only [membersToJson?, hn, hv, hmembers]⟩

/-- **What is written for a document is read as a draft, and this becomes a document**, if its
numbers are kept and it is not nested beyond the limit. -/
theorem exists_readsAs {j : Json} (h : j.AllNumbers Number.Kept) :
    ∃ d, j.ReadsAs d ∧ ∀ limit, j.depth ≤ limit → ∃ j', d.toJson? limit = some j' := by
  induction h with
  | null => exact ⟨_, readsAs_null, fun _ _ => ⟨_, rfl⟩⟩
  | bool b => exact ⟨_, readsAs_bool b, fun _ _ => ⟨_, rfl⟩⟩
  | @number n hkept =>
      cases n with
      | whole n => exact ⟨_, readsAs_whole hkept.1, fun _ _ => ⟨_, rfl⟩⟩
      | real x =>
          obtain ⟨y, hy⟩ := exists_readsAs_real hkept.2
          exact ⟨_, hy, fun _ _ => ⟨_, rfl⟩⟩
  | string s => exact ⟨_, readsAs_string s, fun _ _ => ⟨_, rfl⟩⟩
  | @array items hkept ih =>
      choose! f hreads hdocument using ih
      have hitems : List.Forall₂ ReadsAs items (items.map f) :=
        List.forall₂_map_right_iff.mpr (List.forall₂_same.mpr hreads)
      refine ⟨_, readsAs_array (fun v hv => opens_of_kept (hkept v hv)) hitems, ?_⟩
      intro limit hdepth
      rw [depth] at hdepth
      have hdepths : ∀ v ∈ items, v.depth ≤ limit - 1 := depthItems_le_iff.mp (by omega)
      obtain ⟨documents, hdocuments⟩ := exists_itemsToJson?
        (List.forall_mem_map.mpr fun v hv => hdocument v hv _ (hdepths v hv))
      rw [Draft.toJson?, if_neg (by omega), hdocuments]
      exact ⟨_, rfl⟩
  | @object members hkept ih =>
      choose! f hreads hdocument using ih
      have hmembers : List.Forall₂ MemberReadsAs members (members.map fun m => (some m.1, f m)) :=
        List.forall₂_map_right_iff.mpr
          (List.forall₂_same.mpr fun m hm => ⟨rfl, hreads m hm⟩)
      refine ⟨_, readsAs_object hmembers, ?_⟩
      intro limit hdepth
      rw [depth] at hdepth
      have hdepths : ∀ m ∈ members, m.2.depth ≤ limit - 1 := depthMembers_le_iff.mp (by omega)
      have hnamed : ∀ m ∈ members.map fun m => (some m.1, f m),
          ∃ n j, m.1 = some n ∧ m.2.toJson? (limit - 1) = some j := by
        rw [List.forall_mem_map]
        intro m hm
        obtain ⟨j, hj⟩ := hdocument m hm _ (hdepths m hm)
        exact ⟨m.1, j, rfl, hj⟩
      obtain ⟨documents, hdocuments⟩ := exists_membersToJson? hnamed []
      rw [Draft.toJson?, if_neg (by omega), hdocuments]
      exact ⟨_, rfl⟩

/-- **What is written for a document is read as one**, if its numbers are kept and it is not nested
beyond the limit. -/
theorem exists_ofText?_text {j : Json} (h : j.AllNumbers Number.Kept)
    (hdepth : j.depth ≤ nestingLimit) :
    ∃ j', ofText? (String.ofList j.write) = some j' := by
  obtain ⟨d, hreads, hdocument⟩ := exists_readsAs h
  obtain ⟨j', hj'⟩ := hdocument nestingLimit hdepth
  have hread := hreads (2 * j.write.length + 2) [] (by omega) ends_nil
  rw [List.append_nil] at hread
  refine ⟨j', ?_⟩
  rw [ofText?, String.toList_ofList]
  simp only [Draft.ofText?, hread]
  exact hj'

end BoundSql.Json
