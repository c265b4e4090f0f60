import BoundSql.Json.Parser
import Mathlib.Data.List.Pairwise
import Mathlib.Data.String.Basic
import Mathlib.Tactic.Lemma

/-!
# Documents as they are kept

A document that is kept has whole numbers of eight bytes, and the members of its objects stand in
ascending order of their names.  Every document that is read is of this kind, and a document of this
kind is had back from its own draft.

* `Json.WellFormed` — documents as they are kept.
* `Json.FloatFree` — documents without floating-point numbers.
* `Json.draft` — the draft of which a document is made.
* **`toJson?_draft`** — this draft becomes the document, if that is not nested beyond the limit.
* **`toJson?_kept`** — any draft whose numbers fit becomes a document as it is kept.
* `toJson?_allNumbers` — the numbers of the document are those of the draft.
-/

namespace BoundSql.Json

/-! ## What documents may hold -/

/-- A whole number fits in eight bytes, with a sign or without. -/
def Number.Fits : Number → Prop
  | .whole n => -0x8000000000000000 ≤ n ∧ n ≤ 0xFFFFFFFFFFFFFFFF
  | .real _ => True

/-- A number that is not floating. -/
def Number.IsWhole : Number → Prop
  | .whole _ => True
  | .real _ => False

/-- **Documents all of whose numbers have a property.** -/
inductive AllNumbers (p : Number → Prop) : Json → Prop where
  | null : AllNumbers p .null
  | bool (b : Bool) : AllNumbers p (.bool b)
  | number {n : Number} : p n → AllNumbers p (.number n)
  | string (s : String) : AllNumbers p (.string s)
  | array {items : List Json} : (∀ v ∈ items, AllNumbers p v) → AllNumbers p (.array items)
  | object {members : List (String × Json)} :
      (∀ m ∈ members, AllNumbers p m.2) → AllNumbers p (.object members)

/-- **A document without floating-point numbers.** -/
abbrev FloatFree : Json → Prop := AllNumbers Number.IsWhole

/-- Members in ascending order of their names, each name once. -/
def Ascending (members : List (String × Json)) : Prop :=
  (members.map Prod.fst).Pairwise (· < ·)

/-- **A document as it is kept**: its whole numbers fit, and the members of its objects ascend. -/
inductive WellFormed : Json → Prop where
  | null : WellFormed .null
  | bool (b : Bool) : WellFormed (.bool b)
  | number {n : Number} : n.Fits → WellFormed (.number n)
  | string (s : String) : WellFormed (.string s)
  | array {items : List Json} : (∀ v ∈ items, WellFormed v) → WellFormed (.array items)
  | object {members : List (String × Json)} :
      Ascending members → (∀ m ∈ members, WellFormed m.2) → WellFormed (.object members)

/-- The numbers of a document as it is kept fit. -/
lemma WellFormed.allNumbers {j : Json} (h : j.WellFormed) : j.AllNumbers Number.Fits := by
  induction h with
  | null => exact .null
  | bool b => exact .bool b
  | number hfits => exact .number hfits
  | string s => exact .string s
  | array _ ih => exact .array ih
  | object _ _ ih => exact .object ih

/-! ## Equality -/

lemma sameItems_self {items : List Json} (h : ∀ v ∈ items, v.same v = true) :
    sameItems items items = true := by
  induction items with
  | nil => rfl
  | cons v rest ih =>
      rw [List.forall_mem_cons] at h
      rw [sameItems, h.1, ih h.2]
      rfl

lemma sameMembers_self {members : List (String × Json)} (h : ∀ m ∈ members, m.2.same m.2 = true) :
    sameMembers members members = true := by
  induction members with
  | nil => rfl
  | cons m rest ih =>
      rw [List.forall_mem_cons] at h
      rw [sameMembers, h.1, ih h.2, beq_self_eq_true]
      rfl

/-- **A document without floating-point numbers is equal to itself.** -/
theorem FloatFree.same_self {j : Json} (h : j.FloatFree) : j.same j = true := by
  induction h with
  | null => rfl
  | bool b => exact beq_self_eq_true b
  | @number n hwhole =>
      cases n with
      | whole n => exact beq_self_eq_true n
      | real x => exact hwhole.elim
  | string s => exact beq_self_eq_true s
  | array _ ih => exact sameItems_self ih
  | object _ ih => exact sameMembers_self ih

/-! ## Drafts of documents -/

mutual

/-- **The draft of a document**, in which nothing is without a meaning. -/
def draft : Json → Draft
  | .null => .null
  | .bool b => .bool b
  | .number n => .number (some n)
  | .string s => .string (some s)
  | .array items => .array (draftItems items)
  | .object members => .object (draftMembers members)

/-- The drafts of the items. -/
def draftItems : List Json → List Draft
  | [] => []
  | v :: rest => v.draft :: draftItems rest

/-- The drafts of the members. -/
def draftMembers : List (String × Json) → List (Option String × Draft)
  | [] => []
  | (n, v) :: rest => (some n, v.draft) :: draftMembers rest

end

lemma depthItems_le_iff {items : List Json} {limit : Nat} :
    depthItems items ≤ limit ↔ ∀ v ∈ items, v.depth ≤ limit := by
  induction items with
  | nil => simp [depthItems]
  | cons v rest ih => rw [depthItems, Nat.max_le, ih, List.forall_mem_cons]

lemma depthMembers_le_iff {members : List (String × Json)} {limit : Nat} :
    depthMembers members ≤ limit ↔ ∀ m ∈ members, m.2.depth ≤ limit := by
  induction members with
  | nil => simp [depthMembers]
  | cons m rest ih => rw [depthMembers, Nat.max_le, ih, List.forall_mem_cons]

lemma itemsToJson?_draftItems {limit : Nat} {items : List Json}
    (h : ∀ v ∈ items, v.draft.toJson? limit = some v) :
    itemsToJson? limit (draftItems items) = some items := by
  induction items with
  | nil => rfl
  | cons v rest ih =>
      rw [List.forall_mem_cons] at h
      simp only [draftItems, itemsToJson?, h.1, ih h.2]

/-- A member whose name comes last is put at the end. -/
lemma insertMember_append {name : String} {value : Json} {members : List (String × Json)}
    (h : ∀ m ∈ members, m.1 < name) :
    insertMember name value members = members ++ [(name, value)] := by
  induction members with
  | nil => rfl
  | cons m rest ih =>
      rw [List.forall_mem_cons] at h
      have hne : name ≠ m.1 := fun e => String.lt_irrefl _ (e ▸ h.1)
      rw [insertMember, if_neg hne, if_neg (String.lt_asymm h.1), ih h.2, List.cons_append]

/-- Ascending members are put one behind the other. -/
lemma membersToJson?_draftMembers {limit : Nat} {members done : List (String × Json)}
    (hascending : Ascending (done ++ members))
    (h : ∀ m ∈ members, m.2.draft.toJson? limit = some m.2) :
    membersToJson? limit done (draftMembers members) = some (done ++ members) := by
  induction members generalizing done with
  | nil => rw [draftMembers, membersToJson?, List.append_nil]
  | cons m rest ih =>
      obtain ⟨n, v⟩ := m
      rw [List.forall_mem_cons] at h
      have hlast : ∀ m ∈ done, m.1 < n := by
        intro m hm
        rw [Ascending, List.map_append, List.pairwise_append] at hascending
        exact hascending.2.2 _ (List.mem_map_of_mem hm) _ List.mem_cons_self
      have hsplit : done ++ (n, v) :: rest = done ++ [(n, v)] ++ rest :=
        List.append_cons done (n, v) rest
      rw [hsplit] at hascending ⊢
      simp only [draftMembers, membersToJson?, h.1]
      rw [insertMember_append hlast]
      exact ih hascending h.2

/-- **A document as it is kept is had back from its draft**, within the limit of nesting. -/
theorem toJson?_draft {j : Json} (h : j.WellFormed) {limit : Nat} (hdepth : j.depth ≤ limit) :
    j.draft.toJson? limit = some j := by
  induction h generalizing limit with
  | null => rfl
  | bool b => rfl
  | number _ => rfl
  | string s => rfl
  | @array items _ ih =>
      rw [depth] at hdepth
      have hdepths : ∀ v ∈ items, v.depth ≤ limit - 1 := depthItems_le_iff.mp (by omega)
      rw [draft, Draft.toJson?, if_neg (by omega),
        itemsToJson?_draftItems fun v hv => ih v hv (hdepths v hv)]
      rfl
  | @object members hascending _ ih =>
      rw [depth] at hdepth
      have hdepths : ∀ m ∈ members, m.2.depth ≤ limit - 1 := depthMembers_le_iff.mp (by omega)
      have hmembers : membersToJson? (limit - 1) [] (draftMembers members) = some ([] ++ members) :=
        membersToJson?_draftMembers hascending fun m hm => ih m hm (hdepths m hm)
      rw [draft, Draft.toJson?, if_neg (by omega), hmembers]
      rfl

/-! ## What is read -/

/-- **Drafts all of whose numbers have a property.** -/
inductive Draft.AllNumbers (p : Number → Prop) : Draft → Prop where
  | null : AllNumbers p .null
  | bool (b : Bool) : AllNumbers p (.bool b)
  | number {n : Option Number} : (∀ m ∈ n, p m) → AllNumbers p (.number n)
  | string (s : Option String) : AllNumbers p (.string s)
  | array {items : List Draft} : (∀ d ∈ items, d.AllNumbers p) → AllNumbers p (.array items)
  | object {members : List (Option String × Draft)} :
      (∀ m ∈ members, m.2.AllNumbers p) → AllNumbers p (.object members)

/-- **Drafts whose numbers fit.** -/
abbrev Draft.Fits : Draft → Prop := AllNumbers Number.Fits

/-! ## What is read is as documents are kept -/

lemma ascending_nil : Ascending [] := List.Pairwise.nil

lemma ascending_cons {m : String × Json} {members : List (String × Json)} :
    Ascending (m :: members) ↔ (∀ m' ∈ members, m.1 < m'.1) ∧ Ascending members := by
  rw [Ascending, List.map_cons, List.pairwise_cons, List.forall_mem_map, Ascending]

lemma mem_insertMember {name : String} {value : Json} {members : List (String × Json)}
    {m : String × Json} (h : m ∈ insertMember name value members) :
    m = (name, value) ∨ m ∈ members := by
  induction members with
  | nil => exact .inl (List.mem_singleton.mp h)
  | cons m' rest ih =>
      rw [insertMember] at h
      split at h
      · rcases List.mem_cons.mp h with rfl | hrest
        · exact .inl rfl
        · exact .inr (List.mem_cons_of_mem _ hrest)
      · split at h
        · exact List.mem_cons.mp h
        · rcases List.mem_cons.mp h with rfl | hrest
          · exact .inr List.mem_cons_self
          · exact (ih hrest).imp_right (List.mem_cons_of_mem _)

/-- **Putting a member in its place keeps members ascending.** -/
lemma Ascending.insertMember {members : List (String × Json)} (h : Ascending members)
    (name : String) (value : Json) : Ascending (insertMember name value members) := by
  induction members with
  | nil => exact List.pairwise_singleton _ _
  | cons m rest ih =>
      have hcons := ascending_cons.mp h
      rw [Json.insertMember]
      split
      · rename_i heq
        exact ascending_cons.mpr ⟨heq ▸ hcons.1, hcons.2⟩
      · split
        · rename_i hlt
          refine ascending_cons.mpr ⟨?_, h⟩
          intro m' hm'
          rcases List.mem_cons.mp hm' with rfl | hrest
          · exact hlt
          · exact String.lt_trans hlt (hcons.1 m' hrest)
        · rename_i hne hnlt
          have hbehind : m.1 < name := lt_of_le_of_ne (not_lt.mp hnlt) (Ne.symm hne)
          refine ascending_cons.mpr ⟨?_, ih hcons.2⟩
          intro m' hm'
          rcases mem_insertMember hm' with rfl | hrest
          · exact hbehind
          · exact hcons.1 m' hrest

section Kept

variable {limit : Nat}

/-- What holds of each item of a draft holds of each item of the document. -/
lemma itemsToJson?_kept {drafts : List Draft} {items : List Json} {q : Json → Prop}
    (hkept : ∀ d ∈ drafts, ∀ j, d.toJson? limit = some j → q j)
    (h : itemsToJson? limit drafts = some items) : ∀ v ∈ items, q v := by
  induction drafts generalizing items with
  | nil =>
      cases h
      exact List.forall_mem_nil _
  | cons d rest ih =>
      rw [List.forall_mem_cons] at hkept
      rw [itemsToJson?] at h
      split at h
      · rename_i v vs hv hvs
        cases h
        exact List.forall_mem_cons.mpr ⟨hkept.1 v hv, ih hkept.2 hvs⟩
      · cases h

/-- What holds of each member of a draft holds of each member of the document, and these ascend. -/
lemma membersToJson?_kept {drafts : List (Option String × Draft)}
    {done members : List (String × Json)} {q : Json → Prop}
    (hkept : ∀ m ∈ drafts, ∀ j, m.2.toJson? limit = some j → q j)
    (hascending : Ascending done) (hdone : ∀ m ∈ done, q m.2)
    (h : membersToJson? limit done drafts = some members) :
    Ascending members ∧ ∀ m ∈ members, q m.2 := by
  induction drafts generalizing done with
  | nil =>
      cases h
      exact ⟨hascending, hdone⟩
  | cons m rest ih =>
      obtain ⟨name, d⟩ := m
      rw [List.forall_mem_cons] at hkept
      simp only [membersToJson?] at h
      split at h
      · rename_i n v hv
        refine ih hkept.2 (hascending.insertMember n v) ?_ h
        intro m hm
        rcases mem_insertMember hm with rfl | hold
        · exact hkept.1 v hv
        · exact hdone m hold
      · cases h

/-- **Every document that is read is as documents are kept**, and nested within the limit. -/
theorem toJson?_kept {d : Draft} (h : d.Fits) {j : Json} (hj : d.toJson? limit = some j) :
    j.WellFormed ∧ j.depth ≤ limit := by
  induction h generalizing limit j with
  | null =>
      cases hj
      exact ⟨.null, Nat.zero_le _⟩
  | bool b =>
      cases hj
      exact ⟨.bool b, Nat.zero_le _⟩
  | number hfits =>
      obtain ⟨m, hm, rfl⟩ := Option.map_eq_some_iff.mp hj
      exact ⟨.number (hfits m hm), Nat.zero_le _⟩
  | string s =>
      obtain ⟨s, -, rfl⟩ := Option.map_eq_some_iff.mp hj
      exact ⟨.string s, Nat.zero_le _⟩
  | array _ ih =>
      rw [Draft.toJson?] at hj
      split at hj
      · cases hj
      · obtain ⟨items, hitems, rfl⟩ := Option.map_eq_some_iff.mp hj
        have hkept := itemsToJson?_kept (fun d hd _ hj => ih d hd hj) hitems
        have hdepth := depthItems_le_iff.mpr fun v hv => (hkept v hv).2
        exact ⟨.array fun v hv => (hkept v hv).1, by rw [depth]; omega⟩
  | object _ ih =>
      rw [Draft.toJson?] at hj
      split at hj
      · cases hj
      · obtain ⟨members, hmembers, rfl⟩ := Option.map_eq_some_iff.mp hj
        obtain ⟨hascending, hkept⟩ := membersToJson?_kept (fun m hm _ hj => ih m hm hj)
          ascending_nil (List.forall_mem_nil _) hmembers
        have hdepth := depthMembers_le_iff.mpr fun m hm => (hkept m hm).2
        exact ⟨.object hascending fun m hm => (hkept m hm).1, by rw [depth]; omega⟩

/-- **The numbers of a document are those of its draft.** -/
theorem toJson?_allNumbers {p : Number → Prop} {d : Draft} (h : d.AllNumbers p) {j : Json}
    (hj : d.toJson? limit = some j) : j.AllNumbers p := by
  induction h generalizing limit j with
  | null =>
      cases hj
      exact .null
  | bool b =>
      cases hj
      exact .bool b
  | number hall =>
      obtain ⟨m, hm, rfl⟩ := Option.map_eq_some_iff.mp hj
      exact .number (hall m hm)
  | string s =>
      obtain ⟨s, -, rfl⟩ := Option.map_eq_some_iff.mp hj
      exact .string s
  | array _ ih =>
      rw [Draft.toJson?] at hj
      split at hj
      · cases hj
      · obtain ⟨items, hitems, rfl⟩ := Option.map_eq_some_iff.mp hj
        exact .array (itemsToJson?_kept (fun d hd _ hj => ih d hd hj) hitems)
  | object _ ih =>
      rw [Draft.toJson?] at hj
      split at hj
      · cases hj
      · obtain ⟨members, hmembers, rfl⟩ := Option.map_eq_some_iff.mp hj
        exact .object (membersToJson?_kept (fun m hm _ hj => ih m hm hj) ascending_nil
          (List.forall_mem_nil _) hmembers).2

end Kept

end BoundSql.Json
