import BoundSql.Record
import Mathlib.Data.List.Basic
import Mathlib.Data.List.Induction
import Mathlib.Tactic.Lemma

/-!
# Records filled from lists

A row of a result comes as a list of named values, and the list may give one name several times.

* `Record.Collects` — what a record filled from a list holds.
* `Record.names_insert` — an insertion adds a name once.
* **`Record.collects_iff`** — the record of a list holds this, and no other record does.
-/

namespace BoundSql.Record

/-- **What a record filled from a list holds**: the names of the list, each at the place where it
comes first, and under each name the value that comes last. -/
structure Collects (entries : List (String × Value)) (r : Record) : Prop where
  names : r.names = (entries.map Prod.fst).eraseDups
  last : ∀ {front rest : List (String × Value)} {name : String} {value : Value},
    entries = front ++ (name, value) :: rest → name ∉ rest.map Prod.fst →
      r.get? name = some value

/-- Two records with the same names, and the same values under them, are one. -/
lemma ext_get? {r s : Record} (hnames : r.names = s.names)
    (hget : ∀ name ∈ r.names, r.get? name = s.get? name) : r = s := by
  have hvalues : r.values.map some = s.values.map some := by
    rw [← map_get?_names, ← map_get?_names, ← hnames]
    exact List.map_congr_left hget
  have hentries : r.entries = s.entries := by
    have hzip (t : Record) : t.entries = t.names.zip t.values := List.zip_of_prod rfl rfl
    rw [hzip r, hzip s, hnames, List.map_injective_iff.mpr (fun _ _ => Option.some.inj) hvalues]
  obtain ⟨entries, _⟩ := r
  obtain ⟨_, _⟩ := s
  subst hentries
  rfl

/-- **An insertion adds a name once.** -/
lemma names_insert {r : Record} {given : List String} (h : r.names = given.eraseDups)
    (name : String) (value : Value) :
    (r.insert name value).names = (given ++ [name]).eraseDups := by
  rw [List.eraseDups_append, ← h]
  by_cases hname : name ∈ r.names
  · have hgiven : name ∈ given := List.mem_eraseDups.mp (h ▸ hname)
    rw [names_insert_of_mem value hname]
    simp [List.removeAll, hgiven]
  · have hgiven : name ∉ given := fun hmem => hname (h ▸ List.mem_eraseDups.mpr hmem)
    rw [names_insert_of_not_mem value hname]
    simp [List.removeAll, hgiven, List.eraseDups_cons]

lemma collects_nil : Collects [] empty :=
  ⟨rfl, fun h _ => by simp at h⟩

/-- One more name and value. -/
lemma Collects.insert {entries : List (String × Value)} {r : Record} (h : Collects entries r)
    (name : String) (value : Value) :
    Collects (entries ++ [(name, value)]) (r.insert name value) := by
  refine ⟨?_, ?_⟩
  · rw [List.map_append]
    exact names_insert h.names name value
  · intro front rest n v hsplit hlast
    rw [get?_insert]
    -- the entry that counts is the new one, or it stands among the others
    rcases rest.eq_nil_or_concat with rfl | ⟨rest, last, rfl⟩
    · obtain ⟨-, hnew⟩ := List.append_inj' hsplit rfl
      obtain ⟨rfl, rfl⟩ : name = n ∧ value = v := by simpa using hnew
      rw [if_pos rfl]
    · rw [List.concat_eq_append, ← List.cons_append, ← List.append_assoc] at hsplit
      obtain ⟨hentries, hnew⟩ := List.append_inj' hsplit rfl
      obtain rfl : (name, value) = last := by simpa using hnew
      have hne : n ≠ name := by
        rintro rfl
        exact hlast (by simp)
      have hrest : n ∉ rest.map Prod.fst := fun hmem => hlast (by simp [hmem])
      rw [if_neg hne]
      exact h.last hentries hrest

/-- Each name of the list has a value that comes last. -/
lemma exists_last {entries : List (String × Value)} {name : String}
    (h : name ∈ entries.map Prod.fst) :
    ∃ front value rest, entries = front ++ (name, value) :: rest ∧ name ∉ rest.map Prod.fst := by
  induction entries with
  | nil => simp at h
  | cons entry entries ih =>
    by_cases hrest : name ∈ entries.map Prod.fst
    · obtain ⟨front, value, rest, rfl, hlast⟩ := ih hrest
      exact ⟨entry :: front, value, rest, rfl, hlast⟩
    · obtain ⟨n, value⟩ := entry
      obtain rfl : name = n := by simpa [hrest] using h
      exact ⟨[], value, entries, rfl, hrest⟩

lemma Collects.unique {entries : List (String × Value)} {r s : Record} (hr : Collects entries r)
    (hs : Collects entries s) : r = s := by
  refine ext_get? (hr.names.trans hs.names.symm) fun name hname => ?_
  rw [hr.names, List.mem_eraseDups] at hname
  obtain ⟨front, value, rest, hsplit, hlast⟩ := exists_last hname
  rw [hr.last hsplit hlast, hs.last hsplit hlast]

/-- What is in the record is in the list. -/
lemma Collects.mem_of_get? {entries : List (String × Value)} {r : Record} (h : Collects entries r)
    {name : String} {value : Value} (hget : r.get? name = some value) :
    (name, value) ∈ entries := by
  have hname : name ∈ entries.map Prod.fst := by
    rw [← List.mem_eraseDups, ← h.names, mem_names_iff, hget]
    rfl
  obtain ⟨front, last, rest, rfl, hlast⟩ := exists_last hname
  obtain rfl : last = value := Option.some.inj ((h.last rfl hlast).symm.trans hget)
  simp

lemma collects_ofList (entries : List (String × Value)) : Collects entries (ofList entries) := by
  induction entries using List.reverseRecOn with
  | nil => exact collects_nil
  | append_singleton entries entry ih =>
    rw [ofList, List.foldl_append]
    exact ih.insert entry.1 entry.2

/-- **The record of a list holds each name once and the last value under it**, and it is the only
record that does. -/
theorem collects_iff {entries : List (String × Value)} {r : Record} :
    Collects entries r ↔ r = ofList entries :=
  ⟨fun h => h.unique (collects_ofList entries), fun h => h ▸ collects_ofList entries⟩

end BoundSql.Record
