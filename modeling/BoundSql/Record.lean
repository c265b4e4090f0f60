import BoundSql.Value

/-!
# Records

A record gives names to values and keeps the order in which the names came.  Rows of a result,
records to be inserted and named parameters are all records.

* **`Record`** — the type; no name occurs twice.
* **`Record.insert`** — a new name goes to the end, a known one keeps its place.
* **`Record.get?`**, **`Record.at?`**, **`Record.take`** — access by name and by place.
* **`map_get?_names`** — the values found under the names are the values of the record.
* **`get?_insert`**, **`names_insert_of_mem`**, **`names_insert_of_not_mem`** — what an insertion does.
-/

namespace BoundSql

/-- **Names and their values**, in the order in which the names came. -/
structure Record where
  entries : List (String × Value)
  nodup : (entries.map Prod.fst).Nodup := by simp

/-- One row of a result. -/
abbrev Row := Record

namespace Record

/-! ## Lists of named values -/

/-- The value of a name. -/
def lookup (name : String) : List (String × Value) → Option Value
  | [] => none
  | (n, v) :: rest => if n = name then some v else lookup name rest

/-- Gives a name a value: in its place if it is there, at the end if it is not. -/
def put (name : String) (value : Value) : List (String × Value) → List (String × Value)
  | [] => [(name, value)]
  | (n, v) :: rest => if n = name then (n, value) :: rest else (n, v) :: put name value rest

/-- The names after an insertion. -/
theorem map_fst_put (name : String) (value : Value) (entries : List (String × Value)) :
    (put name value entries).map Prod.fst =
      if name ∈ entries.map Prod.fst then entries.map Prod.fst
      else entries.map Prod.fst ++ [name] := by
  induction entries with
  | nil => simp [put]
  | cons e rest ih =>
    obtain ⟨n, v⟩ := e
    by_cases h : n = name
    · simp [put, h]
    · have h' : name ≠ n := fun e => h e.symm
      simp only [put, h, if_false, List.map_cons, ih, List.mem_cons, h', false_or]
      split <;> simp

theorem nodup_put {entries : List (String × Value)} (name : String) (value : Value)
    (h : (entries.map Prod.fst).Nodup) : ((put name value entries).map Prod.fst).Nodup := by
  rw [map_fst_put]
  split
  · exact h
  · rename_i hn
    rw [List.nodup_append]
    refine ⟨h, by simp, ?_⟩
    intro a ha b hb hab
    simp only [List.mem_singleton] at hb
    exact hn (hb ▸ hab ▸ ha)

theorem lookup_put (name n : String) (value : Value) (entries : List (String × Value)) :
    lookup n (put name value entries) = if n = name then some value else lookup n entries := by
  induction entries with
  | nil => simp [put, lookup, eq_comm]
  | cons e rest ih =>
    obtain ⟨m, v⟩ := e
    by_cases h : m = name
    · subst h
      by_cases hn : n = m
      · simp [put, lookup, hn]
      · have hm : m ≠ n := fun e => hn e.symm
        simp [put, lookup, hn, hm]
    · by_cases hn : m = n
      · subst hn; simp [put, lookup, h]
      · simp [put, lookup, h, hn, ih]

theorem lookup_of_mem {entries : List (String × Value)} (h : (entries.map Prod.fst).Nodup)
    {name : String} {value : Value} (hmem : (name, value) ∈ entries) :
    lookup name entries = some value := by
  induction entries with
  | nil => simp at hmem
  | cons e rest ih =>
    obtain ⟨n, v⟩ := e
    rw [List.map_cons, List.nodup_cons] at h
    rcases List.mem_cons.1 hmem with heq | hrest
    · obtain ⟨rfl, rfl⟩ := Prod.mk.inj heq
      simp [lookup]
    · have hn : n ≠ name := by
        rintro rfl
        exact h.1 (List.mem_map.2 ⟨_, hrest, rfl⟩)
      simp [lookup, hn, ih h.2 hrest]

theorem mem_of_lookup {entries : List (String × Value)} {name : String} {value : Value}
    (h : lookup name entries = some value) : (name, value) ∈ entries := by
  induction entries with
  | nil => simp [lookup] at h
  | cons e rest ih =>
    obtain ⟨n, v⟩ := e
    by_cases hn : n = name
    · simp [lookup, hn] at h
      simp [hn, h]
    · simp only [lookup, hn, if_false] at h
      exact List.mem_cons_of_mem _ (ih h)

/-! ## Records -/

/-- The record without names. -/
def empty : Record := ⟨[], by simp⟩

instance : Inhabited Record := ⟨empty⟩

/-- The names in order. -/
def names (r : Record) : List String := r.entries.map Prod.fst

/-- The values in the order of their names. -/
def values (r : Record) : List Value := r.entries.map Prod.snd

def isEmpty (r : Record) : Bool := r.entries.isEmpty

/-- The number of names. -/
def size (r : Record) : Nat := r.entries.length

/-- **Gives a name a value.**  A known name keeps its place. -/
def insert (r : Record) (name : String) (value : Value) : Record :=
  ⟨put name value r.entries, nodup_put name value r.nodup⟩

/-- The record of the given names and values; of several values of one name the last stays, in the
place of the first. -/
def ofList (entries : List (String × Value)) : Record :=
  entries.foldl (fun r e => r.insert e.1 e.2) empty

/-- The value of a name. -/
def get? (r : Record) (name : String) : Option Value := lookup name r.entries

/-- The value in a place, counted from zero. -/
def at? (r : Record) (place : Nat) : Option Value := r.entries[place]?.map Prod.snd

/-- **Takes a name out.**  The other names keep their order. -/
def erase (r : Record) (name : String) : Record :=
  ⟨r.entries.filter (fun e => e.1 ≠ name), r.nodup.sublist (List.filter_sublist.map _)⟩

/-- The value of a name, and the record without it. -/
def take (r : Record) (name : String) : Option Value × Record := (r.get? name, r.erase name)

/-- **Equality of records**: the same names with the same values, in any order. -/
def same (r s : Record) : Bool :=
  r.size == s.size && r.entries.all fun e =>
    match s.get? e.1 with
    | some v => e.2.same v
    | none => false

/-- **A record as a document**, with its members in ascending order of names. -/
def toJson (r : Record) : Json := .ofMembers (r.entries.map fun e => (e.1, e.2.toJson))

/-- A record as a document, with its members in the order of the record. -/
def toOrderedJson (r : Record) : Json := .object (r.entries.map fun e => (e.1, e.2.toJson))

/-! ## Names and their values -/

/-- Each name is found, with the value that stands beside it. -/
theorem map_get?_names (r : Record) : r.names.map r.get? = r.values.map some := by
  simp only [names, values, List.map_map]
  apply List.map_congr_left
  intro e he
  exact lookup_of_mem r.nodup he

/-- A name of the record has a value. -/
theorem exists_get?_of_mem {r : Record} {name : String} (h : name ∈ r.names) :
    ∃ value, r.get? name = some value := by
  obtain ⟨e, he, rfl⟩ := List.mem_map.1 h
  exact ⟨e.2, lookup_of_mem r.nodup he⟩

theorem get?_eq_some_iff {r : Record} {name : String} {value : Value} :
    r.get? name = some value ↔ (name, value) ∈ r.entries :=
  ⟨mem_of_lookup, lookup_of_mem r.nodup⟩

/-- The names of a record are those that have a value. -/
theorem mem_names_iff {r : Record} {name : String} :
    name ∈ r.names ↔ (r.get? name).isSome = true := by
  rw [Option.isSome_iff_exists]
  constructor
  · exact exists_get?_of_mem
  · rintro ⟨value, hvalue⟩
    exact List.mem_map.2 ⟨_, get?_eq_some_iff.1 hvalue, rfl⟩

/-- **The order of the names makes no difference** to their values. -/
theorem get?_eq_of_perm {r s : Record} (h : r.entries.Perm s.entries) (name : String) :
    r.get? name = s.get? name := by
  apply Option.ext
  intro value
  rw [get?_eq_some_iff, get?_eq_some_iff, h.mem_iff]

/-! ## What an insertion does -/

@[simp] theorem names_empty : names empty = [] := rfl

theorem get?_insert (r : Record) (name n : String) (value : Value) :
    (r.insert name value).get? n = if n = name then some value else r.get? n :=
  lookup_put name n value r.entries

theorem names_insert_of_mem {r : Record} {name : String} (value : Value) (h : name ∈ r.names) :
    (r.insert name value).names = r.names := by
  simp only [names, insert, map_fst_put]; exact if_pos h

theorem names_insert_of_not_mem {r : Record} {name : String} (value : Value)
    (h : name ∉ r.names) : (r.insert name value).names = r.names ++ [name] := by
  simp only [names, insert, map_fst_put]; exact if_neg h

end Record

end BoundSql
