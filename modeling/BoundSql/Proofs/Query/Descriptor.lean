import BoundSql.Proofs.Json.Reading
import BoundSql.Query.Descriptor

/-!
# Descriptors that are written and read

A descriptor is written as a document, and what it says of its parameters there is no more than
their documents.  What is read from it has all parts of the descriptor and all names of its
parameters; a parameter has the value closest to its document, which may be another one.

* `Value.IsNative` — values that documents tell apart.
* `same_ofJson_toJson_iff` — these, and no others, come back from their documents.
* `readParams?_draftMembers` — parameters are read in their order.
* **`exists_ofText_text`** — a descriptor is read back; it is the same one exactly if the values of
  all its parameters are native.
-/

namespace BoundSql

open Json

namespace Value

/-! ## Values and their documents -/

/-- **A value without floating-point numbers.** -/
def FloatFree : Value → Prop
  | .real _ => False
  | .json j => j.FloatFree
  | _ => True

/-- A value whose document is as documents are kept. -/
def WellFormed : Value → Prop
  | .json j => j.WellFormed
  | _ => True

/-- **A value that documents know**: null, a truth value, a number of eight bytes, a text, a list or
an object. -/
def IsNative : Value → Prop
  | .null | .bool _ | .int64 _ | .text _ | .json (.array _) | .json (.object _) => True
  | _ => False

/-- **What the document of a value may be**: that of a scalar, a list of bytes, or the document that
the value holds. -/
lemma toJson_cases {P : Json → Prop} (v : Value) (null : P .null) (bool : ∀ b, P (.bool b))
    (whole : ∀ n : Int64, P (.ofInt n.toInt)) (string : ∀ s, P (.string s))
    (bytes : ∀ bs : List UInt8, P (.array (bs.map fun b => .ofInt b.toNat)))
    (real : ∀ x, v = .real x → P (.ofBinary64 x)) (json : ∀ j, v = .json j → P j) :
    P v.toJson := by
  cases v with
  | null => exact null
  | bool b => exact bool b
  | int32 n =>
      have hwide := whole n.toInt64
      rwa [Int32.toInt_toInt64] at hwide
  | int64 n => exact whole n
  | real x => exact real x rfl
  | text s => exact string s
  | bytes bs => exact bytes bs
  | uuid u => exact string _
  | json j => exact json j rfl
  | timestamp t => exact string _
  | date d => exact string _

lemma floatFree_toJson {v : Value} (h : v.FloatFree) : v.toJson.FloatFree := by
  refine v.toJson_cases .null .bool (fun n => .number trivial) .string (fun bs => .array ?_) ?_ ?_
  case refine_1 =>
    intro j hj
    obtain ⟨b, -, rfl⟩ := List.mem_map.mp hj
    exact .number trivial
  case refine_2 =>
    rintro x rfl
    exact h.elim
  case refine_3 =>
    rintro j rfl
    exact h

lemma wellFormed_toJson {v : Value} (h : v.WellFormed) : v.toJson.WellFormed := by
  refine v.toJson_cases .null .bool (fun n => .number ?_) .string (fun bs => .array ?_) ?_ ?_
  case refine_1 =>
    have hlow := n.le_toInt
    have hhigh := n.toInt_lt
    exact ⟨by omega, by omega⟩
  case refine_2 =>
    intro j hj
    obtain ⟨b, -, rfl⟩ := List.mem_map.mp hj
    have hbyte := b.toNat_lt
    exact .number ⟨by omega, by omega⟩
  case refine_3 =>
    intro x _
    rw [Json.ofBinary64]
    split
    · exact .number trivial
    · exact .null
  case refine_4 =>
    rintro j rfl
    exact h

/-- The document of a value is nested no deeper than the document that it holds, or than a list of
bytes. -/
lemma depth_toJson_le {v : Value} {limit : Nat} (hlimit : 1 ≤ limit)
    (h : ∀ j, v = .json j → j.depth ≤ limit) : v.toJson.depth ≤ limit := by
  refine v.toJson_cases (Nat.zero_le _) (fun _ => Nat.zero_le _) (fun _ => Nat.zero_le _)
    (fun _ => Nat.zero_le _) ?_ ?_ h
  case refine_1 =>
    intro bs
    have hitems : depthItems (bs.map fun b => .ofInt b.toNat) ≤ 0 := by
      refine depthItems_le_iff.mpr fun j hj => ?_
      obtain ⟨b, -, rfl⟩ := List.mem_map.mp hj
      exact Nat.le_refl 0
    rw [depth]
    omega
  case refine_2 =>
    intro x _
    rw [Json.ofBinary64]
    split <;> exact Nat.zero_le _

lemma ofJson_ofInt (n : Int64) : ofJson (.ofInt n.toInt) = .int64 n := by
  have hlow : leastInt64 ≤ n.toInt := n.le_toInt
  have hhigh : n.toInt ≤ greatestInt64 := Int.le_of_lt_add_one n.toInt_lt
  rw [Json.ofInt, ofJson, if_pos ⟨hlow, hhigh⟩, Int64.ofInt_toInt]

/-- A number is read as a number, of one of two kinds. -/
lemma ofJson_number (n : Json.Number) :
    (∃ m, ofJson (.number n) = .int64 m) ∨ ∃ x, ofJson (.number n) = .real x := by
  cases n with
  | whole n =>
      rw [ofJson]
      split
      · exact .inl ⟨_, rfl⟩
      · exact .inr ⟨_, rfl⟩
  | real x => exact .inr ⟨x, rfl⟩

/-- **Native values come back from their documents, and no others do.** -/
lemma same_ofJson_toJson_iff {v : Value} (h : v.FloatFree) :
    v.same (ofJson v.toJson) = true ↔ v.IsNative := by
  cases v with
  | null => simp [toJson, ofJson, same, IsNative]
  | bool b => simp [toJson, ofJson, same, IsNative]
  | int32 n =>
      rw [toJson, Json.ofInt]
      rcases ofJson_number (.whole n.toInt) with ⟨m, hm⟩ | ⟨x, hx⟩
      · simp [hm, same, IsNative]
      · simp [hx, same, IsNative]
  | int64 n => simp [toJson, ofJson_ofInt, same, IsNative]
  | real x => exact h.elim
  | text s => simp [toJson, ofJson, same, IsNative]
  | json j =>
      cases j with
      | array items => simp [toJson, ofJson, same, IsNative, Json.FloatFree.same_self h]
      | object members => simp [toJson, ofJson, same, IsNative, Json.FloatFree.same_self h]
      | null => simp [toJson, ofJson, same, IsNative]
      | bool b => simp [toJson, ofJson, same, IsNative]
      | string s => simp [toJson, ofJson, same, IsNative]
      | number n =>
          rw [toJson]
          rcases ofJson_number n with ⟨m, hm⟩ | ⟨x, hx⟩
          · simp [hm, same, IsNative]
          · simp [hx, same, IsNative]
  | bytes bs => simp [toJson, ofJson, same, IsNative]
  | uuid u => simp [toJson, ofJson, same, IsNative]
  | timestamp t => simp [toJson, ofJson, same, IsNative]
  | date d => simp [toJson, ofJson, same, IsNative]

end Value

namespace Record

/-- A new name goes to the end. -/
lemma put_of_not_mem {name : String} {entries : List (String × Value)}
    (h : name ∉ entries.map Prod.fst) (value : Value) :
    put name value entries = entries ++ [(name, value)] := by
  induction entries with
  | nil => rfl
  | cons e rest ih =>
      rw [List.map_cons, List.mem_cons, not_or] at h
      rw [put, if_neg (Ne.symm h.1), ih h.2, List.cons_append]

/-- Two records in which values of one order of names correspond are equal exactly if these are. -/
lemma same_map_iff (r s : Record) (f : Value → Value)
    (h : s.entries = r.entries.map fun e => (e.1, f e.2)) :
    r.same s = true ↔ ∀ v ∈ r.values, v.same (f v) = true := by
  have hsize : r.size = s.size := by rw [size, size, h, List.length_map]
  have hget : ∀ e ∈ r.entries, s.get? e.1 = some (f e.2) := fun e he =>
    lookup_of_mem s.nodup (h ▸ List.mem_map_of_mem he)
  rw [same, hsize, beq_self_eq_true, Bool.true_and, List.all_eq_true, values, List.forall_mem_map]
  refine forall₂_congr fun e he => ?_
  rw [hget e he]

end Record

namespace Query

/-! ## Parts of a descriptor -/

lemma readText?_optionalText (s : Option String) : readText? (optionalText s).draft = some s := by
  cases s <;> rfl

lemma readInteger?_optionalInteger (n : Option Int64) :
    readInteger? (optionalInteger n).draft = some n := by
  cases n with
  | none => rfl
  | some n =>
      have hlow : Value.leastInt64 ≤ n.toInt := n.le_toInt
      have hhigh : n.toInt ≤ Value.greatestInt64 := Int.le_of_lt_add_one n.toInt_lt
      simp only [optionalInteger, Option.elim_some, Json.ofInt, draft, readInteger?,
        if_pos (And.intro hlow hhigh), Int64.ofInt_toInt]

lemma readTexts?_texts (texts : List String) :
    readTexts? (Json.array (texts.map .string)).draft = some texts := by
  simp only [draft, readTexts?]
  induction texts with
  | nil => rfl
  | cons s texts ih => simp only [List.map_cons, draftItems, draft, List.mapM_cons, ih]; rfl

/-- **Parameters are read in their order**, each with the value closest to its document. -/
lemma readParams?_draftMembers {entries : List (String × Value)} {done : Record}
    (hnodup : (done.entries.map Prod.fst ++ entries.map Prod.fst).Nodup)
    (hread : ∀ e ∈ entries, e.2.toJson.draft.toJson? parameterNesting = some e.2.toJson) :
    ∃ params : Record,
      readParams? done (draftMembers (entries.map fun e => (e.1, e.2.toJson))) = some params ∧
      params.entries = done.entries ++ entries.map fun e => (e.1, .ofJson e.2.toJson) := by
  induction entries generalizing done with
  | nil => exact ⟨done, rfl, (List.append_nil _).symm⟩
  | cons e entries ih =>
      obtain ⟨n, v⟩ := e
      rw [List.forall_mem_cons] at hread
      have hnew : n ∉ done.entries.map Prod.fst := by
        intro hmem
        rw [List.nodup_append] at hnodup
        exact hnodup.2.2 n hmem n List.mem_cons_self rfl
      have hentries : (done.insert n (.ofJson v.toJson)).entries =
          done.entries ++ [(n, .ofJson v.toJson)] := Record.put_of_not_mem hnew _
      have hnodup' : ((done.insert n (.ofJson v.toJson)).entries.map Prod.fst ++
          entries.map Prod.fst).Nodup := by
        rw [hentries, List.map_append, List.append_assoc]
        exact hnodup
      obtain ⟨params, hparams, hvalues⟩ := ih hnodup' hread.2
      refine ⟨params, ?_, ?_⟩
      · simp only [List.map_cons, draftMembers, readParams?, hread.1, hparams]
      · rw [hvalues, hentries, List.append_assoc]
        rfl

lemma setMembers?_nil (q : Query) (seen : List Member) : setMembers? q seen [] = some q := rfl

/-- A member that was not seen yet is set. -/
lemma setMembers?_cons {q : Query} {seen : List Member} (member : Member) {d : Draft}
    {rest : List (Option String × Draft)} (hmember : member ∉ seen) :
    setMembers? q seen ((some member.name, d) :: rest) =
      (q.set? member d).bind fun q => setMembers? q (member :: seen) rest := by
  have hname : Member.ofName? member.name = some member := by cases member <;> rfl
  simp only [setMembers?, hname, if_neg hmember]

/-- **A descriptor is read from its own draft**, but for the values of its parameters. -/
lemma ofDraft?_draft (q : Query) {params : Record}
    (hparams : readParams? .empty (draftMembers (q.params.entries.map fun e => (e.1, e.2.toJson))) =
      some params) :
    ofDraft? q.toJson.draft = some { q with params } := by
  have hdraft : q.toJson.draft = .object
      [(some Member.table.name, (optionalText q.table).draft),
        (some Member.queryText.name, (optionalText q.queryText).draft),
        (some Member.whereClause.name, (optionalText q.whereClause).draft),
        (some Member.fields.name, (Json.array (q.fields.map .string)).draft),
        (some Member.sortBy.name, (Json.array (q.sortBy.map .string)).draft),
        (some Member.limit.name, (optionalInteger q.limit).draft),
        (some Member.offset.name, (optionalInteger q.offset).draft),
        (some Member.pageIndex.name, (optionalInteger q.pageIndex).draft),
        (some Member.rowsPerPage.name, (optionalInteger q.rowsPerPage).draft),
        (some Member.params.name,
          .object (draftMembers (q.params.entries.map fun e => (e.1, e.2.toJson))))] := rfl
  rw [hdraft, ofDraft?]
  -- The members come in the order in which they are written, so none was seen before.
  simp (disch := decide) only [setMembers?_cons, setMembers?_nil, set?, readText?_optionalText,
    readTexts?_texts, readInteger?_optionalInteger, hparams, Option.map_some, Option.bind_some]

/-! ## Whole descriptors -/

/-- What is true of all whole numbers of eight bytes, and of the numbers of all parameters, is true
of all numbers of a descriptor. -/
lemma allNumbers_toJson {p : Number → Prop} (hwhole : ∀ n : Int64, p (.whole n.toInt)) {q : Query}
    (hparams : ∀ v ∈ q.params.values, v.toJson.AllNumbers p) : q.toJson.AllNumbers p := by
  have htext : ∀ s, (optionalText s).AllNumbers p := by
    intro s
    cases s with
    | none => exact .null
    | some s => exact .string s
  have htexts : ∀ texts : List String, (Json.array (texts.map .string)).AllNumbers p := by
    refine fun texts => .array fun j hj => ?_
    obtain ⟨s, -, rfl⟩ := List.mem_map.mp hj
    exact .string s
  have hinteger : ∀ n, (optionalInteger n).AllNumbers p := by
    intro n
    cases n with
    | none => exact .null
    | some n => exact .number (hwhole n)
  have hrecord : q.params.toOrderedJson.AllNumbers p := by
    refine .object fun m hm => ?_
    obtain ⟨e, he, rfl⟩ := List.mem_map.mp hm
    exact hparams e.2 (List.mem_map_of_mem he)
  refine .object ?_
  simp [htext, htexts, hinteger, hrecord]

/-- **A descriptor that is written is read back**, with all its parts and with the names of its
parameters in their order, whatever these hold besides floating-point numbers and documents nested
too deep.  It is the same descriptor exactly if the values of all its parameters are native.

Documents among the values are as documents are kept, as all are that were ever read. -/
theorem exists_ofText_text (q : Query) (hfree : ∀ v ∈ q.params.values, v.FloatFree)
    (hdepth : ∀ j, Value.json j ∈ q.params.values → j.depth ≤ 125)
    (hwell : ∀ v ∈ q.params.values, v.WellFormed) :
    ∃ params : Record, ofText? q.text = some { q with params } ∧
      params.names = q.params.names ∧
      params.values = q.params.values.map (fun v => .ofJson v.toJson) ∧
      (q.same { q with params } = true ↔ ∀ v ∈ q.params.values, v.IsNative) := by
  have hdraft : Draft.ofText? q.toJson.write = some q.toJson.draft :=
    ofText?_write
      (allNumbers_toJson (fun _ => trivial) fun v hv => Value.floatFree_toJson (hfree v hv))
      (allNumbers_toJson (fun n => ⟨n.le_toInt, by have hlt := n.toInt_lt; omega⟩)
        fun v hv => (Value.wellFormed_toJson (hwell v hv)).allNumbers)
  have hread : ∀ e ∈ q.params.entries,
      e.2.toJson.draft.toJson? parameterNesting = some e.2.toJson := by
    intro e he
    have hvalue : e.2 ∈ q.params.values := List.mem_map_of_mem he
    refine toJson?_draft (Value.wellFormed_toJson (hwell _ hvalue)) ?_
    exact Value.depth_toJson_le (by decide) fun j hj => hdepth j (hj ▸ hvalue)
  have hnodup : (Record.empty.entries.map Prod.fst ++ q.params.entries.map Prod.fst).Nodup :=
    q.params.nodup
  obtain ⟨params, hparams, hentries⟩ := readParams?_draftMembers hnodup hread
  rw [Record.empty, List.nil_append] at hentries
  refine ⟨params, ?_, ?_, ?_, ?_⟩
  · rw [ofText?, text, Json.text, String.toList_ofList, hdraft, Option.bind_some,
      ofDraft?_draft q hparams]
  · rw [Record.names, hentries, List.map_map]
    rfl
  · rw [Record.values, hentries, List.map_map, Record.values, List.map_map]
    rfl
  · have hsame := Record.same_map_iff q.params params (fun v => .ofJson v.toJson) hentries
    simp only [same, beq_self_eq_true, Bool.true_and, hsame]
    exact forall₂_congr fun v hv => Value.same_ofJson_toJson_iff (hfree v hv)

/-- A number of four bytes comes back as one of eight, and so the descriptor is another one. -/
theorem exists_ofText_text_narrow :
    let q := ((Query.ofTable "users").param "tags" (.json (.array [.string "new"]))).param "id"
      (.int32 7)
    (∀ v ∈ q.params.values, v.FloatFree) ∧
      (∀ j, Value.json j ∈ q.params.values → j.depth ≤ 125) ∧
      (∀ v ∈ q.params.values, v.WellFormed) ∧
      ∃ params : Record, ofText? q.text = some { q with params } ∧
        q.same { q with params } = false := by
  intro q
  have hvalues : q.params.values = [.json (.array [.string "new"]), .int32 7] := rfl
  have hfree : ∀ v ∈ q.params.values, v.FloatFree := by
    rw [hvalues, List.forall_mem_cons, List.forall_mem_singleton]
    exact ⟨.array (List.forall_mem_singleton.mpr (.string _)), trivial⟩
  have hdepth : ∀ j, Value.json j ∈ q.params.values → j.depth ≤ 125 := by
    intro j hj
    rw [hvalues] at hj
    cases hj with
    | head => decide
    | tail _ hrest => cases hrest with | tail _ hrest => cases hrest
  have hwell : ∀ v ∈ q.params.values, v.WellFormed := by
    rw [hvalues, List.forall_mem_cons, List.forall_mem_singleton]
    exact ⟨.array (List.forall_mem_singleton.mpr (.string _)), trivial⟩
  obtain ⟨params, hread, -, -, hsame⟩ := exists_ofText_text q hfree hdepth hwell
  refine ⟨hfree, hdepth, hwell, params, hread, ?_⟩
  rw [Bool.eq_false_iff, Ne, hsame, hvalues]
  exact fun hnative => hnative (.int32 7) (.tail _ (.head _))

end Query

end BoundSql
