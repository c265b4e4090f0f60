import BoundSql.Proofs.Session.Table
import BoundSql.Proofs.Sql.Fragment

/-!
# Rows that are created

A row is created by an insertion that asks for the value of the key.  The name of the key is used
twice: it stands in the statement as it was given, and it is looked up, letter for letter, among the
names that come back.

* `Table.createText` — the statement that creates a row, with the names as they were given.
* **`compile_create`** — what is sent is the statement, and its values are those of the record.
* `Table.Returns` — the value that comes back under the name of the key.
* `Table.Creates` — what is made of a response.
* **`run_create`** — a creation sends one statement, and finds the value if it has the name.
* `run_create_folded` — a value whose name differs in the case of its letters is not found.
-/

namespace BoundSql

open Sql

namespace Table

/-- **The statement that creates a row**, with all names as they were given.  Without columns the
row has its defaults. -/
def createText (t : Table) (record : Record) : String :=
  let row :=
    if record.isEmpty then " DEFAULT VALUES"
    else
      " (" ++ ", ".intercalate record.names ++ ") VALUES (" ++
        ", ".intercalate (record.names.mapIdx fun i _ => String.ofList (placeholder (i + 1))) ++ ")"
  "INSERT INTO " ++ t.name ++ row ++ " RETURNING " ++ t.idField

/-- With one column there is one placeholder. -/
lemma createText_insert_empty (t : Table) (name : String) (v : Value) :
    t.createText (Record.empty.insert name v) =
      "INSERT INTO " ++ t.name ++ " (" ++ name ++ ") VALUES ($1) RETURNING " ++ t.idField := by
  have hone : String.ofList (placeholder 1) = "$1" := by
    rw [placeholder, Decimal.digits]
    rfl
  have hempty : (Record.empty.insert name v).isEmpty = false := rfl
  have hnames : (Record.empty.insert name v).names = [name] := rfl
  have hmiddle : ") VALUES (" ++ "$1" ++ ")" ++ " RETURNING " = ") VALUES ($1) RETURNING " := by
    decide
  rw [createText, hempty, hnames, ← hmiddle]
  simp [hone, String.append_assoc]

/-- **What is sent is the statement**, and its values are those of the record in their order. -/
theorem compile_create (t : Table) (record : Record) :
    (Statement.insert ⟨t.name, record, some t.idField⟩).compile =
      ⟨t.createText record, record.values⟩ := by
  have hcomma : ", ".toList = [',', ' '] := by decide
  have hcompile : (Statement.insert ⟨t.name, record, some t.idField⟩).compile =
      let f := Insert.fragment ⟨t.name, record, some t.idField⟩ 0
      ⟨String.ofList f.text, f.slots.map (Insert.read ⟨t.name, record, some t.idField⟩)⟩ := rfl
  rw [hcompile]
  cases hempty : record.isEmpty with
  | true =>
    have hentries : record.entries = [] := List.isEmpty_iff.mp hempty
    rw [Insert.fragment_of_isEmpty hempty]
    refine congrArg₂ CompiledQuery.mk ?_ (by simp [Record.values, hentries])
    apply String.toList_inj.mp
    simp [createText, hempty, Insert.returningText]
  | false =>
    rw [Insert.fragment_of_ne hempty]
    refine congrArg₂ CompiledQuery.mk ?_ ?_
    · apply String.toList_inj.mp
      have hnumbers : (record.names.mapIdx fun i _ => String.ofList (placeholder (i + 1))).map
          String.toList = record.names.mapIdx fun i _ => placeholder (i + 1) := by
        simp only [List.mapIdx_eq_zipIdx_map, List.map_map, Function.comp_def, String.toList_ofList]
      simp [createText, hempty, Insert.returningText, hcomma, hnumbers]
    · have hread : (Insert.read ⟨t.name, record, some t.idField⟩ ∘ Slot.column) =
          fun name => (record.get? name).getD .null := rfl
      rw [List.map_map, hread]
      have hvalues := congrArg (List.map (·.getD Value.null)) record.map_get?_names
      simpa [Function.comp_def] using hvalues

/-- **The value that comes back under the name of the key**, in the first row; null if there is no
row. -/
inductive Returns (t : Table) : List Row → Value → Prop
  | nothing : Returns t [] .null
  | value {row : Row} {rest : List Row} {v : Value} :
      (t.idField, v) ∈ row.entries → Returns t (row :: rest) v

/-- The result is null only if no row comes back, or the value that does is null. -/
lemma Returns.eq_null {t : Table} {rows : List Row} (h : t.Returns rows .null) :
    rows = [] ∨ ∃ row rest, rows = row :: rest ∧ (t.idField, .null) ∈ row.entries := by
  cases h with
  | nothing => exact .inl rfl
  | value hv => exact .inr ⟨_, _, rfl, hv⟩

/-- **Rows that have the name of the key**: the first one has it, if there is one. -/
def Named (t : Table) (rows : List Row) : Prop := ∀ row ∈ rows.head?, t.idField ∈ row.names

/-- **What is made of a response.** -/
structure Creates (t : Table) (response : Response) (id : Value) : Prop where
  named : t.Named response.rows → t.Returns response.rows id
  null : t.Named response.rows → id = .null → response.rows = [] ∨
    ∃ row rest, response.rows = row :: rest ∧ (t.idField, .null) ∈ row.entries
  /-- A value that comes back alone is found just if it has the name of the key; unless it is
  null. -/
  single : ∀ row rest name v, response.rows = row :: rest → row.entries = [(name, v)] →
    (id = v ↔ name = t.idField ∨ v = .null)

/-- A response is looked up under the name of the key. -/
lemma creates_firstRow? (t : Table) (response : Response) :
    t.Creates response ((response.firstRow?.bind (·.get? t.idField)).getD .null) := by
  have hreturns : t.Named response.rows →
      t.Returns response.rows ((response.firstRow?.bind (·.get? t.idField)).getD .null) := by
    intro hnamed
    rcases hrows : response.rows with _ | ⟨row, rest⟩
    · simpa [Response.firstRow?, hrows] using Returns.nothing
    · obtain ⟨v, hv⟩ := Record.exists_get?_of_mem (hnamed row (by simp [hrows]))
      simpa [Response.firstRow?, hrows, hv] using Returns.value (Record.get?_eq_some_iff.mp hv)
  refine ⟨hreturns, fun hnamed hnull => (hnull ▸ hreturns hnamed).eq_null, ?_⟩
  intro row rest name v hrows hentries
  have hfound : row.get? t.idField = if name = t.idField then some v else none := by
    rw [Record.get?, hentries]
    rfl
  by_cases hname : name = t.idField
  · simp [Response.firstRow?, hrows, hfound, hname]
  · simp [Response.firstRow?, hrows, hfound, hname, eq_comm]

end Table

namespace Session

section Run

variable {σ ρ : Type}

/-- **A creation sends one statement, and returns the value of the key** if the first row that comes
back has its name. -/
theorem run_create (t : Table) (record : Record) {d : Driver σ} {via : Via}
    {executors : List Target} {w : World σ} {outcome : Outcome Response} {nanos : Nat} {s : σ}
    (hanswer : d.query w.state (via.target executors) ⟨t.createText record, record.values⟩ =
      (outcome, nanos, s)) (logging : Bool) (notes : ρ) {r : Ran σ Value ρ}
    (hr : (Work.request via (t.create record) fun answer => .finish answer notes).runWithin d logging
      executors w = r) :
    calls r.events = [.statement (via.target executors) ⟨t.createText record, record.values⟩
        outcome.succeeded] ∧
      (∃ read : Response → Value, (∀ response, t.Creates response (read response)) ∧
        r.outcome = outcome.readBy fun response => .ok (read response)) ∧
      r.world = { w with state := s } := by
  rw [Table.create, Table.compile_create] at hr
  obtain ⟨hcalls, houtcome, hworld⟩ := run_ask hanswer logging _ notes hr
  exact ⟨hcalls, ⟨_, t.creates_firstRow?, houtcome⟩, hworld⟩

end Run

/-- A key that comes back under its own name, beside another column. -/
theorem run_create_own_name :
    let t : Table := ⟨"users", "user_id"⟩
    let record := Record.empty.insert "name" (.text "ada")
    let row := (Record.empty.insert "age" (.int32 36)).insert "user_id" (.int64 7)
    let d : Driver Nat :=
      ⟨fun s => (.finished (.ok ()), s), fun s _ _ => (.finished (.ok (.ofRows [row])), 5, s + 1)⟩
    let r := (Work.request .handle (t.create record) fun answer =>
      .finish answer ()).runWithin d true [.connection 3] ⟨0, 4⟩
    t.createText record = "INSERT INTO users (name) VALUES ($1) RETURNING user_id" ∧
      calls r.events = [.statement (.connection 3) ⟨t.createText record, [.text "ada"]⟩ true] ∧
      r.outcome = .finished (.ok (.int64 7)) := by
  intro t record row d r
  have hanswer : d.query 0 (Via.handle.target [.connection 3])
      ⟨t.createText record, record.values⟩ = (.finished (.ok (.ofRows [row])), 5, 1) := rfl
  obtain ⟨hcalls, ⟨read, hread, houtcome⟩, -⟩ :=
    run_create t record (w := ⟨0, 4⟩) hanswer true () (r := r) rfl
  have hreturns : t.Returns [row] (read (.ofRows [row])) := by
    refine (hread (.ofRows [row])).named fun first hfirst => ?_
    obtain rfl : row = first := by simpa [Response.ofRows] using hfirst
    exact List.mem_cons_of_mem _ List.mem_cons_self
  have hid : read (.ofRows [row]) = .int64 7 := by
    cases hreturns with
    | value hv =>
      have hfound : row.get? t.idField = some (.int64 7) := rfl
      exact Option.some.inj ((Record.get?_eq_some_iff.mpr hv).symm.trans hfound)
  refine ⟨by rw [Table.createText_insert_empty]; decide, hcalls, ?_⟩
  rw [houtcome, ← hid]
  rfl

/-- A key whose name comes back in lower case: the statement was carried out, and the value that the
response holds is not returned. -/
theorem run_create_folded :
    let t : Table := ⟨"users", "userId"⟩
    let record := Record.empty.insert "name" (.text "ada")
    let row := Record.empty.insert "userid" (.int64 7)
    let d : Driver Nat :=
      ⟨fun s => (.finished (.ok ()), s), fun s _ _ => (.finished (.ok (.ofRows [row])), 5, s + 1)⟩
    let r := (Work.request .handle (t.create record) fun answer =>
      .finish answer ()).runWithin d true [.connection 3] ⟨0, 4⟩
    t.createText record = "INSERT INTO users (name) VALUES ($1) RETURNING userId" ∧
      calls r.events = [.statement (.connection 3) ⟨t.createText record, [.text "ada"]⟩ true] ∧
      row.entries = [("userid", .int64 7)] ∧ r.outcome = .finished (.ok .null) ∧
      r.outcome ≠ .finished (.ok (.int64 7)) := by
  intro t record row d r
  have hanswer : d.query 0 (Via.handle.target [.connection 3])
      ⟨t.createText record, record.values⟩ = (.finished (.ok (.ofRows [row])), 5, 1) := rfl
  have hr : (Work.request .handle (.ask ⟨t.createText record, record.values⟩ fun response =>
      .ok ((response.firstRow?.bind (·.get? t.idField)).getD .null)) fun answer =>
        .finish answer ()).runWithin d true [.connection 3] ⟨0, 4⟩ = r := by
    rw [← Table.compile_create]
    rfl
  obtain ⟨hcalls, houtcome, -⟩ := run_ask (w := ⟨0, 4⟩) hanswer true _ () hr
  have hnull : r.outcome = .finished (.ok .null) := houtcome
  refine ⟨by rw [Table.createText_insert_empty]; decide, hcalls, rfl, hnull, ?_⟩
  rw [hnull]
  simp

end Session

end BoundSql
