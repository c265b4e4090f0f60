import BoundSql.Proofs.Session.Protocol
import BoundSql.Proofs.Sql.Pairing
import BoundSql.Proofs.Statement.Body

/-!
# Requests on a table

A row is looked up by a query whose condition ends in the name `id`.  The names of the table, of its
key and of the columns come from the caller and stand in front of it, in the same text that is
scanned for names; casts may occur in them, also to types whose names start like this one.

* `Table.keyText` — the statement that finds a row, with the names as they were given.
* `Table.OnlyCasts` — that in these names colons only stand for casts.
* `keyQuery_body` — the text that is scanned is the statement, with `:id` for the placeholder.
* **`compile_keyQuery`** — what is sent is the statement, and the key is its only value.
* `run_ask` — a request that asks sends its statement once.
* **`run_get`** — so a lookup sends one statement, and its result is the first row of the response.
-/

namespace BoundSql

open Decimal Sql NamedParameter

namespace Table

/-- The columns that are asked for, each named after itself; all of them if none is given. -/
def columnsText (fields : List String) : String :=
  if fields.isEmpty then "*"
  else ",".intercalate (fields.map fun field => field ++ " as \"" ++ field ++ "\"")

/-- **The statement that finds a row by its key**, with all names as they were given. -/
def keyText (t : Table) (fields : List String) : String :=
  "SELECT " ++ columnsText fields ++ " FROM " ++ t.name ++ " WHERE " ++ t.idField ++ " = $1"

/-- **A lookup with casts at most**: in the names of the table, of its key and of the columns, every
maximal run of colons has an even length. -/
structure OnlyCasts (t : Table) (fields : List String) : Prop where
  name : EvenRuns t.name.toList
  idField : EvenRuns t.idField.toList
  fields : ∀ field ∈ fields, EvenRuns field.toList

/-! ## The statement -/

/-- What stands in front of the name of the key's value. -/
def keyFront (t : Table) (fields : List String) : List Char :=
  "SELECT ".toList ++ Query.projection fields ++ " FROM ".toList ++ t.name.toList ++
    " WHERE ".toList ++ t.idField.toList ++ " = ".toList

section Key

variable {t : Table} {fields : List String}

lemma paired_aliased {field : String} (h : Paired field.toList) : Paired (Query.aliased field) :=
  ((h.append (paired_of_not_mem (by decide))).append h).append (paired_of_not_mem (by decide))

lemma paired_projection (h : ∀ field ∈ fields, Paired field.toList) :
    Paired (Query.projection fields) := by
  rw [Query.projection]
  split
  · exact paired_of_not_mem (by decide)
  · apply Paired.intercalate (paired_of_not_mem (by decide))
    intro part hpart
    obtain ⟨field, hfield, rfl⟩ := List.mem_map.mp hpart
    exact paired_aliased (h field hfield)

/-- **In front of the name all colons stand in pairs.** -/
lemma OnlyCasts.paired_keyFront (h : t.OnlyCasts fields) : Paired (t.keyFront fields) := by
  have hfields := paired_projection fun field hfield => (h.fields field hfield).paired
  have hselect : Paired ("SELECT ".toList ++ Query.projection fields) :=
    (paired_of_not_mem (by decide)).append hfields
  have hfrom : Paired ("SELECT ".toList ++ Query.projection fields ++ " FROM ".toList ++
      t.name.toList) := (hselect.append (paired_of_not_mem (by decide))).append h.name.paired
  exact ((hfrom.append (paired_of_not_mem (by decide))).append h.idField.paired).append
    (paired_of_not_mem (by decide))

/-- A lookup has a table and a condition, and neither an order nor a limit. -/
lemma keyQuery_body (t : Table) (id : Value) (fields : List String) :
    (t.keyQuery id fields).body 0 = t.keyFront fields ++ ":id".toList := by
  have hclause : (t.idField ++ " = :id").toList ≠ [] := by
    rw [String.toList_append]
    exact List.append_ne_nil_of_right_ne_nil _ (by decide)
  have hcondition : (t.idField ++ " = :id").toList =
      t.idField.toList ++ " = ".toList ++ ":id".toList := by
    rw [String.toList_append, List.append_assoc]
    rfl
  have hselection : (t.keyQuery id fields).selection =
      "SELECT ".toList ++ Query.projection fields ++ " FROM ".toList ++ t.name.toList ++
        (" WHERE ".toList ++ (t.idField ++ " = :id").toList) := by
    have hraw : Query.given? none = none := rfl
    rw [Query.selection]
    simp only [keyQuery, Query.param, Query.filter, Query.withFields, Query.ofTable,
      Query.given?_some hclause, hraw, Option.getD_some]
  have hrest : (t.keyQuery id fields).ordering = [] ∧
      ((t.keyQuery id fields).pagingFragment 0).text = [] := ⟨rfl, rfl⟩
  rw [Query.body, hselection, hrest.1, hrest.2, hcondition]
  unfold keyFront
  simp only [List.append_assoc, List.append_nil]

/-- The name ends with the text. -/
lemma tokenises_id : Tokenises ["id".toList] ":id".toList [.token "id".toList] := by
  have hlongest : Longest ["id".toList] ("id".toList ++ []) "id".toList := by
    refine ⟨by simp, ⟨by decide, [], rfl, by simp⟩, ?_⟩
    intro other hother _
    obtain rfl := List.mem_singleton.mp hother
    exact Nat.le_refl _
  exact .token (by decide) hlongest .nil

lemma toList_columnsText (fields : List String) :
    (columnsText fields).toList = Query.projection fields := by
  have hcomma : ",".toList = [','] := by decide
  have hquote : "\"".toList = ['"'] := by decide
  have haliased (field : String) :
      (field ++ " as \"" ++ field ++ "\"").toList = Query.aliased field := by
    simp only [String.toList_append, hquote, Query.aliased]
  rw [columnsText, Query.projection]
  split
  · rfl
  · rw [String.toList_intercalate, hcomma, List.map_map]
    exact congrArg _ (List.map_congr_left fun field _ => haliased field)

lemma ofList_keyFront (t : Table) (fields : List String) :
    String.ofList (t.keyFront fields ++ placeholder 1) = t.keyText fields := by
  have hone : " = ".toList ++ placeholder 1 = " = $1".toList := by
    rw [placeholder, digits]
    rfl
  apply String.toList_inj.mp
  rw [String.toList_ofList]
  unfold keyFront keyText
  simp only [String.toList_append, toList_columnsText, List.append_assoc, hone]

/-- **What is sent is the statement with the names as they were given**, and the key is its only
value. -/
theorem compile_keyQuery (h : t.OnlyCasts fields) (id : Value) :
    (t.keyQuery id fields).compile = ⟨t.keyText fields, [id]⟩ := by
  obtain ⟨front, hitems, htokens, hsource⟩ := h.paired_keyFront.tokenises_append tokenises_id
  rw [← keyQuery_body t id fields] at hitems
  have htext : numbered 0 (front ++ [.token "id".toList]) = t.keyFront fields ++ placeholder 1 := by
    rw [numbered_append, numbered_eq_flatMap_source htokens, hsource, htokens, numbered_token]
    exact congrArg _ (List.append_nil (placeholder 1))
  have hslots : Query.parameterSlots (front ++ [.token "id".toList]) =
      [.parameter (String.ofList "id".toList)] := by
    rw [Query.parameterSlots, tokens_append, htokens]
    rfl
  have hvalue : (t.keyQuery id fields).read (.parameter (String.ofList "id".toList)) = id := by
    rw [String.ofList_toList]
    rfl
  have hserialize := Query.serialize_of_tokenises (q := t.keyQuery id fields) [] hitems
  -- there is no limit, so the first placeholder is that of the name
  have hunlimited : (t.keyQuery id fields).pagingSlots = [] ∧
      (t.keyQuery id fields).pagingValues = [] := ⟨rfl, rfl⟩
  rw [hunlimited.1, hunlimited.2, hslots, List.map_singleton, hvalue] at hserialize
  rw [Query.compile_of_serialize hserialize, ← ofList_keyFront, ← htext]
  rfl

end Key

end Table

namespace Session

/-! ## Carrying out a request -/

section Run

variable {σ α ρ : Type}

/-- Whether a statement was answered without a failure. -/
def Outcome.succeeded : Outcome α → Bool
  | .finished (.ok _) => true
  | .finished (.error _) | .abandoned => false

/-- **What comes of a statement** whose response is read in some way; a failure is passed on. -/
def Outcome.readBy (read : Response → Except Failure α) : Outcome Response → Outcome α
  | .finished (.ok response) => .finished (read response)
  | .finished (.error failure) => .finished (.error failure)
  | .abandoned => .abandoned

/-- **A request that asks sends its statement once**, and its result is read from the answer. -/
lemma run_ask {d : Driver σ} {via : Via} {call : CompiledQuery} {executors : List Target}
    {w : World σ} {outcome : Outcome Response} {nanos : Nat} {s : σ}
    (hanswer : d.query w.state (via.target executors) call = (outcome, nanos, s)) (logging : Bool)
    (read : Response → Except Failure α) (notes : ρ) {r : Ran σ α ρ}
    (hr : (Work.request via (.ask call read) fun answer => .finish answer notes).runWithin d logging
      executors w = r) :
    calls r.events = [.statement (via.target executors) call outcome.succeeded] ∧
      r.outcome = outcome.readBy read ∧ r.world = { w with state := s } := by
  simp only [Work.request, Work.runWithin, send, hanswer] at hr
  rcases outcome with ⟨failure | response⟩ | _
  · subst hr
    exact ⟨rfl, rfl, rfl⟩
  · subst hr
    refine ⟨?_, rfl, rfl⟩
    rw [Ran.events_after, calls_append, calls_sent, calls_logEvents]
    rfl
  · subst hr
    exact ⟨rfl, rfl, rfl⟩

/-- **A lookup sends one statement and binds the key, and nothing else.**  With casts at most in the
names of the table, of its key and of the columns, all names stand in the statement as they were
given; it is sent once, through whichever executor the lookup runs on, and the result is the first
row of the response, if there is one. -/
theorem run_get {t : Table} {fields : List String} (h : t.OnlyCasts fields) (id : Value)
    {d : Driver σ} {via : Via} {executors : List Target} {w : World σ} {outcome : Outcome Response}
    {nanos : Nat} {s : σ}
    (hanswer : d.query w.state (via.target executors) ⟨t.keyText fields, [id]⟩ =
      (outcome, nanos, s)) (logging : Bool) (notes : ρ) {r : Ran σ (Option Row) ρ}
    (hr : (Work.request via (t.get id fields) fun answer => .finish answer notes).runWithin d logging
      executors w = r) :
    calls r.events =
        [.statement (via.target executors) ⟨t.keyText fields, [id]⟩ outcome.succeeded] ∧
      r.outcome = outcome.readBy (fun response => .ok response.rows.head?) ∧
      r.world = { w with state := s } := by
  rw [Table.get, Table.compile_keyQuery h id] at hr
  exact run_ask hanswer logging _ notes hr

end Run

/-- Casts in a column and in the name of the key, to types whose names start like the name of the
key's value; the second of two rows is not returned. -/
theorem run_get_casts :
    let t : Table := ⟨"note", "x::id"⟩
    let row := Record.empty.insert "key::text" (.text "a")
    let d : Driver Nat :=
      ⟨fun s => (.finished (.ok ()), s),
        fun s _ _ => (.finished (.ok (Response.ofRows [row, Record.empty])), 5, s + 1)⟩
    let r := (Work.request .handle (t.get (.int64 7) ["key::text"]) fun answer =>
      .finish answer ()).runWithin d true [.connection 3] ⟨0, 4⟩
    t.keyText ["key::text"] = "SELECT key::text as \"key::text\" FROM note WHERE x::id = $1" ∧
      calls r.events = [.statement (.connection 3) ⟨t.keyText ["key::text"], [.int64 7]⟩ true] ∧
      r.outcome = .finished (.ok (some row)) := by
  intro t row d r
  have hcast : Paired [':', ':'] := .pair .nil
  have hcolumn : Paired "key::text".toList :=
    ((paired_of_not_mem (by decide : ':' ∉ "key".toList)).append hcast).append
      (paired_of_not_mem (by decide : ':' ∉ "text".toList))
  have hkey : Paired "x::id".toList :=
    ((paired_of_not_mem (by decide : ':' ∉ "x".toList)).append hcast).append
      (paired_of_not_mem (by decide : ':' ∉ "id".toList))
  have hcasts : t.OnlyCasts ["key::text"] := by
    refine ⟨(paired_of_not_mem (by decide)).evenRuns, hkey.evenRuns, ?_⟩
    intro field hfield
    rw [List.mem_singleton.mp hfield]
    exact hcolumn.evenRuns
  have hanswer : d.query 0 (Via.handle.target [.connection 3])
      ⟨t.keyText ["key::text"], [.int64 7]⟩ =
        (.finished (.ok (Response.ofRows [row, Record.empty])), 5, 1) := rfl
  obtain ⟨hcalls, houtcome, -⟩ :=
    run_get hcasts (.int64 7) (w := ⟨0, 4⟩) hanswer true () (r := r) rfl
  exact ⟨by decide, hcalls, houtcome⟩

end Session

end BoundSql
