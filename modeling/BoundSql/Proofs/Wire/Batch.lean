import BoundSql.Proofs.Record
import BoundSql.Wire.Execution
import Mathlib.Algebra.Ring.Nat
import Mathlib.Data.List.Forall2

/-!
# Responses of several statements

A text that is sent alone may hold several statements.  The server answers it in messages, and all
their rows go into one response, whichever statement they belong to.

* `Response.join` — two responses one after the other.
* `announced`, `IsPart` — the columns that were named last, and the messages that may follow them.
* `Conveys` — the value that a message conveys: a text, or null if it is missing.
* `Gathers` — that a response holds the rows of messages, in their order, and the sum of the counts.
* `batchResponse_eq` — the response in parts of a result, without its accumulator.
* `exists_textResponse_iff` — messages have a response if each is a part of a result.
* **`gathers_of_textResponse`** — the response to messages holds all of them.
* **`batchResponse_append`**, **`textResponse_append`** — the responses to parts and to messages put
  together are the two responses put together.
-/

namespace BoundSql

/-- Two responses one after the other. -/
def Response.join (r s : Response) : Response := ⟨r.rows ++ s.rows, r.rowCount + s.rowCount⟩

namespace Wire

/-! ## Parts of a result -/

/-- The row in a part, if it is one. -/
def TextPart.row? : TextPart → Option (List (String × Option String))
  | .row cells => some cells
  | _ => none

/-- The number of rows that a part tells. -/
def TextPart.count : TextPart → Nat
  | .complete n => n
  | _ => 0

lemma takePart_eq (r : Response) (part : TextPart) :
    takePart r part = r.join ⟨part.row?.toList.map textRow, part.count⟩ := by
  cases part with
  | columns names => simp [takePart, Response.join, TextPart.row?, TextPart.count]
  | row columns => simp [takePart, Response.join, TextPart.row?, TextPart.count]
  | complete count => simp [takePart, Response.join, TextPart.row?, TextPart.count]

/-- The accumulator stands in front of all rows, and its count is added. -/
lemma foldl_takePart (parts : List TextPart) (r : Response) :
    parts.foldl takePart r =
      r.join ⟨(parts.filterMap TextPart.row?).map textRow, (parts.map TextPart.count).sum⟩ := by
  induction parts generalizing r with
  | nil => simp [Response.join]
  | cons part parts ih =>
    rw [List.foldl_cons, ih, takePart_eq]
    cases hrow : part.row? with
    | none => simp [Response.join, hrow, Nat.add_assoc]
    | some columns => simp [Response.join, hrow, Nat.add_assoc]

/-- **The response in parts of a result**: the rows in their order, and the sum of the counts. -/
lemma batchResponse_eq (parts : List TextPart) :
    batchResponse parts =
      ⟨(parts.filterMap TextPart.row?).map textRow, (parts.map TextPart.count).sum⟩ := by
  rw [batchResponse, foldl_takePart]
  simp [Response.join, Response.empty]

/-- **The responses to two batches put together are the response to both.** -/
lemma batchResponse_append (first second : List TextPart) :
    batchResponse (first ++ second) = (batchResponse first).join (batchResponse second) := by
  simp [batchResponse_eq, Response.join]

lemma collects_textRow (columns : List (String × Option String)) :
    Record.Collects (columns.map fun c => (c.1, textValue c.2)) (textRow columns) :=
  Record.collects_iff.mpr rfl

/-- **The value that a message conveys**: a text is that text, and the missing value is null. -/
inductive Conveys : Option String → Value → Prop
  | missing : Conveys none .null
  | text (s : String) : Conveys (some s) (.text s)

lemma conveys_textValue (value : Option String) : Conveys value (textValue value) := by
  cases value with
  | none => exact .missing
  | some s => exact .text s

/-- A row has the names that it was given, with the values that are conveyed. -/
lemma exists_collects_textRow (names : List String) (values : List (Option String)) :
    ∃ cells, List.Forall₂ Conveys values cells ∧
      Record.Collects (names.zip cells) (textRow (names.zip values)) := by
  refine ⟨values.map textValue, ?_, ?_⟩
  · rw [List.forall₂_map_right_iff, List.forall₂_same]
    exact fun value _ => conveys_textValue value
  · rw [List.zip_map_right]
    exact collects_textRow _

/-- The values of a text sent alone are texts, or missing. -/
lemma isText_of_mem_textRow {columns : List (String × Option String)} {name : String} {v : Value}
    (h : (textRow columns).get? name = some v) : v = .null ∨ ∃ s, v = .text s := by
  obtain ⟨c, -, hc⟩ := List.mem_map.mp ((collects_textRow columns).mem_of_get? h)
  obtain ⟨-, rfl⟩ := Prod.mk.inj hc
  cases c.2 with
  | none => exact .inl rfl
  | some s => exact .inr ⟨s, rfl⟩

/-! ## Messages of the server -/

/-- The values of a row that a message brings. -/
def TextMessage.row? : TextMessage → Option (List (Option String))
  | .row values => some values
  | _ => none

/-- The number of rows that a message tells. -/
def TextMessage.count : TextMessage → Nat
  | .complete tag => affectedRows tag
  | _ => 0

/-- **The columns that are named last**, after messages. -/
def announced (names : Option (List String)) (messages : List TextMessage) : Option (List String) :=
  messages.foldl namesAfter names

/-- **The messages that are parts of a result**, after the given columns were named: a row must have
as many values as there are columns. -/
inductive IsPart : Option (List String) → TextMessage → Prop
  | columns {names : Option (List String)} {given : List String} : IsPart names (.columns given)
  | row {given : List String} {values : List (Option String)} : given.length = values.length →
      IsPart (some given) (.row values)
  | complete {names : Option (List String)} {tag : String} : IsPart names (.complete tag)
  | empty {names : Option (List String)} : IsPart names .empty

/-- **A response holds messages**: each row at its place, with the values that it conveys under the
columns that were named last before it, and no other row; the values are texts or null; and the
counts are added. -/
structure Gathers (messages : List TextMessage) (r : Response) : Prop where
  length : r.rows.length = (messages.filterMap TextMessage.row?).length
  row : ∀ {before after : List TextMessage} {values : List (Option String)},
    messages = before ++ .row values :: after → ∃ names row,
      announced none before = some names ∧ names.length = values.length ∧
      r.rows[(before.filterMap TextMessage.row?).length]? = some row ∧
      ∃ cells, List.Forall₂ Conveys values cells ∧ Record.Collects (names.zip cells) row
  texts : ∀ row ∈ r.rows, ∀ name v, row.get? name = some v → v = .null ∨ ∃ s, v = .text s
  count : r.rowCount = (messages.map TextMessage.count).sum

section Messages

variable {names : Option (List String)} {messages first second : List TextMessage}
  {message : TextMessage} {part : TextPart} {parts : List TextPart}

/-- A row becomes a part under the columns that are as many as its values. -/
lemma readMessage_row_eq_ok_iff {values : List (Option String)} :
    readMessage names (.row values) = .ok part ↔ ∃ given, names = some given ∧
      given.length = values.length ∧ part = .row (given.zip values) := by
  cases names with
  | none => simp [readMessage]
  | some given =>
    by_cases hlength : given.length = values.length
    · simp [readMessage, namedTexts, hlength, Except.map, eq_comm]
    · simp [readMessage, namedTexts, hlength, Except.map]

lemma exists_readMessage_iff : (∃ part, readMessage names message = .ok part) ↔
    IsPart names message := by
  constructor
  · rintro ⟨part, hpart⟩
    cases message with
    | columns given => exact .columns
    | row values =>
      obtain ⟨given, rfl, hlength, -⟩ := readMessage_row_eq_ok_iff.mp hpart
      exact .row hlength
    | complete tag => exact .complete
    | empty => exact .empty
    | failed error => cases hpart
    | closed => cases hpart
  · intro h
    cases h with
    | columns => exact ⟨_, rfl⟩
    | row hlength => exact ⟨_, readMessage_row_eq_ok_iff.mpr ⟨_, rfl, hlength, rfl⟩⟩
    | complete => exact ⟨_, rfl⟩
    | empty => exact ⟨_, rfl⟩

/-- A part is a row if its message is, and tells the same number of rows. -/
lemma part_of_readMessage (h : readMessage names message = .ok part) :
    part.row?.isSome = message.row?.isSome ∧ part.count = message.count := by
  cases message with
  | row values =>
    obtain ⟨given, -, -, rfl⟩ := readMessage_row_eq_ok_iff.mp h
    exact ⟨rfl, rfl⟩
  | columns given => cases h; exact ⟨rfl, rfl⟩
  | complete tag => cases h; exact ⟨rfl, rfl⟩
  | empty => cases h; exact ⟨rfl, rfl⟩
  | failed error => cases h
  | closed => cases h

/-- **Messages are taken in one after the other**: those that come second, under the columns that
the first ones named last. -/
lemma readMessages_append (names : Option (List String)) (first second : List TextMessage) :
    readMessages names (first ++ second) = (readMessages names first).bind fun front =>
      (readMessages (announced names first) second).map (front ++ ·) := by
  induction first generalizing names with
  | nil =>
    cases hsecond : readMessages names second with
    | error fault => simp [readMessages, announced, hsecond, Except.bind, Except.map]
    | ok parts => simp [readMessages, announced, hsecond, Except.bind, Except.map]
  | cons message first ih =>
    have hnames : announced names (message :: first) = announced (namesAfter names message) first :=
      rfl
    rw [List.cons_append, readMessages, readMessages, hnames]
    cases readMessage names message with
    | error fault => rfl
    | ok part =>
      simp only [ih]
      cases readMessages (namesAfter names message) first with
      | error fault => rfl
      | ok front =>
        cases readMessages (announced (namesAfter names message) first) second with
        | error fault => rfl
        | ok back => rfl

lemma readMessages_append_eq_ok_iff :
    readMessages names (first ++ second) = .ok parts ↔ ∃ front back,
      readMessages names first = .ok front ∧
      readMessages (announced names first) second = .ok back ∧ parts = front ++ back := by
  rw [readMessages_append]
  cases readMessages names first with
  | error fault => simp [Except.bind]
  | ok front =>
    cases readMessages (announced names first) second with
    | error fault => simp [Except.bind, Except.map]
    | ok back => simp [Except.bind, Except.map, eq_comm]

lemma readMessages_cons_eq_ok_iff :
    readMessages names (message :: messages) = .ok parts ↔ ∃ part rest,
      readMessage names message = .ok part ∧
      readMessages (namesAfter names message) messages = .ok rest ∧ parts = part :: rest := by
  rw [readMessages]
  cases readMessage names message with
  | error fault => simp
  | ok part =>
    cases readMessages (namesAfter names message) messages with
    | error fault => simp [Except.map]
    | ok rest => simp [Except.map, eq_comm]

/-- **All messages are taken in if each is a part of a result.** -/
lemma exists_readMessages_iff : (∃ parts, readMessages names messages = .ok parts) ↔
    ∀ before message after, messages = before ++ message :: after →
      IsPart (announced names before) message := by
  induction messages generalizing names with
  | nil => exact ⟨fun _ before message after h => by simp at h, fun _ => ⟨[], rfl⟩⟩
  | cons first messages ih =>
    constructor
    · rintro ⟨parts, hparts⟩ before message after hsplit
      obtain ⟨part, rest, hpart, hrest, -⟩ := readMessages_cons_eq_ok_iff.mp hparts
      rcases List.cons_eq_append_iff.mp hsplit with ⟨rfl, hhead⟩ | ⟨before, rfl, htail⟩
      · obtain ⟨rfl, rfl⟩ := List.cons.inj hhead
        exact exists_readMessage_iff.mp ⟨part, hpart⟩
      · exact ih.mp ⟨rest, hrest⟩ before message after htail
    · intro h
      obtain ⟨part, hpart⟩ := exists_readMessage_iff.mpr (h [] first messages rfl)
      obtain ⟨rest, hrest⟩ := ih.mpr fun before message after hsplit =>
        h (first :: before) message after (by rw [hsplit]; rfl)
      exact ⟨part :: rest, readMessages_cons_eq_ok_iff.mpr ⟨part, rest, hpart, hrest, rfl⟩⟩

/-- No row is lost and none is added, and the counts stay. -/
lemma parts_of_readMessages (h : readMessages names messages = .ok parts) :
    (parts.filterMap TextPart.row?).length = (messages.filterMap TextMessage.row?).length ∧
      (parts.map TextPart.count).sum = (messages.map TextMessage.count).sum := by
  induction messages generalizing names parts with
  | nil => cases h; exact ⟨rfl, rfl⟩
  | cons message messages ih =>
    obtain ⟨part, rest, hpart, hrest, rfl⟩ := readMessages_cons_eq_ok_iff.mp h
    obtain ⟨hrow, hcount⟩ := part_of_readMessage hpart
    obtain ⟨hlength, hsum⟩ := ih hrest
    refine ⟨?_, by simp [hcount, hsum]⟩
    cases hp : part.row? with
    | none =>
      rw [hp, Option.isSome_none, eq_comm, Option.isSome_eq_false_iff, Option.isNone_iff_eq_none]
        at hrow
      simp [hp, hrow, hlength]
    | some cells =>
      rw [hp, Option.isSome_some, eq_comm, Option.isSome_iff_exists] at hrow
      obtain ⟨values, hm⟩ := hrow
      simp [hp, hm, hlength]

/-- Messages that are taken in before any columns were named bring their columns themselves. -/
lemma readMessages_of_none (h : readMessages none messages = .ok parts) :
    readMessages names messages = .ok parts := by
  induction messages generalizing parts with
  | nil => exact h
  | cons message messages ih =>
    obtain ⟨part, rest, hpart, hrest, rfl⟩ := readMessages_cons_eq_ok_iff.mp h
    refine readMessages_cons_eq_ok_iff.mpr ?_
    cases message with
    | columns given => exact ⟨part, rest, hpart, hrest, rfl⟩
    | row values => cases hpart
    | complete tag => exact ⟨part, rest, hpart, ih hrest, rfl⟩
    | empty => exact ⟨part, rest, hpart, ih hrest, rfl⟩
    | failed error => cases hpart
    | closed => cases hpart

/-! ## The response to messages -/

lemma textResponse_eq_ok_iff {r : Response} :
    textResponse messages = .ok r ↔ ∃ parts, readMessages none messages = .ok parts ∧
      r = batchResponse parts := by
  rw [textResponse]
  cases readMessages none messages with
  | error fault => simp [Except.map]
  | ok parts => simp [Except.map, eq_comm]

/-- Messages have a response if each is a part of a result. -/
lemma exists_textResponse_iff : (∃ r, textResponse messages = .ok r) ↔
    ∀ before message after, messages = before ++ message :: after →
      IsPart (announced none before) message := by
  rw [← exists_readMessages_iff]
  constructor
  · rintro ⟨r, hr⟩
    obtain ⟨parts, hparts, -⟩ := textResponse_eq_ok_iff.mp hr
    exact ⟨parts, hparts⟩
  · rintro ⟨parts, hparts⟩
    exact ⟨_, textResponse_eq_ok_iff.mpr ⟨parts, hparts, rfl⟩⟩

/-- **The response to messages holds all of them.** -/
lemma gathers_of_textResponse {r : Response} (h : textResponse messages = .ok r) :
    Gathers messages r := by
  obtain ⟨parts, hparts, rfl⟩ := textResponse_eq_ok_iff.mp h
  obtain ⟨hlength, hsum⟩ := parts_of_readMessages hparts
  rw [batchResponse_eq]
  refine ⟨by simpa using hlength, ?_, ?_, hsum⟩
  · intro before after values hsplit
    rw [hsplit] at hparts
    obtain ⟨front, back, hfront, hback, rfl⟩ := readMessages_append_eq_ok_iff.mp hparts
    obtain ⟨part, rest, hpart, -, rfl⟩ := readMessages_cons_eq_ok_iff.mp hback
    obtain ⟨names, hnames, hwidth, rfl⟩ := readMessage_row_eq_ok_iff.mp hpart
    refine ⟨names, textRow (names.zip values), hnames, hwidth, ?_,
      exists_collects_textRow names values⟩
    rw [← (parts_of_readMessages hfront).1]
    simp [TextPart.row?]
  · intro row hrow name v hv
    obtain ⟨columns, -, rfl⟩ := List.mem_map.mp hrow
    exact isText_of_mem_textRow hv

/-- **The responses to two sequences of messages put together are the response to both.** -/
lemma textResponse_append {r s : Response} (hfirst : textResponse first = .ok r)
    (hsecond : textResponse second = .ok s) :
    textResponse (first ++ second) = .ok (r.join s) := by
  obtain ⟨front, hfront, rfl⟩ := textResponse_eq_ok_iff.mp hfirst
  obtain ⟨back, hback, rfl⟩ := textResponse_eq_ok_iff.mp hsecond
  refine textResponse_eq_ok_iff.mpr ⟨front ++ back, ?_, (batchResponse_append front back).symm⟩
  exact readMessages_append_eq_ok_iff.mpr ⟨front, back, hfront, readMessages_of_none hback, rfl⟩

end Messages

end Wire

end BoundSql
