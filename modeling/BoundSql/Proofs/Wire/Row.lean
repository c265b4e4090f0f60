import BoundSql.Proofs.Record
import BoundSql.Proofs.Wire.Meaning
import Mathlib.Data.List.Forall2

/-!
# Rows are read as a whole

A row of a result is read column by column.  Each column is either read as one value or gives one
failure, and the row is read only if all its columns are: nothing of it is left out, and a column
that fails also fails the row where a later one of the same name would take its place.

* `Reads`, `Offends` — what a column is read as, and the failure it gives otherwise.
* `columnValue_eq_ok_iff`, `columnValue_eq_error_iff` — a column does the one or the other.
* `forall₂_or_first` — all members of a list have something, or there is a first one that has not.
* `insertColumns_of_reads`, `insertColumns_of_offends` — the columns from an index on.
* **`rowOfColumns_complete`** — a row holds all its columns, or fails with the first that offends.
-/

namespace BoundSql.Wire

/-- **What a column is read as.**  Its type has a counterpart; the missing value is read as null, and
bytes as the value of the type that they stand for. -/
inductive Reads (column : Column) : Option (List UInt8) → Value → Prop
  | missing : column.type ∈ DataType.known → Reads column none .null
  | value {bytes : List UInt8} {v : Value} : column.type ∈ DataType.known →
      StandsFor column.type bytes v → Reads column (some bytes) v

/-- **The failure that the column at an index gives**: its type has no counterpart, or its bytes are
no value of the type. -/
inductive Offends (index : Nat) (column : Column) : Option (List UInt8) → Failure → Prop
  | unsupported {raw : Option (List UInt8)} : column.type ∉ DataType.known →
      Offends index column raw
        (.unsupportedType column.type.catalogName ("column \"" ++ column.name ++ "\""))
  | undecoded {bytes : List UInt8} {fault : ColumnFault} : column.type ∈ DataType.known →
      Refuses column.type bytes fault →
      Offends index column (some bytes)
        (.driver (.ofMessages ("error deserializing column " ++ String.ofList (Decimal.digits index))
          [fault.source]))

/-- A column that is read. -/
abbrev Readable (column : Column × Option (List UInt8)) : Prop := ∃ v, Reads column.1 column.2 v

section Column

variable {index : Nat} {column : Column} {raw : Option (List UInt8)} {v w : Value}
  {failure other : Failure}

/-! ## One column -/

lemma Reads.eq_null_iff (h : Reads column raw v) : v = .null ↔ raw = none := by
  cases h with
  | missing => simp
  | value _ hvalue => exact iff_of_false hvalue.ne_null nofun

/-- **A column is read if its type has a counterpart** and it holds the missing value or bytes of the
type. -/
lemma readable_iff {c : Column × Option (List UInt8)} :
    Readable c ↔ c.1.type ∈ DataType.known ∧
      (c.2 = none ∨ ∃ bytes v, c.2 = some bytes ∧ StandsFor c.1.type bytes v) := by
  obtain ⟨column, raw⟩ := c
  constructor
  · rintro ⟨v, hreads⟩
    cases hreads with
    | missing hknown => exact ⟨hknown, .inl rfl⟩
    | value hknown hvalue => exact ⟨hknown, .inr ⟨_, _, rfl, hvalue⟩⟩
  · rintro ⟨hknown, rfl | ⟨bytes, v, rfl, hvalue⟩⟩
    · exact ⟨.null, .missing hknown⟩
    · exact ⟨v, .value hknown hvalue⟩

lemma Reads.unique (hv : Reads column raw v) (hw : Reads column raw w) : v = w := by
  cases hv with
  | missing => cases hw; rfl
  | value _ hvalue =>
    cases hw with
    | value _ hother => exact hvalue.unique hother

lemma Offends.unique (h : Offends index column raw failure) (ho : Offends index column raw other) :
    failure = other := by
  cases h with
  | unsupported hunknown =>
    cases ho with
    | unsupported => rfl
    | undecoded hknown => exact absurd hknown hunknown
  | undecoded hknown hfault =>
    cases ho with
    | unsupported hunknown => exact absurd hknown hunknown
    | undecoded _ hother => rw [hfault.unique hother]

lemma Reads.not_offends (h : Reads column raw v) : ¬ Offends index column raw failure := by
  intro ho
  cases h with
  | missing hknown => cases ho with | unsupported hunknown => exact hunknown hknown
  | value hknown hvalue =>
    cases ho with
    | unsupported hunknown => exact hunknown hknown
    | undecoded _ hfault => exact hvalue.not_refuses hfault

/-- **A column is read, or it gives a failure.** -/
lemma columnValue_cases (index : Nat) (column : Column) (raw : Option (List UInt8)) :
    (∃ v, columnValue index column raw = .ok v ∧ Reads column raw v) ∨
      ∃ failure, columnValue index column raw = .error failure ∧
        Offends index column raw failure := by
  cases hread : readColumn? column.type (raw.getD []) with
  | none =>
    refine .inr ⟨_, ?_, .unsupported (readColumn?_eq_none_iff.mp hread)⟩
    rw [columnValue, hread]
  | some read =>
    have hknown : column.type ∈ DataType.known := mem_known_of_readColumn? hread
    cases raw with
    | none =>
      refine .inl ⟨.null, ?_, .missing hknown⟩
      rw [columnValue, hread]
      rfl
    | some bytes =>
      cases read with
      | ok v =>
        refine .inl ⟨v, ?_, .value hknown (readColumn?_eq_ok_iff.mp hread)⟩
        rw [columnValue, hread]
        rfl
      | error fault =>
        refine .inr ⟨_, ?_, .undecoded hknown (readColumn?_eq_error_iff.mp hread)⟩
        rw [columnValue, hread]
        rfl

lemma columnValue_eq_ok_iff : columnValue index column raw = .ok v ↔ Reads column raw v := by
  rcases columnValue_cases index column raw with ⟨w, hvalue, hreads⟩ | ⟨failure, hvalue, hoffends⟩
  · rw [hvalue, Except.ok.injEq]
    exact ⟨fun h => h ▸ hreads, fun h => hreads.unique h⟩
  · rw [hvalue]
    exact ⟨nofun, fun h => absurd hoffends h.not_offends⟩

lemma columnValue_eq_error_iff :
    columnValue index column raw = .error failure ↔ Offends index column raw failure := by
  rcases columnValue_cases index column raw with ⟨v, hvalue, hreads⟩ | ⟨other, hvalue, hoffends⟩
  · rw [hvalue]
    exact ⟨nofun, fun h => absurd h hreads.not_offends⟩
  · rw [hvalue, Except.error.injEq]
    exact ⟨fun h => h ▸ hoffends, fun h => hoffends.unique h⟩

end Column

/-! ## Lists that are read member by member -/

section Members

variable {α β : Type} {R : α → β → Prop}

/-- **All members of a list have something, or there is a first one that has nothing.** -/
lemma forall₂_or_first (as : List α) :
    (∃ bs, List.Forall₂ R as bs) ∨
      ∃ front a rest, as = front ++ a :: rest ∧ (∀ x ∈ front, ∃ b, R x b) ∧ ∀ b, ¬ R a b := by
  induction as with
  | nil => exact .inl ⟨[], .nil⟩
  | cons a as ih =>
    by_cases ha : ∃ b, R a b
    · obtain ⟨b, hb⟩ := ha
      rcases ih with ⟨bs, hbs⟩ | ⟨front, c, rest, rfl, hfront, hc⟩
      · exact .inl ⟨b :: bs, .cons hb hbs⟩
      · refine .inr ⟨a :: front, c, rest, rfl, ?_, hc⟩
        intro x hx
        rcases List.mem_cons.mp hx with rfl | hx
        · exact ⟨b, hb⟩
        · exact hfront x hx
    · exact .inr ⟨[], a, as, rfl, by simp, not_exists.mp ha⟩

lemma exists_of_mem_of_forall₂ {as : List α} {bs : List β} (h : List.Forall₂ R as bs) :
    ∀ a ∈ as, ∃ b, R a b := by
  induction h with
  | nil => simp
  | cons hab _ ih =>
    intro a ha
    rcases List.mem_cons.mp ha with rfl | ha
    · exact ⟨_, hab⟩
    · exact ih a ha

end Members

/-! ## The columns of a row -/

section Columns

variable {columns front rest : List (Column × Option (List UInt8))} {values : List Value}
  {column : Column} {raw : Option (List UInt8)} {failure : Failure}

/-- The names of columns with the values that were read. -/
def namedValues (columns : List (Column × Option (List UInt8))) (values : List Value) :
    List (String × Value) :=
  (columns.map (·.1.name)).zip values

/-- **Columns that are all read** go into the row one after the other. -/
lemma insertColumns_of_reads
    (h : List.Forall₂ (fun column v => Reads column.1 column.2 v) columns values) (index : Nat)
    (row : Row) :
    insertColumns index row columns =
      .ok ((namedValues columns values).foldl (fun r e => r.insert e.1 e.2) row) := by
  induction h generalizing index row with
  | nil => rfl
  | @cons column v columns values hreads _ ih =>
    obtain ⟨column, raw⟩ := column
    have hvalue : columnValue index column raw = .ok v := columnValue_eq_ok_iff.mpr hreads
    rw [insertColumns, hvalue]
    exact ih (index + 1) (row.insert column.name v)

/-- **The first column that offends** decides, whatever stands after it. -/
lemma insertColumns_of_offends (hfront : ∀ c ∈ front, Readable c) {index : Nat}
    (h : Offends (index + front.length) column raw failure) (row : Row) :
    insertColumns index row (front ++ (column, raw) :: rest) = .error failure := by
  induction front generalizing index row with
  | nil =>
    have hvalue : columnValue index column raw = .error failure := columnValue_eq_error_iff.mpr h
    rw [List.nil_append, insertColumns, hvalue]
  | cons c front ih =>
    obtain ⟨v, hv⟩ := hfront c (by simp)
    have hnext : Offends (index + 1 + front.length) column raw failure := by
      rwa [List.length_cons, Nat.add_comm front.length, ← Nat.add_assoc] at h
    rw [List.cons_append, insertColumns, columnValue_eq_ok_iff.mpr hv]
    exact ih (fun c hc => hfront c (by simp [hc])) hnext _

/-- **All columns are read, or there is a first one that offends.** -/
lemma reads_or_offends (columns : List (Column × Option (List UInt8))) :
    (∃ values, List.Forall₂ (fun column v => Reads column.1 column.2 v) columns values) ∨
      ∃ front column raw rest failure, columns = front ++ (column, raw) :: rest ∧
        (∀ c ∈ front, Readable c) ∧ Offends front.length column raw failure := by
  rcases forall₂_or_first columns with hreads | ⟨front, ⟨column, raw⟩, rest, rfl, hfront, hnone⟩
  · exact .inl hreads
  · rcases columnValue_cases front.length column raw with ⟨v, -, hv⟩ | ⟨failure, -, hoffends⟩
    · exact absurd hv (hnone v)
    · exact .inr ⟨front, column, raw, rest, failure, rfl, hfront, hoffends⟩

/-! ## Whole rows -/

lemma rowOfColumns_of_reads
    (h : List.Forall₂ (fun column v => Reads column.1 column.2 v) columns values) :
    rowOfColumns columns = .ok (.ofList (namedValues columns values)) :=
  insertColumns_of_reads h 0 .empty

lemma rowOfColumns_of_offends (hfront : ∀ c ∈ front, Readable c)
    (h : Offends front.length column raw failure) :
    rowOfColumns (front ++ (column, raw) :: rest) = .error failure :=
  insertColumns_of_offends hfront (by rwa [Nat.zero_add]) .empty

/-- **What a row is read as.**  Each column is read, and the row holds the names of the columns,
each at the place where it comes first, and under each name the value of the last column. -/
lemma rowOfColumns_eq_ok_iff {row : Row} :
    rowOfColumns columns = .ok row ↔
      ∃ values, List.Forall₂ (fun column v => Reads column.1 column.2 v) columns values ∧
        Record.Collects (namedValues columns values) row := by
  rcases reads_or_offends columns with
    ⟨values, hvalues⟩ | ⟨front, column, raw, rest, failure, rfl, hfront, hoffends⟩
  · rw [rowOfColumns_of_reads hvalues, Except.ok.injEq]
    constructor
    · rintro rfl
      exact ⟨values, hvalues, Record.collects_iff.mpr rfl⟩
    · rintro ⟨others, hothers, hrow⟩
      have hsame : rowOfColumns columns = .ok row := by
        rw [rowOfColumns_of_reads hothers, Record.collects_iff.mp hrow]
      exact Except.ok.inj ((rowOfColumns_of_reads hvalues).symm.trans hsame)
  · rw [rowOfColumns_of_offends hfront hoffends]
    refine ⟨nofun, ?_⟩
    rintro ⟨values, hvalues, -⟩
    obtain ⟨v, hv⟩ := exists_of_mem_of_forall₂ hvalues (column, raw) (by simp)
    exact absurd hoffends hv.not_offends

/-- **How a row fails**: with the first column that offends. -/
lemma rowOfColumns_eq_error_iff :
    rowOfColumns columns = .error failure ↔
      ∃ front column raw rest, columns = front ++ (column, raw) :: rest ∧
        (∀ c ∈ front, Readable c) ∧ Offends front.length column raw failure := by
  constructor
  · intro h
    rcases reads_or_offends columns with
      ⟨values, hvalues⟩ | ⟨front, column, raw, rest, other, rfl, hfront, hoffends⟩
    · rw [rowOfColumns_of_reads hvalues] at h
      cases h
    · rw [rowOfColumns_of_offends hfront hoffends] at h
      cases h
      exact ⟨front, column, raw, rest, rfl, hfront, hoffends⟩
  · rintro ⟨front, column, raw, rest, rfl, hfront, hoffends⟩
    exact rowOfColumns_of_offends hfront hoffends

end Columns

/-- **A row holds all its columns, or it is not read.**  It is read if and only if each column has a
type with a counterpart and holds the missing value or bytes of this type; otherwise the failure is
that of the first column that offends.  A row that is read has the names of its columns, each once
and at its first place, with the value of the last column of the name; and only the missing value is
read as null. -/
theorem rowOfColumns_complete (columns : List (Column × Option (List UInt8))) :
    ((∃ row, rowOfColumns columns = .ok row) ↔ ∀ c ∈ columns, c.1.type ∈ DataType.known ∧
      (c.2 = none ∨ ∃ bytes v, c.2 = some bytes ∧ StandsFor c.1.type bytes v)) ∧
    (∀ failure, rowOfColumns columns = .error failure ↔
      ∃ front column raw rest, columns = front ++ (column, raw) :: rest ∧
        (∀ c ∈ front, Readable c) ∧ Offends front.length column raw failure) ∧
    ∀ row, rowOfColumns columns = .ok row ↔
      ∃ values, List.Forall₂ (fun c v => Reads c.1 c.2 v ∧ (v = .null ↔ c.2 = none))
          columns values ∧
        Record.Collects (namedValues columns values) row := by
  have hread : (∃ row, rowOfColumns columns = .ok row) ↔ ∀ c ∈ columns, Readable c := by
    constructor
    · rintro ⟨row, hrow⟩
      obtain ⟨values, hvalues, -⟩ := rowOfColumns_eq_ok_iff.mp hrow
      exact exists_of_mem_of_forall₂ hvalues
    · intro hreadable
      rcases reads_or_offends columns with
        ⟨values, hvalues⟩ | ⟨front, column, raw, rest, failure, rfl, -, hoffends⟩
      · exact ⟨_, rowOfColumns_of_reads hvalues⟩
      · obtain ⟨v, hv⟩ := hreadable (column, raw) (by simp)
        exact absurd hoffends hv.not_offends
  refine ⟨?_, fun failure => rowOfColumns_eq_error_iff, fun row => ?_⟩
  · rw [hread]
    exact forall₂_congr fun c _ => readable_iff
  · rw [rowOfColumns_eq_ok_iff]
    refine exists_congr fun values => and_congr_left' ⟨fun h => ?_, fun h => ?_⟩
    · exact h.imp fun c v hreads => ⟨hreads, hreads.eq_null_iff⟩
    · exact h.imp fun c v hreads => hreads.1

/-- The second column of a name counts, at the place of the first. -/
example :
    rowOfColumns [(⟨"id", .int4⟩, some [0, 0, 0, 1]), (⟨"note", .text⟩, none),
        (⟨"id", .bool⟩, some [1])] =
      .ok ⟨[("id", .bool true), ("note", .null)], by decide⟩ := by
  rfl

/-- It also fails the row, although a third one would take its place. -/
example :
    rowOfColumns [(⟨"id", .bool⟩, some [1]), (⟨"id", .other "time"⟩, none),
        (⟨"id", .bool⟩, some [1])] =
      .error (.unsupportedType "time" "column \"id\"") := by
  rfl

end BoundSql.Wire
