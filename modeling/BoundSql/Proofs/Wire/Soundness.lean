import BoundSql.Proofs.Json.Kept
import BoundSql.Proofs.Wire.IntegerParameter
import BoundSql.Proofs.Wire.Numeric.Written

/-!
# Parameters are values of their type

What is sent for a parameter is a value of its type: a column of this type is read from it.  There
are three exceptions.  Bytes are sent as they are, whatever the type is; a document may be nested
deeper than documents are read; and the leap second after the last supported second counts as the
next day.

* `IsValue` — bytes of which a column is read.
* `Value.Possible` — the values there are.
* `isValue_of_width`, `isValue_document`, … — one lemma for each kind of type.
* `Overruns` — the leap second after the last supported second.
* **`isValue_of_textBytes`** — what is sent for a text.
* `Unsound` — the three exceptions.
* **`isValue_of_bind`** — what is sent for a value.
-/

namespace BoundSql

/-- **The values there are**: documents hold numbers of eight bytes that are finite, and points in
time and days are supported ones. -/
def Value.Possible : Value → Prop
  | .json j => j.AllNumbers Json.Number.Kept
  | .timestamp s => s.Possible
  | .date d => d.inRange = true
  | _ => True

namespace Wire

open Text Floating

/-- **Bytes are a value of a type** if a column of the type is read from them, and it is not
missing. -/
def IsValue (t : DataType) (bytes : List UInt8) : Prop :=
  ∃ v, v ≠ .null ∧ readColumn? t bytes = some (.ok v)

/-- The width of the numbers of a type. -/
def DataType.width? : DataType → Option Nat
  | .int2 => some 2
  | .int4 => some 4
  | .int8 => some 8
  | .float4 => some 4
  | .float8 => some 8
  | _ => none

section Kinds

variable {t : DataType} {bytes : List UInt8}

/-! ## One kind of type after the other -/

lemma isValue_of_standsFor {v : Value} (h : StandsFor t bytes v) : IsValue t bytes :=
  ⟨v, h.ne_null, readColumn?_eq_ok_iff.mpr h⟩

/-- **All bytes of its width are a number of a type.** -/
lemma isValue_of_width (h : t.width? = some bytes.length) : IsValue t bytes := by
  cases t
  case int2 => exact isValue_of_standsFor (standsFor_int2 (Option.some.inj h).symm)
  case int4 => exact isValue_of_standsFor (standsFor_int4 (Option.some.inj h).symm)
  case int8 => exact isValue_of_standsFor (standsFor_int8 (Option.some.inj h).symm)
  case float4 => exact isValue_of_standsFor (standsFor_float4 (Option.some.inj h).symm)
  case float8 => exact isValue_of_standsFor (standsFor_float8 (Option.some.inj h).symm)
  all_goals cases h

lemma isValue_text (ht : t.isText = true) (cs : List Char) : IsValue t (encodeUtf8 cs) :=
  isValue_of_standsFor (standsFor_text ht cs)

lemma isValue_bool (b : Bool) : IsValue .bool (boolByte b) :=
  ⟨.bool _, nofun, rfl⟩

lemma isValue_uuid (u : Uuid) : IsValue .uuid u.bytes := isValue_of_standsFor .uuid

lemma isValue_numeric {cs : List Char} (h : Numeric.encode cs = .ok bytes) :
    IsValue .numeric bytes := by
  obtain ⟨text, htext⟩ := Numeric.exists_decode_of_encode h
  exact isValue_of_standsFor (.numeric htext)

lemma isValue_date {d : Date} (h : d.inRange = true) : IsValue .date (dateBytes d) :=
  isValue_of_standsFor (.date h)

lemma isValue_timestamp (ht : t = .timestamp ∨ t = .timestamptz) {s : Timestamp} (h : s.Possible)
    (hbeyond : ¬ s.IsBeyond) : IsValue t (timestampBytes s) := by
  obtain ⟨r, micros, hrange, hmicros, hnanos, hbytes⟩ := exists_timestampBytes_eq h hbeyond
  rw [hbytes]
  exact isValue_of_standsFor (.moment ht hrange hmicros hnanos)

/-- **A document that is not nested too deep is a value**, with a version in front or without. -/
lemma isValue_document (ht : t = .json ∨ t = .jsonb) {j : Json} (h : j.AllNumbers Json.Number.Kept)
    (hdepth : j.depth ≤ Json.nestingLimit) : IsValue t (documentBytes t j) := by
  obtain ⟨j', hj'⟩ := Json.exists_ofText?_text h hdepth
  have htext : (String.ofList j.write).toList = j.write := String.toList_ofList
  rcases ht with rfl | rfl
  · have hvalue := StandsFor.json hj'
    rw [htext] at hvalue
    exact isValue_of_standsFor hvalue
  · have hvalue := StandsFor.jsonb hj'
    rw [htext] at hvalue
    exact isValue_of_standsFor hvalue

/-- A document that was read is always one. -/
lemma isValue_readDocument (ht : t = .json ∨ t = .jsonb) {s : String} {j : Json}
    (h : Json.ofText? s = some j) : IsValue t (documentBytes t j) :=
  isValue_document ht (Json.ofText?_numbersKept h) (Json.ofText?_kept h).2

end Kinds

/-! ## Texts -/

/-- Bytes of the leap second after the last supported second. -/
def Overruns (t : DataType) (bytes : List UInt8) : Prop :=
  (t = .timestamp ∨ t = .timestamptz) ∧ ∃ s : Timestamp, s.IsBeyond ∧ bytes = timestampBytes s

section Sending

variable {t : DataType} {bytes : List UInt8}

/-- A supported point in time is a value, or it overruns. -/
lemma isValue_or_overruns (ht : t = .timestamp ∨ t = .timestamptz) {s : Timestamp}
    (h : s.Possible) :
    IsValue t (timestampBytes s) ∨ Overruns t (timestampBytes s) := by
  by_cases hbeyond : s.IsBeyond
  · exact .inr ⟨ht, s, hbeyond, rfl⟩
  · exact .inl (isValue_timestamp ht h hbeyond)

lemma orUnreadable_eq_ok {α : Type} {form : Form} {read : Option α} {write : α → List UInt8}
    (h : orUnreadable form read write = .ok bytes) : ∃ a, read = some a ∧ bytes = write a := by
  cases read with
  | none => cases h
  | some a =>
      obtain rfl := Except.ok.inj h
      exact ⟨a, rfl, rfl⟩

lemma length_of_integerBytes {width : Nat} {cs : List Char}
    (h : integerBytes width cs = .ok bytes) :
    bytes.length = width := by
  rw [integerBytes] at h
  split at h
  · obtain rfl := Except.ok.inj h
    exact length_signedBytesOf _ _
  · cases h

/-- **What is sent for a text is a value of the type**, unless it overruns. -/
theorem isValue_of_textBytes {cs : List Char} (h : textBytes t cs = .ok bytes) :
    IsValue t bytes ∨ Overruns t bytes := by
  cases t with
  | text | varchar | bpchar | name | unknown =>
      obtain rfl := Except.ok.inj h
      exact .inl (isValue_text rfl cs)
  | bytea =>
      obtain rfl := Except.ok.inj h
      exact .inl ⟨.bytes (encodeUtf8 cs), nofun, rfl⟩
  | bool =>
      rw [textBytes] at h
      split at h
      · obtain rfl := Except.ok.inj h
        exact .inl (isValue_bool true)
      · split at h
        · obtain rfl := Except.ok.inj h
          exact .inl (isValue_bool false)
        · cases h
  | int2 | int4 | int8 =>
      rw [textBytes] at h
      exact .inl (isValue_of_width (by rw [length_of_integerBytes h]; rfl))
  | float4 | float8 =>
      rw [textBytes] at h
      split at h
      · obtain rfl := Except.ok.inj h
        exact .inl (isValue_of_width (by rw [length_bytesOf]; rfl))
      · cases h
  | numeric =>
      rw [textBytes] at h
      cases hencode : Numeric.encode cs with
      | error fault =>
          rw [hencode] at h
          cases h
      | ok sent =>
          rw [hencode] at h
          obtain rfl := Except.ok.inj h
          exact .inl (isValue_numeric hencode)
  | uuid =>
      obtain ⟨u, -, rfl⟩ := orUnreadable_eq_ok h
      exact .inl (isValue_uuid u)
  | json =>
      obtain ⟨j, hj, rfl⟩ := orUnreadable_eq_ok h
      exact .inl (isValue_readDocument (.inl rfl) hj)
  | jsonb =>
      obtain ⟨j, hj, rfl⟩ := orUnreadable_eq_ok h
      exact .inl (isValue_readDocument (.inr rfl) hj)
  | timestamp =>
      obtain ⟨s, hs, rfl⟩ := orUnreadable_eq_ok h
      exact isValue_or_overruns (.inl rfl) (Calendar.possible_of_ofLocalText? hs)
  | timestamptz =>
      obtain ⟨s, hs, rfl⟩ := orUnreadable_eq_ok h
      exact isValue_or_overruns (.inr rfl) (Calendar.possible_of_ofText? hs)
  | date =>
      obtain ⟨d, hd, rfl⟩ := orUnreadable_eq_ok h
      exact .inl (isValue_date (Calendar.inRange_of_ofText? hd))
  | oid => cases h
  | other name => cases h

/-- **What is sent for an integer is a value of the type**, unless it overruns. -/
lemma isValue_of_integerValueBytes {n : Int} (h : integerValueBytes t n = .ok bytes) :
    IsValue t bytes ∨ Overruns t bytes := by
  cases t
  case int2 | int4 =>
    obtain ⟨-, rfl⟩ := narrowed_eq_ok_iff.mp h
    exact .inl (isValue_of_width (by rw [length_signedBytesOf]; rfl))
  case int8 =>
    obtain rfl := Except.ok.inj h
    exact .inl (isValue_of_width (by rw [length_signedBytesOf]; rfl))
  case float4 | float8 =>
    obtain rfl := Except.ok.inj h
    exact .inl (isValue_of_width (by rw [length_bytesOf]; rfl))
  all_goals
    simp only [integerValueBytes] at h
    exact isValue_of_textBytes h

/-- **What is sent for a floating-point number is a value of the type**, unless it overruns. -/
lemma isValue_of_realBytes {x : Binary64} (h : realBytes t x = .ok bytes) :
    IsValue t bytes ∨ Overruns t bytes := by
  cases t
  case float4 | float8 =>
    obtain rfl := Except.ok.inj h
    exact .inl (isValue_of_width (by rw [length_bytesOf]; rfl))
  all_goals
    simp only [realBytes] at h
    exact isValue_of_textBytes h

/-! ## Values -/

/-- **What is sent although it may be no value of the type.** -/
inductive Unsound (t : DataType) (bytes : List UInt8) : Value → Prop where
  /-- Bytes as another type. -/
  | raw (h : t ≠ .bytea) : Unsound t bytes (.bytes bytes)
  /-- A document that is nested too deep. -/
  | deep {j : Json} (ht : t = .json ∨ t = .jsonb) (h : Json.nestingLimit < j.depth) :
      Unsound t bytes (.json j)
  /-- A point in time that overruns. -/
  | overruns {v : Value} (h : Overruns t bytes) : Unsound t bytes v

/-- **What is sent for a value is a value of the type of the parameter**, with three exceptions;
nothing is sent as the missing value but this value itself. -/
theorem isValue_of_bind {v : Value} (hv : v.Possible) (hnull : v ≠ .null)
    {sent : Option (List UInt8)} (h : v.bind t = .ok sent) :
    ∃ bytes, sent = some bytes ∧ (IsValue t bytes ∨ Unsound t bytes v) := by
  have hcheck {attempt : Except BindFault (List UInt8)} (hattempt : some <$> attempt = .ok sent)
      (hsound : ∀ bytes, attempt = .ok bytes → IsValue t bytes ∨ Overruns t bytes) :
      ∃ bytes, sent = some bytes ∧ (IsValue t bytes ∨ Unsound t bytes v) := by
    cases attempt with
    | error fault => cases hattempt
    | ok bytes =>
        obtain rfl := Except.ok.inj hattempt
        exact ⟨bytes, rfl, (hsound bytes rfl).imp_right .overruns⟩
  unfold Value.bind at h
  split at h
  · cases h
  cases v with
  | null => exact absurd rfl hnull
  | bool b =>
      refine hcheck h fun bytes hbytes => ?_
      split at hbytes
      · rename_i hbool
        obtain rfl := Except.ok.inj hbytes
        rw [hbool]
        exact .inl (isValue_bool b)
      · exact isValue_of_textBytes hbytes
  | int32 n => exact hcheck h fun bytes hbytes => isValue_of_integerValueBytes hbytes
  | int64 n => exact hcheck h fun bytes hbytes => isValue_of_integerValueBytes hbytes
  | real x => exact hcheck h fun bytes hbytes => isValue_of_realBytes hbytes
  | text s => exact hcheck h fun bytes hbytes => isValue_of_textBytes hbytes
  | bytes bs =>
      obtain rfl := Except.ok.inj h
      by_cases hbytea : t = .bytea
      · rw [hbytea]
        exact ⟨bs, rfl, .inl ⟨.bytes bs, nofun, rfl⟩⟩
      · exact ⟨bs, rfl, .inr (.raw hbytea)⟩
  | uuid u =>
      refine hcheck h fun bytes hbytes => ?_
      split at hbytes
      · rename_i huuid
        obtain rfl := Except.ok.inj hbytes
        rw [huuid]
        exact .inl (isValue_uuid u)
      · exact isValue_of_textBytes hbytes
  | json j =>
      by_cases hdocument : t = .json ∨ t = .jsonb
      · simp only [if_pos hdocument] at h
        obtain rfl := Except.ok.inj h
        refine ⟨_, rfl, ?_⟩
        rcases Nat.lt_or_ge Json.nestingLimit j.depth with hdeep | hdepth
        · exact .inr (.deep hdocument hdeep)
        · exact .inl (isValue_document hdocument hv hdepth)
      · simp only [if_neg hdocument] at h
        exact hcheck h fun bytes hbytes => isValue_of_textBytes hbytes
  | timestamp s =>
      refine hcheck h fun bytes hbytes => ?_
      split at hbytes
      · obtain rfl := Except.ok.inj hbytes
        exact isValue_or_overruns (.inr rfl) hv
      · obtain rfl := Except.ok.inj hbytes
        exact isValue_or_overruns (.inl rfl) hv
      · obtain rfl := Except.ok.inj hbytes
        exact .inl (isValue_date hv.inRange)
      · exact isValue_of_textBytes hbytes
  | date d =>
      refine hcheck h fun bytes hbytes => ?_
      split at hbytes
      · obtain rfl := Except.ok.inj hbytes
        exact .inl (isValue_date hv)
      · obtain rfl := Except.ok.inj hbytes
        exact .inl (isValue_timestamp (.inr rfl) (Timestamp.possible_ofDate hv)
          (Timestamp.not_isBeyond_ofDate d))
      · obtain rfl := Except.ok.inj hbytes
        exact .inl (isValue_timestamp (.inl rfl) (Timestamp.possible_ofDate hv)
          (Timestamp.not_isBeyond_ofDate d))
      · exact isValue_of_textBytes hbytes

end Sending

/-- An integer is sent as a value of two bytes. -/
theorem isValue_of_bind_seven :
    (Value.int32 7).bind .int2 = .ok (some [0, 7]) ∧ IsValue .int2 [0, 7] := by
  have hsent : (Value.int32 7).bind .int2 = .ok (some [0, 7]) := by decide
  obtain ⟨bytes, hbytes, hsound⟩ := isValue_of_bind (v := .int32 7) trivial nofun hsent
  obtain rfl := Option.some.inj hbytes
  refine ⟨hsent, hsound.resolve_right ?_⟩
  rintro (_ | _ | ⟨ht, -⟩)
  rcases ht with ht | ht <;> cases ht

/-- Three bytes are sent as an integer of four bytes, and no integer is read from them. -/
theorem not_isValue_of_bind_bytes :
    (Value.bytes [1, 2, 255]).bind .int4 = .ok (some [1, 2, 255]) ∧
      ¬ IsValue .int4 [1, 2, 255] := by
  have hread : readColumn? .int4 [1, 2, 255] = some (.error .tooShort) := rfl
  refine ⟨rfl, ?_⟩
  rintro ⟨v, -, hv⟩
  rw [hread] at hv
  cases hv

end Wire

end BoundSql
