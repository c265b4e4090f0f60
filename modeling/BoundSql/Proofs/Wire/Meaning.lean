import BoundSql.Proofs.Uuid
import BoundSql.Proofs.Wire.Moment
import BoundSql.Proofs.Wire.Numeric.Bounds
import BoundSql.Wire.Column

/-!
# What bytes stand for

The bytes of a column are read by its type.  Which value the bytes of a type stand for is said here
without reading them, type by type: as what each value is in bytes.  All other bytes are refused, for
a fault that depends on the type.

* **`StandsFor`** — the value that bytes stand for.
* `DataType.layout?`, **`Refuses`** — what is wrong with bytes that stand for none.
* `readColumn?_of_standsFor`, `readColumn?_of_refuses` — they are read, and refused, accordingly.
* `standsFor_or_refuses` — there are no other bytes of a type with a counterpart.
* **`readColumn?_eq_ok_iff`**, **`readColumn?_eq_error_iff`** — so nothing else is read or refused.
-/

namespace BoundSql.Wire

open Text Floating

/-! ## Values and faults -/

/-- **What the bytes of each type stand for.**  Integers are in two's complement.  The server counts
from the first day of the year 2000, which is day 10957 and second 946684800 from the one that days
and seconds are counted from here. -/
inductive StandsFor : DataType → List UInt8 → Value → Prop where
  | no : StandsFor .bool [0] (.bool false)
  | yes {b : UInt8} : b ≠ 0 → StandsFor .bool [b] (.bool true)
  /-- Integers of two bytes are kept in four. -/
  | int2 {n : Int32} : -0x8000 ≤ n.toInt → n.toInt < 0x8000 →
      StandsFor .int2 (signedBytesOf 2 n.toInt) (.int32 n)
  | int4 {n : Int32} : StandsFor .int4 (signedBytesOf 4 n.toInt) (.int32 n)
  | int8 {n : Int64} : StandsFor .int8 (signedBytesOf 8 n.toInt) (.int64 n)
  /-- Object identifiers have no sign. -/
  | oid {n : Int64} {id : Nat} : n.toInt = id → id < 0x100000000 →
      StandsFor .oid (bytesOf 4 id) (.int64 n)
  /-- Narrow numbers become wide ones. -/
  | float4 {x : Binary32} : StandsFor .float4 (bytesOf 4 x.bits.toNat) (.real x.widen)
  | float8 {x : Binary64} : StandsFor .float8 (bytesOf 8 x.bits.toNat) (.real x)
  /-- Numbers of any length stay text. -/
  | numeric {bytes : List UInt8} {cs : List Char} : Numeric.decode bytes = some cs →
      StandsFor .numeric bytes (.text (String.ofList cs))
  | text {t : DataType} {s : String} : t.isText = true →
      StandsFor t (encodeUtf8 s.toList) (.text s)
  | bytea {bytes : List UInt8} : StandsFor .bytea bytes (.bytes bytes)
  | uuid {u : Uuid} : StandsFor .uuid u.bytes (.uuid u)
  | json {s : String} {j : Json} : Json.ofText? s = some j →
      StandsFor .json (encodeUtf8 s.toList) (.json j)
  /-- The binary form of a document has its version in front. -/
  | jsonb {s : String} {j : Json} : Json.ofText? s = some j →
      StandsFor .jsonb (1 :: encodeUtf8 s.toList) (.json j)
  /-- Microseconds, on a supported day. -/
  | moment {t : DataType} {s : Timestamp} {micros : Nat} : t = .timestamp ∨ t = .timestamptz →
      s.inRange = true → micros < 1000000 → s.nanos = micros * 1000 →
      StandsFor t (signedBytesOf 8 ((s.seconds - 946684800) * 1000000 + micros)) (.timestamp s)
  /-- Days, as far as they are supported. -/
  | date {d : Date} : d.inRange = true →
      StandsFor .date (signedBytesOf 4 (d.days - 10957)) (.date d)

/-- The types of a fixed width: how many bytes there are, and what is wrong with more of them. -/
def DataType.layout? : DataType → Option (Nat × ColumnFault)
  | .int2 => some (2, .wrongLength)
  | .int4 | .oid | .float4 => some (4, .wrongLength)
  | .int8 | .float8 => some (8, .wrongLength)
  | .timestamp | .timestamptz => some (8, .timestampNotDrained)
  | .date => some (4, .dateNotDrained)
  | _ => none

/-- Bytes that are the text of no document. -/
def NoDocument (bytes : List UInt8) : Prop :=
  ∀ (s : String) (j : Json), Json.ofText? s = some j → bytes ≠ encodeUtf8 s.toList

/-- **What is wrong with bytes that stand for no value.** -/
inductive Refuses : DataType → List UInt8 → ColumnFault → Prop where
  | bool {bytes : List UInt8} : bytes.length ≠ 1 → Refuses .bool bytes .wrongLength
  | short {t : DataType} {bytes : List UInt8} {width : Nat} {leftOver : ColumnFault} :
      t.layout? = some (width, leftOver) → bytes.length < width → Refuses t bytes .tooShort
  | long {t : DataType} {bytes : List UInt8} {width : Nat} {leftOver : ColumnFault} :
      t.layout? = some (width, leftOver) → width < bytes.length → Refuses t bytes leftOver
  | numeric {bytes : List UInt8} : Numeric.EndsEarly bytes →
      Refuses .numeric bytes .truncatedNumeric
  | text {t : DataType} {bytes : List UInt8} {fault : Utf8Fault} : t.isText = true →
      decodeUtf8 bytes = .error fault → Refuses t bytes (.utf8 fault)
  | uuid {bytes : List UInt8} : bytes.length ≠ 16 → Refuses .uuid bytes .uuidLength
  | json {bytes : List UInt8} : NoDocument bytes → Refuses .json bytes .notDocument
  /-- There is no version. -/
  | unversioned : Refuses .jsonb [] .tooShort
  | version {version : UInt8} {rest : List UInt8} : version ≠ 1 →
      Refuses .jsonb (version :: rest) .documentVersion
  | jsonb {bytes : List UInt8} : NoDocument bytes → Refuses .jsonb (1 :: bytes) .notDocument
  /-- The day is not supported. -/
  | moment {t : DataType} {bytes : List UInt8} {s : Timestamp} {micros : Nat} :
      t = .timestamp ∨ t = .timestamptz → bytes.length = 8 → s.inRange = false →
      micros < 1000000 → s.nanos = micros * 1000 →
      signed bytes = (s.seconds - 946684800) * 1000000 + micros → Refuses t bytes .outOfRange
  | date {bytes : List UInt8} {d : Date} : bytes.length = 4 → d.inRange = false →
      signed bytes = d.days - 10957 → Refuses .date bytes .outOfRange

section Reading

variable {t : DataType} {bytes : List UInt8} {v : Value} {fault : ColumnFault}

lemma StandsFor.ne_null (h : StandsFor t bytes v) : v ≠ .null := by
  cases h <;> exact nofun

/-! ## Bytes of a width -/

/-- Bytes that are as many as they should be are read on. -/
lemma exactly_bind {α : Type} {width : Nat} (h : bytes.length = width) (leftOver : ColumnFault)
    (read : List UInt8 → Except ColumnFault α) :
    (exactly width leftOver bytes >>= read) = read bytes := by
  rw [exactly, if_neg (by omega), if_neg (by omega)]
  rfl

lemma signed_lt_halfCapacity {width : Nat} (hwidth : 0 < width) (h : bytes.length = width) :
    -halfCapacity width ≤ signed bytes ∧ signed bytes < halfCapacity width := by
  have hbounds := signed_bounds bytes
  rw [h, capacity_eq hwidth] at hbounds
  omega

/-- Bytes that are not as many as those of a type are not read. -/
lemma readColumn?_of_exactly_eq_error {width : Nat} {leftOver : ColumnFault}
    (ht : t.layout? = some (width, leftOver)) (h : exactly width leftOver bytes = .error fault) :
    readColumn? t bytes = some (.error fault) := by
  cases t
  case int2 | int4 | int8 | oid | float4 | float8 =>
    cases ht
    rw [readColumn?, h]
    rfl
  case timestamp | timestamptz =>
    cases ht
    rw [readColumn?, readTimestamp, h]
    rfl
  case date =>
    cases ht
    rw [readColumn?, readDate, h]
    rfl
  all_goals cases ht

/-! ## Values are read -/

lemma readColumn?_of_isText (ht : t.isText = true) (bytes : List UInt8) :
    readColumn? t bytes = some (.text <$> readText bytes) := by
  cases t <;> first | (cases ht; done) | rfl

lemma readColumn?_moment (ht : t = .timestamp ∨ t = .timestamptz) (bytes : List UInt8) :
    readColumn? t bytes = some (.timestamp <$> readTimestamp bytes) := by
  rcases ht with rfl | rfl
  · rfl
  · rfl

lemma readDocument_eq_ok_iff {j : Json} :
    readDocument bytes = .ok j ↔
      ∃ s : String, Json.ofText? s = some j ∧ bytes = encodeUtf8 s.toList := by
  rw [readDocument]
  constructor
  · intro h
    split at h
    · cases h
    · rename_i cs hcs
      split at h
      · rename_i j' hj
        obtain rfl := Except.ok.inj h
        exact ⟨String.ofList cs, hj, by rw [String.toList_ofList, decodeUtf8_eq_ok_iff.mp hcs]⟩
      · cases h
  · rintro ⟨s, hj, rfl⟩
    simp only [decodeUtf8_encodeUtf8, String.ofList_toList, hj]

/-- Whatever is wrong with a document, the fault is the same. -/
lemma readDocument_eq_error_iff :
    readDocument bytes = .error fault ↔ fault = .notDocument ∧ NoDocument bytes := by
  cases hread : readDocument bytes with
  | ok j =>
    obtain ⟨s, hj, hbytes⟩ := readDocument_eq_ok_iff.mp hread
    exact iff_of_false nofun fun h => h.2 s j hj hbytes
  | error other =>
    have hnone : NoDocument bytes := by
      intro s j hj hbytes
      cases hread.symm.trans (readDocument_eq_ok_iff.mpr ⟨s, hj, hbytes⟩)
    have hother : other = .notDocument := by
      rw [readDocument] at hread
      split at hread
      · exact (Except.error.inj hread).symm
      · split at hread
        · cases hread
        · exact (Except.error.inj hread).symm
    rw [hother, Except.error.injEq, eq_comm, and_iff_left hnone]

lemma readTimestamp_of_signed {s : Timestamp} {micros : Nat} (hlength : bytes.length = 8)
    (hmicros : micros < 1000000) (hnanos : s.nanos = micros * 1000)
    (hsigned : signed bytes = (s.seconds - 946684800) * 1000000 + micros) :
    readTimestamp bytes = if s.inRange then .ok s else .error .outOfRange := by
  have hepoch : epoch.days * Timestamp.daySeconds = 946684800 := rfl
  have hread : (⟨946684800 + signed bytes / 1000000, (signed bytes % 1000000).toNat * 1000⟩ :
      Timestamp) = s := by
    obtain ⟨seconds, nanos⟩ := s
    simp only at hnanos hsigned
    rw [Timestamp.mk.injEq]
    omega
  simp only [readTimestamp, exactly_bind hlength, hepoch, hread]
  rfl

lemma readDate_of_signed {d : Date} (hlength : bytes.length = 4)
    (hsigned : signed bytes = d.days - 10957) :
    readDate bytes = if d.inRange then .ok d else .error .outOfRange := by
  have hread : (⟨epoch.days + signed bytes⟩ : Date) = d := by
    have hepoch : epoch.days = 10957 := rfl
    rw [hsigned, hepoch, add_sub_cancel]
  simp only [readDate, exactly_bind hlength, hread]
  rfl

/-- **Bytes are read as what they stand for.** -/
lemma readColumn?_of_standsFor (h : StandsFor t bytes v) : readColumn? t bytes = some (.ok v) := by
  have hfour : halfCapacity 4 = 0x80000000 := by decide
  have height : halfCapacity 8 = 0x8000000000000000 := by decide
  cases h with
  | no => rfl
  | yes hb => simp [readColumn?, hb]
  | int2 =>
    have htwo : halfCapacity 2 = 0x8000 := by decide
    rw [readColumn?, exactly_bind (length_signedBytesOf 2 _), signed_of_lt (by decide) (by omega),
      Int32.ofInt_toInt]
    rfl
  | @int4 n =>
    have hlow := n.le_toInt
    have hhigh := n.toInt_lt
    rw [readColumn?, exactly_bind (length_signedBytesOf 4 _), signed_of_lt (by decide) (by omega),
      Int32.ofInt_toInt]
    rfl
  | @int8 n =>
    have hlow := n.le_toInt
    have hhigh := n.toInt_lt
    rw [readColumn?, exactly_bind (length_signedBytesOf 8 _), signed_of_lt (by decide) (by omega),
      Int64.ofInt_toInt]
    rfl
  | oid hn hid =>
    rw [readColumn?, exactly_bind (length_bytesOf 4 _), unsigned_bytesOf_of_lt hid, ← hn,
      Int64.ofInt_toInt]
    rfl
  | @float4 x =>
    have hbits : x.bits.toNat.toUInt32 = x.bits := UInt32.ofNat_toNat
    rw [readColumn?, exactly_bind (length_bytesOf 4 _), unsigned_bytesOf_of_lt x.bits.toNat_lt,
      hbits]
    rfl
  | @float8 x =>
    have hbits : x.bits.toNat.toUInt64 = x.bits := UInt64.ofNat_toNat
    rw [readColumn?, exactly_bind (length_bytesOf 8 _), unsigned_bytesOf_of_lt x.bits.toNat_lt,
      hbits]
    rfl
  | numeric hdecode => rw [readColumn?, hdecode]
  | @text _ s ht =>
    have hread : readText (encodeUtf8 s.toList) = .ok s := by
      simp only [readText, decodeUtf8_encodeUtf8, String.ofList_toList]
    rw [readColumn?_of_isText ht, hread]
    rfl
  | bytea => rfl
  | uuid => rw [readColumn?, Uuid.ofBytes?_bytes]
  | json hj =>
    rw [readColumn?, readDocument_eq_ok_iff.mpr ⟨_, hj, rfl⟩]
    rfl
  | jsonb hj =>
    simp only [readColumn?, if_true]
    rw [readDocument_eq_ok_iff.mpr ⟨_, hj, rfl⟩]
    rfl
  | @moment _ s micros ht hrange hmicros hnanos =>
    have hbounds := Timestamp.inRange_iff.mp hrange
    have hsigned : signed (signedBytesOf 8 ((s.seconds - 946684800) * 1000000 + micros)) =
        (s.seconds - 946684800) * 1000000 + micros := signed_of_lt (by decide) (by omega)
    have hread := readTimestamp_of_signed (length_signedBytesOf 8 _) hmicros hnanos hsigned
    rw [readColumn?_moment ht, hread, if_pos hrange]
    rfl
  | @date d hrange =>
    have hbounds := Date.inRange_iff.mp hrange
    have hsigned : signed (signedBytesOf 4 (d.days - 10957)) = d.days - 10957 :=
      signed_of_lt (by decide) (by omega)
    have hread := readDate_of_signed (length_signedBytesOf 4 _) hsigned
    rw [readColumn?, hread, if_pos hrange]
    rfl

/-! ## All other bytes are refused -/

lemma decode_eq_none_iff : Numeric.decode bytes = none ↔ Numeric.EndsEarly bytes := by
  rw [Numeric.decode, Numeric.ofBytes?_eq]
  by_cases hearly : Numeric.EndsEarly bytes <;> simp [hearly]

/-- **Other bytes are refused for what is wrong with them.** -/
lemma readColumn?_of_refuses (h : Refuses t bytes fault) :
    readColumn? t bytes = some (.error fault) := by
  cases h with
  | bool hlength =>
    rcases bytes with _ | ⟨b, _ | ⟨b', rest⟩⟩
    · rfl
    · exact absurd rfl hlength
    · rfl
  | short ht hshort => exact readColumn?_of_exactly_eq_error ht (if_pos hshort)
  | long ht hlong =>
    refine readColumn?_of_exactly_eq_error ht ?_
    rw [exactly, if_neg (by omega), if_pos hlong]
  | numeric hearly => rw [readColumn?, decode_eq_none_iff.mpr hearly]
  | @text _ _ fault ht hdecode =>
    have hread : readText bytes = .error (.utf8 fault) := by rw [readText, hdecode]
    rw [readColumn?_of_isText ht, hread]
    rfl
  | uuid hlength => rw [readColumn?, Uuid.ofBytes?, if_neg hlength]
  | json hnone =>
    rw [readColumn?, readDocument_eq_error_iff.mpr ⟨rfl, hnone⟩]
    rfl
  | unversioned => rfl
  | version hversion => simp only [readColumn?, if_neg hversion]
  | jsonb hnone =>
    simp only [readColumn?, if_true]
    rw [readDocument_eq_error_iff.mpr ⟨rfl, hnone⟩]
    rfl
  | moment ht hlength hrange hmicros hnanos hsigned =>
    rw [readColumn?_moment ht, readTimestamp_of_signed hlength hmicros hnanos hsigned, hrange]
    rfl
  | date hlength hrange hsigned =>
    rw [readColumn?, readDate_of_signed hlength hsigned, hrange]
    rfl

lemma StandsFor.unique {w : Value} (hv : StandsFor t bytes v) (hw : StandsFor t bytes w) :
    v = w := by
  cases (readColumn?_of_standsFor hv).symm.trans (readColumn?_of_standsFor hw)
  rfl

lemma Refuses.unique {other : ColumnFault} (h : Refuses t bytes fault)
    (ho : Refuses t bytes other) : fault = other := by
  cases (readColumn?_of_refuses h).symm.trans (readColumn?_of_refuses ho)
  rfl

lemma StandsFor.not_refuses (h : StandsFor t bytes v) : ¬ Refuses t bytes fault := by
  intro hfault
  cases (readColumn?_of_standsFor h).symm.trans (readColumn?_of_refuses hfault)

/-! ## There are no other bytes -/

lemma standsFor_int2 (h : bytes.length = 2) :
    StandsFor .int2 bytes (.int32 (Int32.ofInt (signed bytes))) := by
  have htwo : halfCapacity 2 = 0x8000 := by decide
  have hbounds := signed_lt_halfCapacity (by decide) h
  have hn : (Int32.ofInt (signed bytes)).toInt = signed bytes :=
    Int32.toInt_ofInt_of_le (by omega) (by omega)
  have hvalue := StandsFor.int2 (n := Int32.ofInt (signed bytes)) (by omega) (by omega)
  rwa [hn, ← h, signedBytesOf_signed] at hvalue

lemma standsFor_int4 (h : bytes.length = 4) :
    StandsFor .int4 bytes (.int32 (Int32.ofInt (signed bytes))) := by
  have hfour : halfCapacity 4 = 0x80000000 := by decide
  have hbounds := signed_lt_halfCapacity (by decide) h
  have hn : (Int32.ofInt (signed bytes)).toInt = signed bytes :=
    Int32.toInt_ofInt_of_le (by omega) (by omega)
  have hvalue := StandsFor.int4 (n := Int32.ofInt (signed bytes))
  rwa [hn, ← h, signedBytesOf_signed] at hvalue

lemma standsFor_int8 (h : bytes.length = 8) :
    StandsFor .int8 bytes (.int64 (Int64.ofInt (signed bytes))) := by
  have height : halfCapacity 8 = 0x8000000000000000 := by decide
  have hbounds := signed_lt_halfCapacity (by decide) h
  have hn : (Int64.ofInt (signed bytes)).toInt = signed bytes :=
    Int64.toInt_ofInt_of_le (by omega) (by omega)
  have hvalue := StandsFor.int8 (n := Int64.ofInt (signed bytes))
  rwa [hn, ← h, signedBytesOf_signed] at hvalue

lemma standsFor_oid (h : bytes.length = 4) :
    StandsFor .oid bytes (.int64 (Int64.ofInt (unsigned bytes))) := by
  have hcapacity : capacity 4 = 0x100000000 := by decide
  have hlt := unsigned_lt bytes
  rw [h, hcapacity] at hlt
  have hn : (Int64.ofInt (unsigned bytes)).toInt = unsigned bytes :=
    Int64.toInt_ofInt_of_le (by omega) (by omega)
  have hvalue := StandsFor.oid hn hlt
  rwa [← h, bytesOf_unsigned] at hvalue

lemma standsFor_float4 (h : bytes.length = 4) :
    StandsFor .float4 bytes (.real (Binary32.mk (unsigned bytes).toUInt32).widen) := by
  have hlt := unsigned_lt bytes
  rw [h] at hlt
  have hbits : (unsigned bytes).toUInt32.toNat = unsigned bytes := UInt32.toNat_ofNat_of_lt hlt
  have hvalue := StandsFor.float4 (x := ⟨(unsigned bytes).toUInt32⟩)
  rwa [hbits, ← h, bytesOf_unsigned] at hvalue

lemma standsFor_float8 (h : bytes.length = 8) :
    StandsFor .float8 bytes (.real ⟨(unsigned bytes).toUInt64⟩) := by
  have hlt := unsigned_lt bytes
  rw [h] at hlt
  have hbits : (unsigned bytes).toUInt64.toNat = unsigned bytes := UInt64.toNat_ofNat_of_lt hlt
  have hvalue := StandsFor.float8 (x := ⟨(unsigned bytes).toUInt64⟩)
  rwa [hbits, ← h, bytesOf_unsigned] at hvalue

lemma standsFor_text (ht : t.isText = true) (cs : List Char) :
    StandsFor t (encodeUtf8 cs) (.text (String.ofList cs)) := by
  have hvalue := StandsFor.text (s := String.ofList cs) ht
  rwa [String.toList_ofList] at hvalue

/-- Sixteen bytes are those of an identifier. -/
lemma exists_eq_bytes (h : bytes.length = 16) : ∃ u : Uuid, bytes = u.bytes := by
  have hlt := unsigned_lt bytes
  have hcapacity : capacity 16 = 2 ^ 128 := by decide
  rw [h, hcapacity] at hlt
  refine ⟨⟨BitVec.ofNat 128 (unsigned bytes)⟩, ?_⟩
  rw [Uuid.bytes_eq_bytesOf, BitVec.toNat_ofNat, Nat.mod_eq_of_lt hlt, ← h, bytesOf_unsigned]

/-- Eight bytes are a point in time, on a supported day or on another one. -/
lemma standsFor_or_refuses_moment (ht : t = .timestamp ∨ t = .timestamptz)
    (h : bytes.length = 8) : (∃ v, StandsFor t bytes v) ∨ ∃ fault, Refuses t bytes fault := by
  let s : Timestamp :=
    ⟨946684800 + signed bytes / 1000000, (signed bytes % 1000000).toNat * 1000⟩
  have hmicros : (signed bytes % 1000000).toNat < 1000000 := by omega
  have hsigned : signed bytes =
      (s.seconds - 946684800) * 1000000 + (signed bytes % 1000000).toNat := by
    simp only [s]
    omega
  cases hrange : s.inRange with
  | true =>
    have hvalue := StandsFor.moment ht hrange hmicros rfl
    rw [← hsigned, ← h, signedBytesOf_signed] at hvalue
    exact .inl ⟨_, hvalue⟩
  | false => exact .inr ⟨_, .moment ht h hrange hmicros rfl hsigned⟩

lemma standsFor_or_refuses_date (h : bytes.length = 4) :
    (∃ v, StandsFor .date bytes v) ∨ ∃ fault, Refuses .date bytes fault := by
  let d : Date := ⟨10957 + signed bytes⟩
  have hsigned : signed bytes = d.days - 10957 := (add_sub_cancel_left _ _).symm
  cases hrange : d.inRange with
  | true =>
    have hvalue := StandsFor.date hrange
    rw [← hsigned, ← h, signedBytesOf_signed] at hvalue
    exact .inl ⟨_, hvalue⟩
  | false => exact .inr ⟨_, .date h hrange hsigned⟩

/-- Bytes are a document, or they are none. -/
lemma exists_document_or (bytes : List UInt8) :
    (∃ (s : String) (j : Json), Json.ofText? s = some j ∧ bytes = encodeUtf8 s.toList) ∨
      NoDocument bytes := by
  by_cases h : NoDocument bytes
  · exact .inr h
  · simp only [NoDocument, not_forall, not_not, exists_prop] at h
    exact .inl h

/-- **Bytes of a type of fixed width** stand for a value, or are refused. -/
lemma standsFor_or_refuses_of_layout? {width : Nat} {leftOver : ColumnFault}
    (ht : t.layout? = some (width, leftOver)) :
    (∃ v, StandsFor t bytes v) ∨ ∃ fault, Refuses t bytes fault := by
  rcases lt_trichotomy bytes.length width with hshort | hlength | hlong
  · exact .inr ⟨_, .short ht hshort⟩
  · cases t
    case int2 => cases ht; exact .inl ⟨_, standsFor_int2 hlength⟩
    case int4 => cases ht; exact .inl ⟨_, standsFor_int4 hlength⟩
    case int8 => cases ht; exact .inl ⟨_, standsFor_int8 hlength⟩
    case oid => cases ht; exact .inl ⟨_, standsFor_oid hlength⟩
    case float4 => cases ht; exact .inl ⟨_, standsFor_float4 hlength⟩
    case float8 => cases ht; exact .inl ⟨_, standsFor_float8 hlength⟩
    case timestamp => cases ht; exact standsFor_or_refuses_moment (.inl rfl) hlength
    case timestamptz => cases ht; exact standsFor_or_refuses_moment (.inr rfl) hlength
    case date => cases ht; exact standsFor_or_refuses_date hlength
    all_goals cases ht
  · exact .inr ⟨_, .long ht hlong⟩

lemma standsFor_or_refuses_text (ht : t.isText = true) (bytes : List UInt8) :
    (∃ v, StandsFor t bytes v) ∨ ∃ fault, Refuses t bytes fault := by
  cases hdecode : decodeUtf8 bytes with
  | error fault => exact .inr ⟨_, .text ht hdecode⟩
  | ok cs =>
    rw [decodeUtf8_eq_ok_iff.mp hdecode]
    exact .inl ⟨_, standsFor_text ht cs⟩

/-- **All bytes of a type with a counterpart** stand for a value, or are refused. -/
lemma standsFor_or_refuses (ht : t ∈ DataType.known) (bytes : List UInt8) :
    (∃ v, StandsFor t bytes v) ∨ ∃ fault, Refuses t bytes fault := by
  cases t with
  | int2 | int4 | int8 | oid | float4 | float8 | timestamp | timestamptz | date =>
    exact standsFor_or_refuses_of_layout? rfl
  | text | varchar | bpchar | name | unknown => exact standsFor_or_refuses_text rfl bytes
  | bool =>
    rcases bytes with _ | ⟨b, _ | ⟨b', rest⟩⟩
    · exact .inr ⟨_, .bool (by simp)⟩
    · by_cases hb : b = 0
      · subst hb
        exact .inl ⟨_, .no⟩
      · exact .inl ⟨_, .yes hb⟩
    · exact .inr ⟨_, .bool (by simp)⟩
  | numeric =>
    cases hdecode : Numeric.decode bytes with
    | none => exact .inr ⟨_, .numeric (decode_eq_none_iff.mp hdecode)⟩
    | some cs => exact .inl ⟨_, .numeric hdecode⟩
  | bytea => exact .inl ⟨_, .bytea⟩
  | uuid =>
    by_cases hlength : bytes.length = 16
    · obtain ⟨u, rfl⟩ := exists_eq_bytes hlength
      exact .inl ⟨_, .uuid⟩
    · exact .inr ⟨_, .uuid hlength⟩
  | json =>
    rcases exists_document_or bytes with ⟨s, j, hj, rfl⟩ | hnone
    · exact .inl ⟨_, .json hj⟩
    · exact .inr ⟨_, .json hnone⟩
  | jsonb =>
    cases bytes with
    | nil => exact .inr ⟨_, .unversioned⟩
    | cons version rest =>
      by_cases hversion : version = 1
      · subst hversion
        rcases exists_document_or rest with ⟨s, j, hj, rfl⟩ | hnone
        · exact .inl ⟨_, .jsonb hj⟩
        · exact .inr ⟨_, .jsonb hnone⟩
      · exact .inr ⟨_, .version hversion⟩
  | other given => exact absurd ht (by simp [DataType.known])

/-! ## What bytes are read as -/

/-- A type is read if it has a counterpart. -/
lemma readColumn?_eq_none_iff : readColumn? t bytes = none ↔ t ∉ DataType.known := by
  cases t <;> simp [readColumn?, DataType.known]

lemma mem_known_of_readColumn? {read : Except ColumnFault Value}
    (h : readColumn? t bytes = some read) : t ∈ DataType.known := by
  by_contra hunknown
  rw [readColumn?_eq_none_iff.mpr hunknown] at h
  cases h

/-- **Bytes are read as a value if they stand for it.** -/
theorem readColumn?_eq_ok_iff : readColumn? t bytes = some (.ok v) ↔ StandsFor t bytes v := by
  refine ⟨fun h => ?_, readColumn?_of_standsFor⟩
  rcases standsFor_or_refuses (mem_known_of_readColumn? h) bytes with
    ⟨w, hvalue⟩ | ⟨fault, hfault⟩
  · cases (readColumn?_of_standsFor hvalue).symm.trans h
    exact hvalue
  · cases (readColumn?_of_refuses hfault).symm.trans h

/-- **They are refused for what is wrong with them.** -/
theorem readColumn?_eq_error_iff :
    readColumn? t bytes = some (.error fault) ↔ Refuses t bytes fault := by
  refine ⟨fun h => ?_, readColumn?_of_refuses⟩
  rcases standsFor_or_refuses (mem_known_of_readColumn? h) bytes with
    ⟨v, hvalue⟩ | ⟨other, hfault⟩
  · cases (readColumn?_of_standsFor hvalue).symm.trans h
  · cases (readColumn?_of_refuses hfault).symm.trans h
    exact hfault

end Reading

end BoundSql.Wire
