import BoundSql.Proofs.Decimal.Integer
import BoundSql.Proofs.Wire.Meaning
import BoundSql.Proofs.Wire.Numeric.Stored

/-!
# Integers as parameters

An integer is sent as a value of the type of its placeholder, and is refused by a type that is too
narrow for it.  What was sent is read from a column of that type as the same number.

* `integerRange`, `DataType.HasRoom` — the integers that a type has room for.
* `ReadsAs` — the value as which an integer is read from a column.
* `narrowed_eq` — integers of a width.
* `encode_integer` — an integer as a decimal number of any length.
* **`bind_integer_readColumn?`** — no integer is sent and then read as another.
-/

namespace BoundSql.Wire

open Decimal Text

/-! ## Integers of a width -/

/-- **A number is narrowed to a width if it fits**, and refused otherwise. -/
lemma narrowed_eq (width : Nat) (n : Int) :
    narrowed width n =
      if n < -halfCapacity width then .error (.integer .tooSmall)
      else if halfCapacity width - 1 < n then .error (.integer .tooLarge)
      else .ok (signedBytesOf width n) := rfl

lemma narrowed_eq_ok_iff {width : Nat} {n : Int} {bytes : List UInt8} :
    narrowed width n = .ok bytes ↔
      (-halfCapacity width ≤ n ∧ n < halfCapacity width) ∧ bytes = signedBytesOf width n := by
  rw [narrowed_eq]
  split
  · simp only [reduceCtorEq, false_iff, not_and]
    omega
  · split
    · simp only [reduceCtorEq, false_iff, not_and]
      omega
    · rename_i hlow hhigh
      rw [and_iff_right ⟨by omega, by omega⟩, Except.ok.injEq, eq_comm]

/-! ## Integers as decimal numbers -/

namespace Numeric

open Literal

lemma spells_integer (n : Int) :
    Spells (integer n) (.decimal (decide (n < 0)) (digits n.natAbs) []) := by
  have hsome : digits n.natAbs ≠ [] ∨ ([] : List Char) ≠ [] := .inl (digits_ne_nil _)
  rw [integer]
  split
  · rename_i h
    have hspells := Spells.decimal .minus (allDigits_digits n.natAbs) .none hsome
    simpa [h] using hspells
  · rename_i h
    have hspells := Spells.decimal .none (allDigits_digits n.natAbs) .none hsome
    simpa [h] using hspells

lemma wholeText_digits (n : Nat) : wholeText (digits n) = digits n := by
  by_cases hn : n = 0
  · subst hn
    rw [digits]
    rfl
  · have hdrop := dropWhile_eq_self_of_head (head?_digits_ne hn)
    rw [wholeText, hdrop, if_neg (digits_ne_nil n)]

/-- **There is nothing superfluous in the text of an integer.** -/
lemma canonical_integer (n : Int) :
    canonical (.decimal (decide (n < 0)) (digits n.natAbs) []) = integer n := by
  simp only [canonical, wholeText_digits, if_true, List.append_nil]
  rw [integer]
  split
  · rename_i hsign
    rw [Bool.and_eq_true, decide_eq_true_eq] at hsign
    rw [if_pos hsign.1]
    rfl
  · rename_i hsign
    rw [if_neg ?_]
    · rfl
    · -- A negative number has a digit that is not zero.
      intro hnegative
      have hzeros : ∀ c ∈ digits n.natAbs, c = '0' := by simpa [hnegative] using hsign
      have hzero := (value_eq_zero_iff (allDigits_digits _)).mpr hzeros
      rw [value_digits] at hzero
      omega

/-- A literal without a fraction has a payload, if it is not too long. -/
lemma exists_payload (minus : Bool) {whole : List Char} (h : allDigits whole = true)
    (hlength : whole.length ≤ 131068) : ∃ p, payload (.decimal minus whole []) = .ok p := by
  obtain ⟨front, core, back, hgroups, hcore⟩ :=
    exists_padding 0 (wholeGroups whole ++ fractionGroups [])
  have hcount := congrArg List.length hgroups
  have hdrop := (List.dropWhile_suffix (l := whole) (· == '0')).length_le
  rw [List.length_append, length_wholeGroups h, length_fractionGroups rfl] at hcount
  simp only [List.length_append, List.length_replicate, List.length_nil] at hcount
  rw [payload_decimal (Nat.zero_le _) hgroups hcore]
  split
  · exact ⟨_, rfl⟩
  · rw [if_neg (by omega)]
    exact ⟨_, rfl⟩

/-- **An integer is sent as a decimal number and read as its text.** -/
theorem encode_integer {n : Int} (h : (digits n.natAbs).length ≤ 131068) :
    ∃ bytes, encode (integer n) = .ok bytes ∧ decode bytes = some (integer n) := by
  have hspells := spells_integer n
  have hform := wellFormed_of_spells hspells
  have hwhole : (Literal.decimal (decide (n < 0)) (digits n.natAbs) []).wholeDigits ≤ 131068 :=
    (List.dropWhile_suffix _).length_le.trans h
  obtain ⟨p, hp⟩ := exists_payload (decide (n < 0)) (allDigits_digits n.natAbs) h
  refine ⟨p.bytes, ?_, ?_⟩
  · rw [encode_eq_ok_iff, trim_of_spells_decimal hspells]
    exact ⟨_, _, hspells, hp, rfl⟩
  · rw [decode, Payload.ofBytes?_bytes (fits_of_payload hform hwhole hp)
      (digits_eq_nil_of_payload hp), Option.map_some, write_of_payload hform hp, canonical_integer]

end Numeric

/-! ## Types with room for integers -/

/-- The types that show integers as they are. -/
def integerTypes : List DataType :=
  [.int2, .int4, .int8, .numeric, .text, .varchar, .bpchar, .name, .unknown]

namespace DataType

/-- The least and the greatest integer of a type, `none` where there is room for all. -/
def integerRange : DataType → Option (Int × Int)
  | .int2 => some (-0x8000, 0x7FFF)
  | .int4 => some (-0x80000000, 0x7FFFFFFF)
  | .int8 => some (-0x8000000000000000, 0x7FFFFFFFFFFFFFFF)
  | _ => none

/-- **A type has room for an integer** that lies in its range. -/
def HasRoom (t : DataType) (n : Int) : Prop :=
  ∀ range ∈ t.integerRange, range.1 ≤ n ∧ n ≤ range.2

instance (t : DataType) (n : Int) : Decidable (t.HasRoom n) :=
  inferInstanceAs (Decidable (∀ range ∈ t.integerRange, range.1 ≤ n ∧ n ≤ range.2))

end DataType

/-- **The value as which an integer is read from a column.**  Narrow integers become wide ones, and
numbers of any length stay text. -/
inductive ReadsAs (n : Int) : DataType → Value → Prop where
  | int2 {m : Int32} : m.toInt = n → ReadsAs n .int2 (.int32 m)
  | int4 {m : Int32} : m.toInt = n → ReadsAs n .int4 (.int32 m)
  | int8 {m : Int64} : m.toInt = n → ReadsAs n .int8 (.int64 m)
  | numeric : ReadsAs n .numeric (.text (String.ofList (integer n)))
  | text {t : DataType} : t.isText = true → ReadsAs n t (.text (String.ofList (integer n)))

section Sending

variable {t : DataType} {n : Int}

lemma integerValueBytes_text (ht : t.isText = true) :
    integerValueBytes t n = .ok (encodeUtf8 (integer n)) := by
  cases t <;> first | (cases ht; done) | rfl

/-- **A type refuses what it has no room for.** -/
lemma integerValueBytes_eq_error (hn : ¬ t.HasRoom n)
    (hlong : -0x8000000000000000 ≤ n ∧ n ≤ 0x7FFFFFFFFFFFFFFF) :
    ∃ fault, integerValueBytes t n = .error fault := by
  have hnarrow {width : Nat} (h : ¬ (-halfCapacity width ≤ n ∧ n < halfCapacity width)) :
      ∃ fault, narrowed width n = .error fault := by
    cases hbytes : narrowed width n with
    | error fault => exact ⟨fault, rfl⟩
    | ok bytes => exact absurd (narrowed_eq_ok_iff.mp hbytes).1 h
  have htwo : halfCapacity 2 = 0x8000 := by decide
  have hfour : halfCapacity 4 = 0x80000000 := by decide
  cases t
  case int2 =>
    simp only [DataType.HasRoom, DataType.integerRange, Option.mem_some_iff, forall_eq'] at hn
    exact hnarrow (by omega)
  case int4 =>
    simp only [DataType.HasRoom, DataType.integerRange, Option.mem_some_iff, forall_eq'] at hn
    exact hnarrow (by omega)
  case int8 =>
    simp only [DataType.HasRoom, DataType.integerRange, Option.mem_some_iff, forall_eq'] at hn
    exact absurd hlong hn
  all_goals exact absurd (by simp [DataType.HasRoom, DataType.integerRange]) hn

/-- **What a type has room for is sent, and read as the same number.** -/
lemma exists_integerValueBytes (ht : t ∈ integerTypes) (hn : t.HasRoom n)
    (hlong : -0x8000000000000000 ≤ n ∧ n ≤ 0x7FFFFFFFFFFFFFFF) :
    ∃ bytes r, integerValueBytes t n = .ok bytes ∧ readColumn? t bytes = some (.ok r) ∧
      ReadsAs n t r := by
  have htwo : halfCapacity 2 = 0x8000 := by decide
  have hfour : halfCapacity 4 = 0x80000000 := by decide
  by_cases htext : t.isText = true
  · exact ⟨_, _, integerValueBytes_text htext, readColumn?_of_standsFor (standsFor_text htext _),
      .text htext⟩
  cases t
  case int2 =>
    have hrange := hn _ rfl
    have hm : (Int32.ofInt n).toInt = n := Int32.toInt_ofInt_of_le (by omega) (by omega)
    have hvalue := StandsFor.int2 (n := Int32.ofInt n) (by omega) (by omega)
    rw [hm] at hvalue
    exact ⟨_, _, narrowed_eq_ok_iff.mpr ⟨by omega, rfl⟩, readColumn?_of_standsFor hvalue,
      .int2 hm⟩
  case int4 =>
    have hrange := hn _ rfl
    have hm : (Int32.ofInt n).toInt = n := Int32.toInt_ofInt_of_le (by omega) (by omega)
    have hvalue := StandsFor.int4 (n := Int32.ofInt n)
    rw [hm] at hvalue
    exact ⟨_, _, narrowed_eq_ok_iff.mpr ⟨by omega, rfl⟩, readColumn?_of_standsFor hvalue,
      .int4 hm⟩
  case int8 =>
    have hm : (Int64.ofInt n).toInt = n := Int64.toInt_ofInt_of_le (by omega) (by omega)
    have hvalue := StandsFor.int8 (n := Int64.ofInt n)
    rw [hm] at hvalue
    exact ⟨_, _, rfl, readColumn?_of_standsFor hvalue, .int8 hm⟩
  case numeric =>
    have hlength : (digits n.natAbs).length ≤ 131068 :=
      (length_digits_le (by decide) (show n.natAbs < 10 ^ 19 by omega)).trans (by decide)
    obtain ⟨bytes, hsent, hread⟩ := Numeric.encode_integer hlength
    refine ⟨bytes, _, ?_, ?_, .numeric⟩
    · rw [integerValueBytes, textBytes, hsent]
      · rfl
      all_goals exact nofun
    · rw [readColumn?, hread]
  case text | varchar | bpchar | name | unknown => exact absurd rfl htext
  all_goals exact absurd ht (by simp [integerTypes])

end Sending

/-! ## Integers of either width -/

/-- **An integer is sent by a type that has room for it and is read as the same number**; any other
type of these refuses it, and none sends the missing value instead. -/
theorem bind_integer_readColumn? {v : Value} {k : Int64} (hv : v.asInt64? = some k) {t : DataType}
    (ht : t ∈ integerTypes) :
    ((∃ raw, v.bind t = .ok raw) ↔ t.HasRoom k.toInt) ∧
      ∀ raw, v.bind t = .ok raw → ∃ bytes r, raw = some bytes ∧
        readColumn? t bytes = some (.ok r) ∧ ReadsAs k.toInt t r := by
  have hlong : -0x8000000000000000 ≤ k.toInt ∧ k.toInt ≤ 0x7FFFFFFFFFFFFFFF :=
    ⟨k.le_toInt, Int.le_of_lt_add_one k.toInt_lt⟩
  have hbindable : t.bindable = true := by
    revert t
    decide
  have hbind : v.bind t = some <$> integerValueBytes t k.toInt := by
    cases v with
    | int32 m =>
        obtain rfl := Option.some.inj hv
        rw [Value.bind, hbindable, Int32.toInt_toInt64]
        rfl
    | int64 m =>
        obtain rfl := Option.some.inj hv
        rw [Value.bind, hbindable]
        rfl
    | _ => cases hv
  by_cases hroom : t.HasRoom k.toInt
  · obtain ⟨bytes, r, hbytes, hread, hr⟩ := exists_integerValueBytes ht hroom hlong
    rw [hbind, hbytes]
    refine ⟨iff_of_true ⟨_, rfl⟩ hroom, ?_⟩
    rintro raw ⟨⟩
    exact ⟨bytes, r, rfl, hread, hr⟩
  · obtain ⟨fault, hfault⟩ := integerValueBytes_eq_error hroom hlong
    rw [hbind, hfault]
    exact ⟨iff_of_false nofun hroom, nofun⟩

/-- The least integer of two bytes is sent in two bytes and read as itself, and the one below it is
refused. -/
theorem bind_integer_readColumn?_least :
    (Value.int64 (-32768)).bind .int2 = .ok (some [0x80, 0x00]) ∧
      readColumn? .int2 [0x80, 0x00] = some (.ok (.int32 (-32768))) ∧
      ¬ ∃ raw, (Value.int64 (-32769)).bind .int2 = .ok raw := by
  have hleast := bind_integer_readColumn? (v := .int64 (-32768)) rfl (t := .int2) (by decide)
  have hbelow := bind_integer_readColumn? (v := .int64 (-32769)) rfl (t := .int2) (by decide)
  obtain ⟨raw, hsent⟩ := hleast.1.mpr (by decide)
  obtain ⟨bytes, r, rfl, hread, hr⟩ := hleast.2 raw hsent
  have hbytes : (Value.int64 (-32768)).bind .int2 = .ok (some [0x80, 0x00]) := by decide
  obtain rfl : bytes = [0x80, 0x00] := Option.some.inj (Except.ok.inj (hsent.symm.trans hbytes))
  refine ⟨hsent, ?_, fun h => absurd (hbelow.1.mp h) (by decide)⟩
  cases hr with
  | @int2 m hm =>
    have hvalue : m = -32768 := Int32.toInt_inj.mp (hm.trans (by decide))
    rw [hread, hvalue]
  | text ht => cases ht

end BoundSql.Wire
