import BoundSql.Proofs.Uuid
import BoundSql.Proofs.Wire.IntegerParameter

/-!
# Values and their text as parameters

A truth value, an integer or an identifier is sent as its text would be.  There is one table of
types for values and another one for texts, and the two agree.

* `Value.display?` — the text of a value.
* `integerBytes_integer` — the text of an integer is read within the same bounds to which the
  integer is narrowed.
* **`bind_eq_ok_iff_bind_display`** — a value and its text are sent as the same bytes, or neither is
  sent.
-/

namespace BoundSql

open Decimal Wire

/-- **The text of a value**, for the kinds that are sent as text wherever they have no type of their
own. -/
def Value.display? : Value → Option (List Char)
  | .bool true => some "true".toList
  | .bool false => some "false".toList
  | .int32 n => some (integer n.toInt)
  | .int64 n => some (integer n.toInt)
  | .uuid u => some u.write
  | _ => none

namespace Wire

variable {t : DataType}

/-- **The text of an integer is sent as the integer is**, with the same faults. -/
lemma integerBytes_integer (width : Nat) (n : Int) :
    integerBytes width (integer n) = narrowed width n := by
  have hhalf : 0 < halfCapacity width := by
    have hpos := capacity_pos (width - 1)
    rw [halfCapacity]
    omega
  have hread := readInteger_integer (show -(halfCapacity width : Int) < 0 by omega)
    (show 0 ≤ (halfCapacity width : Int) - 1 by omega) n
  rw [narrowed_eq]
  rw [halfCapacity] at hread ⊢
  by_cases hlow : n < -(128 * capacity (width - 1) : Nat)
  · simp only [integerBytes, hread, if_pos hlow]
  · rw [if_neg hlow] at hread ⊢
    by_cases hhigh : (128 * capacity (width - 1) : Nat) - 1 < n
    · simp only [integerBytes, hread, if_pos hhigh]
    · simp only [integerBytes, hread, if_neg hhigh]

lemma integerValueBytes_eq_textBytes {n : Int}
    (hlong : -0x8000000000000000 ≤ n ∧ n ≤ 0x7FFFFFFFFFFFFFFF)
    (hfloat : t ≠ .float4 ∧ t ≠ .float8) : integerValueBytes t n = textBytes t (integer n) := by
  cases t
  case int2 => exact (integerBytes_integer 2 n).symm
  case int4 => exact (integerBytes_integer 4 n).symm
  case int8 =>
    have height : halfCapacity 8 = 0x8000000000000000 := by decide
    rw [integerValueBytes, textBytes, integerBytes_integer, narrowed_eq, if_neg (by omega),
      if_neg (by omega)]
  case float4 => exact absurd rfl hfloat.1
  case float8 => exact absurd rfl hfloat.2
  all_goals rfl

lemma boolByte_eq_textBytes (b : Bool) :
    textBytes .bool (if b then "true".toList else "false".toList) = .ok (boolByte b) := by
  cases b <;> rfl

lemma uuidBytes_eq_textBytes (u : Uuid) : textBytes .uuid u.write = .ok u.bytes := by
  rw [textBytes, Uuid.ofText?_write]
  rfl

/-- **A value and its text are sent as the same bytes, or neither is sent**, whatever the type is;
integers as floating-point numbers are left out. -/
theorem bind_eq_ok_iff_bind_display {v : Value} {cs : List Char} (hv : v.display? = some cs)
    (hfloat : v.asInt64?.isSome = true → t ≠ .float4 ∧ t ≠ .float8)
    (raw : Option (List UInt8)) :
    v.bind t = .ok raw ↔ (Value.text (String.ofList cs)).bind t = .ok raw := by
  have htext : (Value.text (String.ofList cs)).bind t =
      if !t.bindable then .error (.unreadable .parameterType) else some <$> textBytes t cs := by
    rw [Value.bind, String.toList_ofList]
  suffices v.bind t =
      if !t.bindable then .error (.unreadable .parameterType) else some <$> textBytes t cs by
    rw [this, htext]
  cases v with
  | bool b =>
      have hcs : cs = if b then "true".toList else "false".toList := by
        cases b <;> exact (Option.some.inj hv).symm
      rw [Value.bind, hcs]
      split
      · rfl
      · split
        · rename_i hbool
          rw [hbool, boolByte_eq_textBytes]
        · rfl
  | int32 n =>
      obtain rfl := Option.some.inj hv
      have hlow := n.le_toInt
      have hhigh := n.toInt_lt
      rw [Value.bind, integerValueBytes_eq_textBytes ⟨by omega, by omega⟩ (hfloat rfl)]
  | int64 n =>
      obtain rfl := Option.some.inj hv
      have hlow := n.le_toInt
      have hhigh := n.toInt_lt
      rw [Value.bind, integerValueBytes_eq_textBytes ⟨by omega, by omega⟩ (hfloat rfl)]
  | uuid u =>
      obtain rfl := Option.some.inj hv
      rw [Value.bind]
      split
      · rfl
      · split
        · rename_i huuid
          rw [huuid, uuidBytes_eq_textBytes]
        · rfl
  | _ => cases hv

/-- Seven is sent as the same two bytes, as an integer and as a text. -/
theorem bind_eq_ok_iff_bind_display_seven :
    (Value.int32 7).bind .int2 = .ok (some [0, 7]) ∧
      (Value.text "7").bind .int2 = .ok (some [0, 7]) := by
  have hsent : (Value.int32 7).bind .int2 = .ok (some [0, 7]) := by decide
  have hdigits : integer 7 = ['7'] := by simp [integer, digits, digitChar]
  have hdisplay : (Value.int32 7).display? = some ['7'] := congrArg some hdigits
  exact ⟨hsent, (bind_eq_ok_iff_bind_display hdisplay (fun _ => by decide) _).mp hsent⟩

end Wire

end BoundSql
