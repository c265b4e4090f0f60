import BoundSql.Wire.Numeric
import Mathlib.Tactic.Lemma

/-!
# What is written to an output

A number is written behind what an output holds already, a word after the other.

* `Writer.on_bind` — one writer after another.
* **`Payload.on_put`** — writing a payload adds its bytes.
* **`on_encodeTo`** — a text adds the bytes that it adds to an empty output, or nothing at all.
* **`encode_eq`** — these are the bytes of the payload of the literal that is read.
-/

namespace BoundSql.Wire.Numeric

open Text

/-! ## Writers one after another -/

section Writer

variable {α β : Type} {writer : Writer α} {out out' : List UInt8}

/-- **A writer goes on with what the one before it left.** -/
lemma Writer.on_bind {a : α} (h : writer.on out = (.ok a, out')) (next : α → Writer β) :
    (writer >>= next).on out = (next a).on out' := by
  rw [Writer.on] at h
  rw [Writer.on, ExceptT.run_bind, StateT.run_bind, h]
  rfl

end Writer

lemma on_put (bytes out : List UInt8) : (put bytes).on out = (.ok (), out ++ bytes) := rfl

lemma on_put_bind (bytes out : List UInt8) (next : Unit → Writer Unit) :
    (put bytes >>= next).on out = (next ()).on (out ++ bytes) :=
  Writer.on_bind (on_put bytes out) next

lemma on_forM_put (digits : List Int) (out : List UInt8) :
    (forM digits fun d => put (signedBytesOf 2 d)).on out =
      (.ok (), out ++ digits.flatMap (signedBytesOf 2)) := by
  induction digits generalizing out with
  | nil =>
      rw [List.flatMap_nil, List.append_nil]
      rfl
  | cons d rest ih =>
      rw [List.forM_cons, on_put_bind, ih, List.flatMap_cons, List.append_assoc]

/-- **Writing a payload adds its bytes.** -/
theorem Payload.on_put (p : Payload) (out : List UInt8) :
    p.put.on out = (.ok (), out ++ p.bytes) := by
  rw [Payload.put, on_put_bind, on_put_bind, on_put_bind, on_put_bind, on_forM_put, Payload.bytes]
  simp only [List.append_assoc]

/-! ## Texts -/

/-- A text without a payload is not written, whatever is missing. -/
lemma on_encodeTo_eq (cs : List Char) (out : List UInt8) :
    (encodeTo cs).on out =
      match Literal.ofText? (trim cs) with
      | none => (.error (.notDecimal (trim cs)), out)
      | some literal =>
        match literal.payload with
        | .error fault => (.error fault, out)
        | .ok p => (.ok (), out ++ p.bytes) := by
  rw [encodeTo]
  cases hliteral : Literal.ofText? (trim cs) with
  | none => rfl
  | some literal =>
      simp only
      cases hp : literal.payload with
      | error fault => rfl
      | ok p => exact p.on_put out

/-- **The bytes of a text** are those of the payload of the literal that is read. -/
theorem encode_eq (cs : List Char) :
    encode cs =
      match Literal.ofText? (trim cs) with
      | some literal => literal.payload.map Payload.bytes
      | none => .error (.notDecimal (trim cs)) := by
  rw [encode, on_encodeTo_eq]
  cases Literal.ofText? (trim cs) with
  | none => rfl
  | some literal =>
      simp only
      cases literal.payload with
      | error fault => rfl
      | ok p => rfl

/-- **What a text adds to an output is what it adds to an empty one**; if it cannot be sent, the
output stays as it is. -/
theorem on_encodeTo (cs : List Char) (out : List UInt8) :
    (encodeTo cs).on out =
      match encode cs with
      | .error fault => (.error fault, out)
      | .ok bytes => (.ok (), out ++ bytes) := by
  rw [on_encodeTo_eq, encode_eq]
  cases Literal.ofText? (trim cs) with
  | none => rfl
  | some literal =>
      simp only
      cases literal.payload with
      | error fault => rfl
      | ok p => rfl

end BoundSql.Wire.Numeric
