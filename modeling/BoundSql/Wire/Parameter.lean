import BoundSql.Calendar.Reader
import BoundSql.Decimal.Reader
import BoundSql.Floating.Reader
import BoundSql.Text.Utf8
import BoundSql.Value
import BoundSql.Wire.DataType
import BoundSql.Wire.Numeric

/-!
# Values as parameters

A value is sent as the bytes of the type that the server found for its placeholder.  A value of
another kind is sent as its text would be: the text is read as that type.  Bytes are sent as they
are, whatever the type.

* **`BindFault`** — why a value is not sent.
* **`textBytes`** — a text as a value of a type.
* **`Value.bind`** — a value as a value of a type.
* **`bindAll`** — the parameters of a statement, of which the first that is not sent decides.
-/

namespace BoundSql.Wire

open BoundSql.Text Decimal Floating

/-- **Why a value is not sent.** -/
inductive BindFault where
  | integer (fault : IntegerFault)
  | literal (fault : LiteralFault)
  | notBoolean
  | numeric (fault : Numeric.Fault)
  | unreadable (form : Form)
  deriving DecidableEq, Repr

/-- A fault as the source of a failure. -/
def BindFault.source : BindFault → Source
  | .integer fault => .message fault.message
  | .literal fault => .message fault.message
  | .notBoolean => .message "provided string was not `true` or `false`"
  | .numeric fault => .message fault.message
  | .unreadable form => .unreadable form

/-- The day from which the server counts, the first of the year 2000. -/
def epoch : Date := ⟨10957⟩

/-- A day, as the server counts it. -/
def dateBytes (d : Date) : List UInt8 := signedBytesOf 4 (d.days - epoch.days)

/-- A point in time in microseconds, as the server counts them; what is left of a microsecond is
dropped, towards that day. -/
def timestampBytes (t : Timestamp) : List UInt8 :=
  let seconds := t.seconds - epoch.days * Timestamp.daySeconds
  signedBytesOf 8 (Int.tdiv (seconds * Timestamp.secondNanos + t.nanos) 1000)

/-- A document as text; the binary form has a version in front. -/
def documentBytes (t : DataType) (j : Json) : List UInt8 :=
  let bytes := encodeUtf8 j.write
  if t = .jsonb then 1 :: bytes else bytes

/-- A truth value. -/
def boolByte (b : Bool) : List UInt8 := [if b then 1 else 0]

/-- Reads an integer of a width. -/
def integerBytes (width : Nat) (cs : List Char) : Except BindFault (List UInt8) :=
  let half : Nat := 128 * capacity (width - 1)
  match readInteger (-half) (half - 1) cs with
  | .ok n => .ok (signedBytesOf width n)
  | .error fault => .error (.integer fault)

/-- What an optional reading of a form gives. -/
def orUnreadable {α : Type} (form : Form) (read : Option α) (write : α → List UInt8) :
    Except BindFault (List UInt8) :=
  match read with
  | some a => .ok (write a)
  | none => .error (.unreadable form)

/-- **A text as a value of a type.** -/
def textBytes (t : DataType) (cs : List Char) : Except BindFault (List UInt8) :=
  match t with
  | .text | .varchar | .bpchar | .name | .unknown | .bytea => .ok (encodeUtf8 cs)
  | .bool =>
    if cs = ['t', 'r', 'u', 'e'] then .ok (boolByte true)
    else if cs = ['f', 'a', 'l', 's', 'e'] then .ok (boolByte false)
    else .error .notBoolean
  | .int2 => integerBytes 2 cs
  | .int4 => integerBytes 4 cs
  | .int8 => integerBytes 8 cs
  | .float4 =>
    match Binary32.ofText? cs with
    | .ok x => .ok (bytesOf 4 x.bits.toNat)
    | .error fault => .error (.literal fault)
  | .float8 =>
    match Binary64.ofText? cs with
    | .ok x => .ok (bytesOf 8 x.bits.toNat)
    | .error fault => .error (.literal fault)
  | .numeric => (Numeric.encode cs).mapError .numeric
  | .uuid => orUnreadable .uuid (Uuid.ofText? cs) Uuid.bytes
  | .json | .jsonb => orUnreadable .document (Json.ofText? (String.ofList cs)) (documentBytes t)
  | .timestamp => orUnreadable .moment (Timestamp.ofLocalText? cs) timestampBytes
  | .timestamptz => orUnreadable .moment (Timestamp.ofText? cs) timestampBytes
  | .date => orUnreadable .moment (Date.ofText? cs) dateBytes
  | .oid | .other _ => .error (.unreadable .parameterType)

/-- An integer of a width, if it lies in its range. -/
def narrowed (width : Nat) (n : Int) : Except BindFault (List UInt8) :=
  let half : Nat := 128 * capacity (width - 1)
  if n < -(half : Int) then .error (.integer .tooSmall)
  else if (half : Int) - 1 < n then .error (.integer .tooLarge)
  else .ok (signedBytesOf width n)

/-- **An integer as a value of a type.** -/
def integerValueBytes (t : DataType) (n : Int) : Except BindFault (List UInt8) :=
  match t with
  | .int2 => narrowed 2 n
  | .int4 => narrowed 4 n
  | .int8 => .ok (signedBytesOf 8 n)
  | .float4 => .ok (bytesOf 4 (Binary32.ofInt n).bits.toNat)
  | .float8 => .ok (bytesOf 8 (Binary64.ofInt n).bits.toNat)
  | t => textBytes t (integer n)

/-- A floating-point number as a value of a type. -/
def realBytes (t : DataType) (x : Binary64) : Except BindFault (List UInt8) :=
  match t with
  | .float8 => .ok (bytesOf 8 x.bits.toNat)
  | .float4 => .ok (bytesOf 4 x.narrow.bits.toNat)
  | t => textBytes t (Layout.plain.write x)

end BoundSql.Wire

namespace BoundSql.Value

open Wire

/-- **A value as a value of a type**; `none` is the missing value. -/
def bind (t : DataType) (v : Value) : Except BindFault (Option (List UInt8)) :=
  if !t.bindable then .error (.unreadable .parameterType)
  else
    match v with
    | .null => .ok none
    | .bool b =>
      some <$> if t = .bool then .ok (boolByte b)
        else textBytes t (if b then "true".toList else "false".toList)
    | .int32 n => some <$> integerValueBytes t n.toInt
    | .int64 n => some <$> integerValueBytes t n.toInt
    | .real x => some <$> realBytes t x
    | .text s => some <$> textBytes t s.toList
    | .bytes bs => .ok (some bs)
    | .uuid u => some <$> if t = .uuid then .ok u.bytes else textBytes t u.write
    | .json j =>
      some <$> if t = .json ∨ t = .jsonb then .ok (documentBytes t j) else textBytes t j.write
    | .timestamp s =>
      some <$> match t with
        | .timestamptz | .timestamp => .ok (timestampBytes s)
        | .date => .ok (dateBytes s.date)
        | t => textBytes t s.write
    | .date d =>
      some <$> match t with
        | .date => .ok (dateBytes d)
        | .timestamptz | .timestamp => .ok (timestampBytes (.ofDate d))
        | t => textBytes t d.write

end BoundSql.Value

namespace BoundSql.Wire

/-- The failure with which the parameter at an index is not sent. -/
def bindFailure (index : Nat) (fault : BindFault) : Foreign :=
  .ofMessages ("error serializing parameter " ++ String.ofList (Decimal.digits index)) [fault.source]

/-- The parameters from an index on. -/
def bindFrom (index : Nat) : List (DataType × Value) →
    Except Foreign (List (Option (List UInt8)))
  | [] => .ok []
  | (t, v) :: rest =>
    match v.bind t with
    | .error fault => .error (bindFailure index fault)
    | .ok bytes => (bindFrom (index + 1) rest).map (bytes :: ·)

/-- **The parameters of a statement.** -/
def bindAll (parameters : List (DataType × Value)) :
    Except Foreign (List (Option (List UInt8))) := bindFrom 0 parameters

end BoundSql.Wire
