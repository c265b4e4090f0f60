import BoundSql.Record
import BoundSql.Wire.Parameter

/-!
# Columns of a row

A column is read by its type.  The bytes must be exactly those of one value of the type.

* **`ColumnFault`** — why bytes are not a value of a type.
* **`readColumn?`** — a value from its bytes, `none` for a type without a counterpart.
* **`rowOfColumns`** — the columns of a row, of which the first that cannot be read decides.
-/

namespace BoundSql.Wire

open BoundSql.Text Floating

/-- **Why bytes are not a value of a type.** -/
inductive ColumnFault where
  | wrongLength
  | tooShort
  | timestampNotDrained
  | dateNotDrained
  | uuidLength
  | documentVersion
  | outOfRange
  | truncatedNumeric
  | utf8 (fault : Utf8Fault)
  | notDocument
  deriving DecidableEq, Repr

/-- A fault as the source of a failure. -/
def ColumnFault.source : ColumnFault → Source
  | .wrongLength => .message "invalid buffer size"
  | .tooShort => .message "failed to fill whole buffer"
  | .timestampNotDrained => .message "invalid message length: timestamp not drained"
  | .dateNotDrained => .message "invalid message length: date not drained"
  | .uuidLength => .message "invalid message length: uuid size mismatch"
  | .documentVersion => .message "unsupported JSONB encoding version"
  | .outOfRange => .message "value too large to decode"
  | .truncatedNumeric => .message "truncated numeric value"
  | .utf8 fault => .message fault.message
  | .notDocument => .unreadable .document

/-- Bytes of a fixed width; what is wrong with more of them is given. -/
def exactly (width : Nat) (leftOver : ColumnFault) (bytes : List UInt8) :
    Except ColumnFault (List UInt8) :=
  if bytes.length < width then .error .tooShort
  else if width < bytes.length then .error leftOver
  else .ok bytes

/-- A text. -/
def readText (bytes : List UInt8) : Except ColumnFault String :=
  match decodeUtf8 bytes with
  | .ok cs => .ok (String.ofList cs)
  | .error fault => .error (.utf8 fault)

/-- A document.  Bytes that are no text are no document either. -/
def readDocument (bytes : List UInt8) : Except ColumnFault Json :=
  match decodeUtf8 bytes with
  | .error _ => .error .notDocument
  | .ok cs =>
    match Json.ofText? (String.ofList cs) with
    | some j => .ok j
    | none => .error .notDocument

/-- A point in time on a supported day, from its microseconds. -/
def readTimestamp (bytes : List UInt8) : Except ColumnFault Timestamp := do
  let micros := signed (← exactly 8 .timestampNotDrained bytes)
  let t : Timestamp := ⟨epoch.days * Timestamp.daySeconds + micros / 1000000,
    (micros % 1000000).toNat * 1000⟩
  if t.inRange then return t else throw .outOfRange

/-- A supported day. -/
def readDate (bytes : List UInt8) : Except ColumnFault Date := do
  let d : Date := ⟨epoch.days + signed (← exactly 4 .dateNotDrained bytes)⟩
  if d.inRange then return d else throw .outOfRange

/-- **A value from its bytes**, `none` for a type without a counterpart. -/
def readColumn? (t : DataType) (bytes : List UInt8) : Option (Except ColumnFault Value) :=
  match t with
  | .bool => some <|
    match bytes with
    | [b] => .ok (.bool (b != 0))
    | _ => .error .wrongLength
  | .int2 => some do return .int32 (Int32.ofInt (signed (← exactly 2 .wrongLength bytes)))
  | .int4 => some do return .int32 (Int32.ofInt (signed (← exactly 4 .wrongLength bytes)))
  | .int8 => some do return .int64 (Int64.ofInt (signed (← exactly 8 .wrongLength bytes)))
  | .oid => some do return .int64 (Int64.ofInt (unsigned (← exactly 4 .wrongLength bytes)))
  | .float4 => some do
    let x : Binary32 := ⟨(unsigned (← exactly 4 .wrongLength bytes)).toUInt32⟩
    return .real x.widen
  | .float8 => some do return .real ⟨(unsigned (← exactly 8 .wrongLength bytes)).toUInt64⟩
  | .numeric => some <|
    match Numeric.decode bytes with
    | some cs => .ok (.text (String.ofList cs))
    | none => .error .truncatedNumeric
  | .text | .varchar | .bpchar | .name | .unknown => some <| .text <$> readText bytes
  | .bytea => some <| .ok (.bytes bytes)
  | .uuid => some <|
    match Uuid.ofBytes? bytes with
    | some u => .ok (.uuid u)
    | none => .error .uuidLength
  | .json => some <| .json <$> readDocument bytes
  | .jsonb => some <|
    match bytes with
    | [] => .error .tooShort
    | version :: rest =>
      if version = 1 then .json <$> readDocument rest else .error .documentVersion
  | .timestamp | .timestamptz => some <| .timestamp <$> readTimestamp bytes
  | .date => some <| .date <$> readDate bytes
  | .other _ => none

/-- **A column of a result**: its name and its type. -/
structure Column where
  name : String
  type : DataType
  deriving DecidableEq, Repr

/-- The value of the column at an index.  A type without a counterpart is refused for the missing
value, too. -/
def columnValue (index : Nat) (column : Column) (raw : Option (List UInt8)) :
    Except Failure Value :=
  match readColumn? column.type (raw.getD []) with
  | none => .error (.unsupportedType column.type.catalogName ("column \"" ++ column.name ++ "\""))
  | some read =>
    if raw.isNone then .ok .null
    else read.mapError fun fault =>
      .driver (.ofMessages ("error deserializing column " ++ String.ofList (Decimal.digits index))
        [fault.source])

/-- Puts the columns from an index on into a row. -/
def insertColumns (index : Nat) (row : Row) :
    List (Column × Option (List UInt8)) → Except Failure Row
  | [] => .ok row
  | (column, raw) :: rest =>
    match columnValue index column raw with
    | .error failure => .error failure
    | .ok v => insertColumns (index + 1) (row.insert column.name v) rest

/-- **The columns of a row.**  Of columns of one name the last one counts, at the place of the
first. -/
def rowOfColumns (columns : List (Column × Option (List UInt8))) : Except Failure Row :=
  insertColumns 0 .empty columns

end BoundSql.Wire
