/-!
# Types of the server

Parameters and columns have types, which the server names.  Some of them have a counterpart among the
values of this library.

* **`DataType`** — the type.
* **`DataType.ofName`**, **`DataType.catalogName`** — its name.
* **`DataType.isText`**, **`DataType.bindable`** — the types sent as text, and those a parameter may
  have.
-/

namespace BoundSql.Wire

/-- **A type of the server**; types without a counterpart keep only their name. -/
inductive DataType where
  | bool
  | int2
  | int4
  | int8
  | oid
  | float4
  | float8
  | numeric
  | text
  | varchar
  | bpchar
  | name
  | unknown
  | bytea
  | uuid
  | json
  | jsonb
  | timestamp
  | timestamptz
  | date
  | other (given : String)
  deriving DecidableEq, Repr

namespace DataType

/-- The name of a type in the catalog of the server. -/
def catalogName : DataType → String
  | .bool => "bool"
  | .int2 => "int2"
  | .int4 => "int4"
  | .int8 => "int8"
  | .oid => "oid"
  | .float4 => "float4"
  | .float8 => "float8"
  | .numeric => "numeric"
  | .text => "text"
  | .varchar => "varchar"
  | .bpchar => "bpchar"
  | .name => "name"
  | .unknown => "unknown"
  | .bytea => "bytea"
  | .uuid => "uuid"
  | .json => "json"
  | .jsonb => "jsonb"
  | .timestamp => "timestamp"
  | .timestamptz => "timestamptz"
  | .date => "date"
  | .other given => given

/-- The types with a counterpart among the values. -/
def known : List DataType :=
  [.bool, .int2, .int4, .int8, .oid, .float4, .float8, .numeric, .text, .varchar, .bpchar, .name,
    .unknown, .bytea, .uuid, .json, .jsonb, .timestamp, .timestamptz, .date]

/-- The type of a name. -/
def ofName (s : String) : DataType := (known.find? fun t => t.catalogName == s).getD (.other s)

/-- The types whose values are the bytes of a text. -/
def isText : DataType → Bool
  | .text | .varchar | .bpchar | .name | .unknown => true
  | _ => false

/-- **The types a parameter may have.**  Object identifiers are read from columns only. -/
def bindable : DataType → Bool
  | .oid | .other _ => false
  | _ => true

end DataType

end BoundSql.Wire
