/-!
# Types on the wire

The types that parameters and columns have in the protocol.  Those that this library converts have
names of their own here; all others are known by name only.
-/

namespace SqlWeave.Postgres

/-- The type of a parameter or a column. -/
inductive WireType where
  | bool | bytea
  | int2 | int4 | int8 | oid
  | float4 | float8
  | text | varchar | bpchar | name | unknown
  | json | jsonb
  | uuid
  | timestamptz | timestamp | date
  | other (name : String)
  deriving DecidableEq

namespace WireType

/-- The types with names of their own. -/
def known : List (String × WireType) :=
  [("bool", .bool), ("bytea", .bytea), ("int2", .int2), ("int4", .int4), ("int8", .int8),
    ("oid", .oid), ("float4", .float4), ("float8", .float8), ("text", .text),
    ("varchar", .varchar), ("bpchar", .bpchar), ("name", .name), ("unknown", .unknown),
    ("json", .json), ("jsonb", .jsonb), ("uuid", .uuid), ("timestamptz", .timestamptz),
    ("timestamp", .timestamp), ("date", .date)]

/-- The type with a given name in the database. -/
def ofName (name : String) : WireType := (known.lookup name).getD (.other name)

def label : WireType → String
  | .bool => "bool"
  | .bytea => "bytea"
  | .int2 => "int2"
  | .int4 => "int4"
  | .int8 => "int8"
  | .oid => "oid"
  | .float4 => "float4"
  | .float8 => "float8"
  | .text => "text"
  | .varchar => "varchar"
  | .bpchar => "bpchar"
  | .name => "name"
  | .unknown => "unknown"
  | .json => "json"
  | .jsonb => "jsonb"
  | .uuid => "uuid"
  | .timestamptz => "timestamptz"
  | .timestamp => "timestamp"
  | .date => "date"
  | .other label => label

def isText : WireType → Bool
  | .text | .varchar | .bpchar | .name | .unknown => true
  | _ => false

end WireType

end SqlWeave.Postgres
