import SqlWeave.Postgres.Error
import SqlWeave.Postgres.Param
import SqlWeave.Row

/-!
# Columns on the wire

The fields of result rows, read by the types of their columns.
-/

namespace SqlWeave.Postgres

/-- A column of a result. -/
structure Column where
  name : String
  type : WireType

/-- Bytes of a given width. -/
def ofWidth (width : Nat) (content : List UInt8) : Option (List UInt8) :=
  if content.length = width then some content else none

/-- Read a truth value: every byte but zero is true. -/
def readBool (content : List UInt8) : Option Value := do
  return .bool ((← ofWidth 1 content) != [0])

def readInt (width : Nat) (content : List UInt8) : Option Value := do
  return .ofInt (Bytes.toInt (← ofWidth width content))

def readOid (content : List UInt8) : Option Value := do
  return .ofInt (Bytes.toNat (← ofWidth 4 content))

/-- Read a floating-point number of 32 bits, which is widened. -/
def readFloat4 (content : List UInt8) : Option Value := do
  return .ofBinary32 (.ofWord (Bytes.toNat (← ofWidth 4 content)))

def readFloat8 (content : List UInt8) : Option Value := do
  return .float (.ofWord (Bytes.toNat (← ofWidth 8 content)))

def readText (content : List UInt8) : Option Value := do return .text (← Bytes.toText? content)

def readJson (content : List UInt8) : Option Value := do
  return .json (← Json.parse? (← Bytes.toText? content))

def readJsonb : List UInt8 → Option Value
  | [] => none
  | version :: content => if version = jsonbVersion then readJson content else none

/-- Read a UUID, which becomes a text. -/
def readUuid (content : List UInt8) : Option Value := do
  return .text (← Uuid.ofBytes? content).text

/-- Read a moment, which becomes a text. -/
def readMoment (content : List UInt8) : Option String := do
  Calendar.momentText? (Bytes.toInt (← ofWidth 8 content))

/-- Read a date, which becomes a text. -/
def readDate (content : List UInt8) : Option Value := do
  return .text (Calendar.dateText (← Date.ofDayNumber? (Bytes.toInt (← ofWidth 4 content))))

/-- How the fields of a column are read, if the column's type is converted at all. -/
def reader? : WireType → Option (List UInt8 → Option Value)
  | .bool => some readBool
  | .int2 => some (readInt 2)
  | .int4 => some (readInt 4)
  | .int8 => some (readInt 8)
  | .oid => some readOid
  | .float4 => some readFloat4
  | .float8 => some readFloat8
  | .text | .varchar | .bpchar | .name => some readText
  | .bytea => some fun content => some (.bytes content)
  | .json => some readJson
  | .jsonb => some readJsonb
  | .uuid => some readUuid
  | .timestamptz => some fun content => (readMoment content).map fun s => .text (s ++ "+00:00")
  | .timestamp => some fun content => (readMoment content).map .text
  | .date => some readDate
  | .unknown | .other _ => none

/-- The value of a field.  A type that is not converted is refused even for null. -/
def Column.read (c : Column) (field : Field) : Except Error Value :=
  match reader? c.type, field with
  | none, _ => .error (.unsupportedType c.name c.type)
  | some _, none => .ok .null
  | some reader, some content =>
    match reader content with
    | some v => .ok v
    | none => .error .delegate

/-- The fields of a row under the names of their columns, up to the first that fails. -/
def readFields (columns : List Column) (fields : List Field) :
    Except Error (List (String × Value)) :=
  (columns.zip fields).mapM fun (column, field) => do return (column.name, ← column.read field)

/-- A result row.  Of several columns with one name the last counts, in the place of the first. -/
def readRow (columns : List Column) (fields : List Field) : Except Error Row := do
  return .ofList (← readFields columns fields)

end SqlWeave.Postgres
