import SqlWeave.Json

/-!
# Bound values

The literal values of a query.  A value never becomes part of the text of a statement: it travels
beside it as a parameter, and each database maps it to its own types.
-/

namespace SqlWeave

inductive Value where
  | null
  | bool (b : Bool)
  | int (i : Int64)
  | float (x : Number.Binary64)
  | text (s : String)
  | bytes (content : List UInt8)
  | json (j : Json)

namespace Value

def isNull : Value → Bool
  | .null => true
  | _ => false

def int? : Value → Option Int64
  | .int i => some i
  | _ => none

/-- The number that the value is; an integer counts as the nearest floating-point number. -/
def float? : Value → Option Number.Binary64
  | .float x => some x
  | .int i => some (.ofInt i.toInt)
  | _ => none

def text? : Value → Option String
  | .text s => some s
  | _ => none

def bool? : Value → Option Bool
  | .bool b => some b
  | _ => none

/-- The value as JSON.  Bytes become an array of numbers, and a floating-point number that JSON
cannot write becomes null. -/
def toJson : Value → Json
  | .null => .null
  | .bool b => .bool b
  | .int i => .int i.toInt
  | .float x => .ofBinary64 x
  | .text s => .string s
  | .bytes content => .array (content.map fun byte => .int byte.toNat)
  | .json j => j

/-- A whole number of any width up to 64 bits. -/
def ofInt (i : Int) : Value := .int (Int64.ofInt i)

/-- A number of the 32-bit format, which is widened. -/
def ofBinary32 (x : Number.Binary32) : Value := .float (.ofBinary32 x)

/-- A value that may be absent. -/
def ofOption {α : Type} (ofSome : α → Value) : Option α → Value
  | some a => ofSome a
  | none => .null

/-- Sameness of values: floating-point numbers compare as numbers, JSON objects as maps. -/
def same : Value → Value → Bool
  | .null, .null => true
  | .bool a, .bool b => a == b
  | .int a, .int b => a == b
  | .float a, .float b => a.same b
  | .text a, .text b => a == b
  | .bytes a, .bytes b => a == b
  | .json a, .json b => a.same b
  | _, _ => false

end Value

end SqlWeave
