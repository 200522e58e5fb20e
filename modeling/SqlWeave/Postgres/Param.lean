import SqlWeave.Bytes
import SqlWeave.Calendar.Text
import SqlWeave.Json.Parser
import SqlWeave.Json.Printer
import SqlWeave.Postgres.WireType
import SqlWeave.Uuid
import SqlWeave.Value

/-!
# Parameters on the wire

The server says which type each parameter of a statement has, and the value is converted to that
type.  A value never changes on the way: it is converted exactly, or it is refused.
-/

namespace SqlWeave.Postgres

/-- A value on the wire; nothing stands for null. -/
abbrev Field := Option (List UInt8)

/-- Why a value is refused for a parameter. -/
inductive BindFault where
  /-- The type does not take values of this kind. -/
  | wrongType
  /-- The integer does not fit into the type. -/
  | outOfRange
  /-- The text is no UUID. -/
  | malformedUuid
  /-- The text is no date or no moment. -/
  | malformedDate
  /-- The text is no JSON. -/
  | malformedJson
  deriving DecidableEq

/-- What there is, or the fault of its absence. -/
def orFault {α : Type} (fault : BindFault) : Option α → Except BindFault α
  | some a => .ok a
  | none => .error fault

def intBytes (width : Nat) (i : Int) : Except BindFault (List UInt8) :=
  if Bytes.fits width i then .ok (Bytes.ofInt width i) else .error .outOfRange

def float8Bytes (x : Number.Binary64) : List UInt8 := Bytes.ofNat 8 x.bits.toNat

def float4Bytes (x : Number.Binary32) : List UInt8 := Bytes.ofNat 4 x.bits.toNat

def intText (i : Int) : String := String.ofList (Json.intText i)

/-- An integer for a parameter.  Texts take its decimal form. -/
def bindInt (i : Int) : WireType → Except BindFault (List UInt8)
  | .int2 => intBytes 2 i
  | .int4 => intBytes 4 i
  | .int8 => intBytes 8 i
  | .float4 => .ok (float4Bytes (.ofInt i))
  | .float8 => .ok (float8Bytes (.ofInt i))
  | .text | .varchar => .ok (Bytes.ofText (intText i))
  | _ => .error .wrongType

def bindFloat (x : Number.Binary64) : WireType → Except BindFault (List UInt8)
  | .float4 => .ok (float4Bytes (.ofBinary64 x))
  | .float8 => .ok (float8Bytes x)
  | _ => .error .wrongType

/-- The version byte before binary JSON. -/
def jsonbVersion : UInt8 := 1

def bindJson (j : Json) : WireType → Except BindFault (List UInt8)
  | .json => .ok (Bytes.ofText j.text)
  | .jsonb => .ok (jsonbVersion :: Bytes.ofText j.text)
  | _ => .error .wrongType

/-- A text for a parameter.  Types with a form in text are read from it. -/
def bindText (s : String) (type : WireType) : Except BindFault (List UInt8) :=
  match type with
  | .uuid => do return (← orFault .malformedUuid (Uuid.parse? s)).bytes
  | .timestamptz => do
    return Bytes.ofInt 8 (← orFault .malformedDate (Calendar.universalMoment? s))
  | .timestamp => do return Bytes.ofInt 8 (← orFault .malformedDate (Calendar.moment? s))
  | .date => do return Bytes.ofInt 4 (← orFault .malformedDate (Calendar.date? s)).dayNumber
  | .json | .jsonb => do bindJson (← orFault .malformedJson (Json.parse? s)) type
  | _ => if type.isText then .ok (Bytes.ofText s) else .error .wrongType

/-- A value for a parameter of a type.  Null is null for every type. -/
def bind (v : Value) (type : WireType) : Except BindFault Field :=
  match v with
  | .null => .ok none
  | .bool b => if type = .bool then .ok (some [if b then 1 else 0]) else .error .wrongType
  | .int i => some <$> bindInt i.toInt type
  | .float x => some <$> bindFloat x type
  | .text s => some <$> bindText s type
  | .bytes content => if type = .bytea then .ok (some content) else .error .wrongType
  | .json j => some <$> bindJson j type

/-- Values for the parameters of a statement.  Their number has to be right. -/
def bindAll : List Value → List WireType → Option (List Field)
  | [], [] => some []
  | v :: vs, type :: types => do
    let field ← (bind v type).toOption
    return field :: (← bindAll vs types)
  | _, _ => none

end SqlWeave.Postgres
