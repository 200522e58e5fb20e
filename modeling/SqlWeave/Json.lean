import SqlWeave.Number.Binary
import SqlWeave.OrderedMap

/-!
# JSON values

An object keeps its fields in the order in which they were first set, and two objects are the same
when they have the same fields in any order.
-/

namespace SqlWeave

/-- A JSON value.  Whole numbers are exact; all other numbers are 64-bit floating point. -/
inductive Json where
  | null
  | bool (b : Bool)
  | int (i : Int)
  | float (x : Number.Binary64)
  | string (s : String)
  | array (items : List Json)
  | object (fields : List (String × Json))

namespace Json

/-- The object with the given fields; of several fields of one name the last counts, in the place
of the first. -/
def ofFields (fields : List (String × Json)) : Json :=
  .object (OrderedMap.ofList fields).entries

/-- A floating-point number, or null where JSON has no number for it. -/
def ofBinary64 (x : Number.Binary64) : Json :=
  if x.isFinite then .float x else .null

mutual

/-- Sameness of values: numbers compare as numbers of their kind, objects as maps. -/
def same : Json → Json → Bool
  | .null, .null => true
  | .bool a, .bool b => a == b
  | .int a, .int b => a == b
  | .float a, .float b => a.same b
  | .string a, .string b => a == b
  | .array as, .array bs => sameItems as bs
  | .object as, .object bs => as.length == bs.length && sameFields as bs
  | _, _ => false

def sameItems : List Json → List Json → Bool
  | [], [] => true
  | a :: as, b :: bs => same a b && sameItems as bs
  | _, _ => false

/-- Whether every field of the first list is in the second, with the same value. -/
def sameFields : List (String × Json) → List (String × Json) → Bool
  | [], _ => true
  | (name, a) :: as, bs =>
    (match bs.lookup name with
      | some b => same a b
      | none => false) && sameFields as bs

end

end Json

end SqlWeave
