/-!
# Constructs

The parts of a statement that some databases have and others lack.
-/

namespace SqlWeave

/-- A construct that a dialect may or may not be able to write. -/
inductive Construct where
  | table | reference | value | raw
  | binaryOperation | unaryOperation | call | aliased | list
  | select | insert | update | delete
  | values | defaultMarker | defaultValues
  | onConflict | onDuplicateKey | insertIgnore | replace
  | returning | explain
  | join | orderBy | limit | offset
  deriving DecidableEq

/-- The construct's name in messages. -/
def Construct.describe : Construct → String
  | .table => "table"
  | .reference => "column reference"
  | .value => "value"
  | .raw => "raw sql"
  | .binaryOperation => "binary operation"
  | .unaryOperation => "unary operation"
  | .call => "function call"
  | .aliased => "alias"
  | .list => "value list"
  | .select => "select"
  | .insert => "insert"
  | .update => "update"
  | .delete => "delete"
  | .values => "values"
  | .defaultMarker => "default insert value"
  | .defaultValues => "default values"
  | .onConflict => "on conflict"
  | .onDuplicateKey => "on duplicate key update"
  | .insertIgnore => "insert ignore"
  | .replace => "replace into"
  | .returning => "returning"
  | .explain => "explain"
  | .join => "join"
  | .orderBy => "order by"
  | .limit => "limit"
  | .offset => "offset"

end SqlWeave
