import SqlWeave.Value

/-!
# Result rows

A row maps column names to values, in the order in which the database reports the columns.
-/

namespace SqlWeave

/-- A result row. -/
abbrev Row := OrderedMap Value

namespace Row

/-- Rename every column.  Columns that get the same name fall together: the place of the first, and
the value of the last. -/
def mapColumns (row : Row) (rename : String → String) : Row :=
  .ofList (row.entries.map fun (column, value) => (rename column, value))

def toJson (row : Row) : Json :=
  .ofFields (row.entries.map fun (column, value) => (column, value.toJson))

/-- The field of a row that holds a column's value; a column that is missing differs from one that
is null. -/
def field? (row : Row) (column : String) : Option Json :=
  (row.get? column).map Value.toJson

/-- Read a column that holds a 64-bit integer. -/
def readInt? (row : Row) (column : String) : Option Int64 :=
  match row.field? column with
  | some (.int i) =>
    if Int64.minValue.toInt ≤ i ∧ i ≤ Int64.maxValue.toInt then some (.ofInt i) else none
  | _ => none

/-- Read a column that holds a text. -/
def readText? (row : Row) (column : String) : Option String :=
  match row.field? column with
  | some (.string s) => some s
  | _ => none

/-- Read a column that may be missing or null, and otherwise holds a text. -/
def readOptionalText? (row : Row) (column : String) : Option (Option String) :=
  match row.field? column with
  | none | some .null => some none
  | some (.string s) => some (some s)
  | _ => none

end Row

end SqlWeave
