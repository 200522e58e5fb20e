import SqlWeave.Error
import SqlWeave.Shorthand

/-!
# Columns set to values

One row to insert, or one list of updates: columns with their values, in the order in which they
were first set.
-/

namespace SqlWeave

/-- Columns with the values they are set to. -/
abbrev Assignments := OrderedMap Expr

namespace Assignments

/-- Set a column.  Blanks around its name are ignored, and a column that is set again keeps its
place. -/
def set (a : Assignments) (column : String) (value : Expr) : Assignments :=
  a.insert (Text.trim column) value

/-- The assignments that a list of settings makes, in order. -/
def ofSettings (settings : List (String × Expr)) : Assignments :=
  settings.foldl (fun a setting => a.set setting.1 setting.2) .empty

/-- The updates that the assignments stand for; there has to be one at least. -/
def updates (a : Assignments) : Except QueryError (List ColumnUpdate) :=
  if a.isEmpty then .error (.shape .emptyUpdate)
  else .ok (a.entries.map fun (column, value) => ⟨Shorthand.columnName column, value⟩)

end Assignments

/-- The rows of an insert: a single one, or a list. -/
inductive InsertRows where
  | single (row : Assignments)
  | many (rows : List Assignments)

namespace InsertRows

def toList : InsertRows → List Assignments
  | .single row => [row]
  | .many rows => rows

/-- The names of all rows, row by row. -/
def allNames (rows : List Assignments) : List String := rows.flatMap OrderedMap.names

/-- Names without repetition, in the order in which they are first seen. -/
def firstSeen : (seen : List String) → List String → List String
  | _, [] => []
  | seen, name :: rest =>
    if name ∈ seen then firstSeen seen rest else name :: firstSeen (name :: seen) rest

/-- The columns that the rows set between them. -/
def columnsOf (rows : List Assignments) : List String :=
  (firstSeen [] (allNames rows)).map Shorthand.columnName

/-- The cells of a row under the given columns.  A column that the row does not set takes its
default. -/
def cells (columns : List String) (row : Assignments) : List Expr :=
  columns.map fun column => (row.get? column).getD .defaultMarker

/-- The columns and the source of an insert of some rows.  Without fixed columns the columns are
those that the rows set; with fixed ones every row has to keep to them.  When there are no columns
the row of defaults is inserted. -/
def toSource (values : InsertRows) (fixed : Option (List String)) :
    Except QueryError (List String × InsertSource) := do
  let rows := values.toList
  if rows.isEmpty then throw (.shape .noRows)
  let columns ←
    match fixed with
    | some columns =>
      match (allNames rows).find? (· ∉ columns) with
      | some unknown => throw (.shape (.unknownColumn unknown))
      | none => pure columns
    | none => pure (columnsOf rows)
  if columns.isEmpty then return ([], .defaults)
  else return (columns, .rows (rows.map (cells columns)))

end InsertRows

end SqlWeave
