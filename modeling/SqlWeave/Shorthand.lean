import SqlWeave.Query
import SqlWeave.Text.Blank
import SqlWeave.Text.Cut

/-!
# Shorthands

Texts that stand for tables, columns and selections: `schema.table`, `table.column`, `table.*`,
each with an alias after the keyword `as`.  Blanks around every part are ignored.
-/

namespace SqlWeave

open Text

namespace Shorthand

/-- The table of `name` or `schema.name`, cut at the first point. -/
def tableOfChars (cs : List Char) : Table :=
  match cutFirst '.' (trimChars cs) with
  | some (schema, name) =>
    ⟨some (String.ofList (trimChars schema)), String.ofList (trimChars name)⟩
  | none => ⟨none, String.ofList (trimChars cs)⟩

/-- All columns or a single one. -/
def column (table : Option Table) (name : List Char) : Expr :=
  if name = ['*'] then .star table else .reference table (String.ofList name)

/-- The column of `column`, `table.column` or `schema.table.column`, cut at the last point. -/
def referenceOfChars (cs : List Char) : Expr :=
  match cutLast '.' (trimChars cs) with
  | some (table, name) => column (some (tableOfChars table)) (trimChars name)
  | none => column none (trimChars cs)

/-- The keyword before an alias, with the blanks around it. -/
def aliasKeyword : List Char := [' ', 'a', 's', ' ']

/-- The part before the last keyword, and the alias after it. -/
def splitAlias (cs : List Char) : List Char × Option (List Char) :=
  match cutLastKeyword aliasKeyword (trimChars cs) with
  | some (before, after) => (trimChars before, some (trimChars after))
  | none => (trimChars cs, none)

/-- The table that a text stands for. -/
def table (s : String) : Table := tableOfChars s.toList

/-- The source that a text stands for: a table with or without an alias. -/
def source (s : String) : Source :=
  match splitAlias s.toList with
  | (before, label) => .table (tableOfChars before) (label.map String.ofList)

/-- The column, or the columns, that a text stands for. -/
def reference (s : String) : Expr := referenceOfChars s.toList

/-- The selection that a text stands for: a column with or without an alias. -/
def selection (s : String) : Expr :=
  match splitAlias s.toList with
  | (before, some label) => .aliased (referenceOfChars before) (String.ofList label)
  | (before, none) => referenceOfChars before

def columnName (s : String) : String := trim s

end Shorthand

end SqlWeave
