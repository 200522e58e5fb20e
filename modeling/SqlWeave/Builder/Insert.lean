import SqlWeave.Builder.Conflict

/-!
# Building inserts
-/

namespace SqlWeave

inductive InsertEdit where
  /-- Rows to insert. -/
  | values (rows : InsertRows)
  /-- Fix the columns. -/
  | columns (names : List String)
  /-- An expression that yields the rows. -/
  | expression (e : Expr)
  | defaultValues
  | ignore
  | replace
  | onConflict (edits : List ConflictEdit) (choice : ConflictChoice)
  | onDuplicateKeyUpdate (updates : Assignments)
  | returning (call : Selecting)
  | explain (request : Explain)

namespace Insert

/-- The columns that rows have to keep to: those that were fixed before there was any source. -/
def fixedColumns (i : Insert) : Option (List String) :=
  match i.source with
  | none => i.columns
  | some _ => none

/-- The insert after a call.  A source, a conflict clause and a list of updates for duplicates
replace the one before them. -/
def edit (i : Insert) : InsertEdit → Except QueryError Insert
  | .values rows => do
    let (columns, source) ← rows.toSource i.fixedColumns
    return { i with columns := some columns, source := some source }
  | .columns names =>
    match i.source with
    | some (.rows _) => throw (.shape .columnsAfterValues)
    | _ => return { i with columns := some (names.map Shorthand.columnName) }
  | .expression e => return { i with source := some (.expr e) }
  | .defaultValues => return { i with columns := some [], source := some .defaults }
  | .ignore => return { i with ignore := true }
  | .replace => return { i with replace := true }
  | .onConflict edits choice => do
    let conflict ← Conflict.ofCalls edits choice
    return { i with onConflict := some conflict }
  | .onDuplicateKeyUpdate updates => do
    let updates ← updates.updates
    return { i with onDuplicateKey := some updates }
  | .returning call => return { i with returning := extendReturning i.returning call }
  | .explain request => return { i with explain := some request }

/-- The insert after a run of calls, of which those that fail change nothing. -/
def run (i : Insert) (edits : List InsertEdit) : Insert :=
  edits.foldl (fun i e => (i.edit e).toOption.getD i) i

end Insert

end SqlWeave
