import SqlWeave.Result
import SqlWeave.Rewrite
import SqlWeave.Sql.Text
import SqlWeave.Text.Words

/-!
# Plugins

A plugin rewrites queries before they are compiled and revises results after the database has
answered.  The hooks of several plugins run in the order of the list.  What a hook writes to the
journal of the session is kept apart from what it computes.
-/

namespace SqlWeave

structure Plugin where
  /-- Rewrite a query. -/
  onQuery : Query → Query
  /-- Revise a result, or fail. -/
  onResult : QueryResult → Except QueryError QueryResult
  /-- What is written to the journal about a query that is about to be rewritten. -/
  noteQuery : Query → List String
  /-- What is written to the journal about a result that is about to be revised. -/
  noteResult : QueryResult → List String

namespace Plugin

/-- The plugin that does nothing. -/
def idle : Plugin := ⟨id, .ok, fun _ => [], fun _ => []⟩

/-- The plugin that rewrites the names of queries and leaves results alone. -/
def ofRewrite (r : Rewrite) : Plugin := { idle with onQuery := Query.rewrite r }

/-- The plugin that gives a schema to every table without one that a statement reads or writes.
Tables before a column stay as they are, because they may be aliases. -/
def schema (name : String) : Plugin := ofRewrite (.schema name)

/-- The snake case of identifiers, in lower case or in capitals. -/
def snake (capitals : Bool) (identifier : String) : String :=
  if capitals then Text.shoutingCase identifier else Text.snakeCase identifier

def camelColumns (result : QueryResult) : QueryResult :=
  { result with rows := result.rows.map fun row => row.mapColumns Text.camelCase }

/-- The plugin that lets callers write camel case against a schema in snake case. -/
def camelCase (capitals : Bool) : Plugin :=
  { ofRewrite (.names (snake capitals)) with onResult := fun result => .ok (camelColumns result) }

/-- The plugin that writes to the journal what passes by: the kind of each query and the number of
rows of each result, under a name. -/
def journal (name : String) : Plugin :=
  { idle with
    noteQuery := fun q => [name ++ ":query:" ++ q.construct.describe]
    noteResult := fun result => [name ++ ":result:" ++ toString result.rows.length] }

/-! ## Hooks in order -/

/-- Run the query hooks: what they write to the journal, and the rewritten query. -/
def rewriteQuery : List Plugin → Query → List String × Query
  | [], q => ([], q)
  | p :: rest, q =>
    let (notes, q') := rewriteQuery rest (p.onQuery q)
    (p.noteQuery q ++ notes, q')

def resultContext (id : QueryId) : String := "Result plugin failed for query " ++ id.label

/-- Run the result hooks up to the first that fails: what they write to the journal, and the revised
result or the failure. -/
def reviseResult (id : QueryId) :
    List Plugin → QueryResult → List String × Except QueryError QueryResult
  | [], result => ([], .ok result)
  | p :: rest, result =>
    match inContext (resultContext id) (p.onResult result) with
    | .ok result' =>
      let (notes, out) := reviseResult id rest result'
      (p.noteResult result ++ notes, out)
    | .error e => (p.noteResult result, .error e)

end Plugin

end SqlWeave
