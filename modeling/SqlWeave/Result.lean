import SqlWeave.Query
import SqlWeave.Row

/-!
# Results

What a database reports for one round trip, and what the caller gets from it.  A select gives its
rows.  A statement that changes data gives rows only when it asked for them and the database can
deliver them; otherwise a single summary stands in for them.
-/

namespace SqlWeave

/-- What a database reports for one round trip, or for one chunk of a stream. -/
structure QueryResult where
  rows : List Row
  insertId : Option Int64
  affectedRows : Option Nat

namespace QueryResult

def empty : QueryResult := ⟨[], none, none⟩

def ofRows (rows : List Row) : QueryResult := ⟨rows, none, none⟩

end QueryResult

inductive Output where
  | row (r : Row)
  | summary (insertId : Option Int64) (affectedRows : Nat)

def selectOutputs (result : QueryResult) : List Output := result.rows.map .row

def wantsRows (supportsReturning : Bool) (q : Query) : Bool :=
  q.explain.isSome || q.returning.isSome && supportsReturning

def mutationOutputs (supportsReturning : Bool) (q : Query) (result : QueryResult) : List Output :=
  if wantsRows supportsReturning q then result.rows.map .row
  else [.summary result.insertId (result.affectedRows.getD 0)]

end SqlWeave
