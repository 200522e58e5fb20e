import SqlWeave.Dialect
import SqlWeave.Sql.OfQuery

/-!
# The text of statements

Pieces are written one after the other.  A placeholder is written at the moment its parameter is
added, so placeholders and parameters always agree.  Writing stops at the first piece that fails,
and what was written before stays.  A compiled query keeps its tree and its identity.
-/

namespace SqlWeave

structure Sql where
  text : String
  params : List Value

namespace Sql

def empty : Sql := ⟨"", []⟩

def append (sql : Sql) (s : String) : Sql := { sql with text := sql.text ++ s }

def bind (d : Dialect) (sql : Sql) (v : Value) : Sql :=
  ⟨sql.text ++ d.placeholder (sql.params.length + 1), sql.params ++ [v]⟩

def write (d : Dialect) (sql : Sql) : Piece → Except QueryError Sql
  | .text s => .ok (sql.append s)
  | .name s => .ok (sql.append (d.quoted s))
  | .param v => .ok (sql.bind d v)
  | .defaultMarker => .ok (sql.append d.defaultMarker)
  | .ignoreKeyword => .ok (sql.append d.ignoreKeyword)
  | .explainFormat format => .ok (sql.append (d.explainFormat format))
  | .require c => if d.supports c then .ok sql else .error (.unsupported d.name c)
  | .refuse fault => .error (.shape fault)

/-- Write pieces up to the first that fails: what was written, and the failure. -/
def writeAll (d : Dialect) (sql : Sql) : List Piece → Sql × Option QueryError
  | [] => (sql, none)
  | piece :: rest =>
    match sql.write d piece with
    | .ok sql => writeAll d sql rest
    | .error e => (sql, some e)

/-- The SQL of a list of pieces, if none of them fails. -/
def ofPieces (d : Dialect) (pieces : List Piece) : Except QueryError Sql :=
  match writeAll d empty pieces with
  | (sql, none) => .ok sql
  | (_, some e) => .error e

end Sql

def Expr.toSql (d : Dialect) (e : Expr) : Except QueryError Sql := Sql.ofPieces d e.pieces

namespace Query

def toSql (d : Dialect) (q : Query) : Except QueryError Sql := Sql.ofPieces d q.pieces

def compile (d : Dialect) (q : Query) : Except QueryError Sql := Sql.ofPieces d q.rootPieces

end Query

/-! ## Compiled queries -/

/-- The identity of a query.  All builders that descend from one start share it.  The label is how
messages name the query. -/
structure QueryId where
  serial : Nat
  label : String
  deriving DecidableEq

/-- A query ready to be sent: its SQL, the tree it was written from, and its identity. -/
structure Compiled where
  sql : Sql
  query : Query
  id : QueryId

/-- Compile a query under its identity. -/
def Query.compileAs (d : Dialect) (id : QueryId) (q : Query) : Except QueryError Compiled :=
  (q.compile d).map fun sql => ⟨sql, q, id⟩

end SqlWeave
