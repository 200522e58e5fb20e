import SqlWeave.Sql.OfExpr

/-!
# Statements in pieces
-/

namespace SqlWeave

open Piece (separated interleaved parenthesized nameList)

/-- A column list in parentheses, after a blank. -/
def columnList (columns : List String) : List Piece :=
  .text " (" :: nameList columns ++ [.text ")"]

/-- The pieces of one update: the column is never qualified. -/
def ColumnUpdate.pieces (u : ColumnUpdate) : List Piece :=
  .name u.column :: .text " = " :: u.value.pieces

/-- Updates separated by commas. -/
def updateList (updates : List ColumnUpdate) : List Piece :=
  separated ", " (updates.map ColumnUpdate.pieces)

/-- The clause that gives rows back. -/
def returningClause : Option (List Expr) → List Piece
  | some selections =>
    .require .returning :: .text " RETURNING " :: separated ", " (Expr.piecesOfList selections)
  | none => []

/-- The request to explain, up to the statement. -/
def Explain.pieces (x : Explain) : List Piece :=
  .require .explain :: .text "EXPLAIN " ::
    (match x.options with
      | some options => options.pieces ++ [.text " "]
      | none => []) ++
    (match x.format with
      | some format => [.explainFormat format, .text " "]
      | none => [])

namespace ConflictTarget

def pieces : ConflictTarget → List Piece
  | .unspecified => []
  | .columns names => columnList names
  | .constraint name => [.text " ON CONSTRAINT ", .name name]
  | .expr e => .text " (" :: e.pieces ++ [.text ")"]

end ConflictTarget

def ConflictAction.pieces : ConflictAction → List Piece
  | .nothing => [.text " DO NOTHING"]
  | .update updates filter =>
    .text " DO UPDATE SET " :: updateList updates ++ Expr.clause [.text " WHERE "] filter

def Conflict.pieces (c : Conflict) : List Piece :=
  .require .onConflict :: .text " ON CONFLICT" :: c.target.pieces ++
    Expr.clause [.text " WHERE "] c.indexFilter ++ c.action.pieces

def rowsPieces (rows : List (List Expr)) : List Piece :=
  .require .values :: .text "VALUES (" ::
    separated "), (" (rows.map fun row => separated ", " (Expr.piecesOfList row)) ++ [.text ")"]

namespace Insert

/-- The columns that are written: an empty list counts as none. -/
def writtenColumns (i : Insert) : List String := i.columns.getD []

/-- The expression that yields the rows of an insert; a select stands there without parentheses. -/
def sourceExpr : Expr → List Piece
  | .subquery s => s.pieces
  | e => e.pieces

/-- The clause that requests one row of defaults. -/
def defaultsClause : List Piece := [.require .defaultValues, .text " DEFAULT VALUES"]

/-- The pieces of the columns and of the source of rows.  Rows without columns are written as
defaults, and columns without a source are refused. -/
def sourcePieces (i : Insert) : List Piece :=
  match i.source, i.writtenColumns with
  | some (.rows rows), column :: columns =>
    columnList (column :: columns) ++ .text " " :: rowsPieces rows
  | some (.expr e), [] => .text " " :: sourceExpr e
  | some (.expr e), column :: columns =>
    columnList (column :: columns) ++ .text " " :: sourceExpr e
  | none, _ :: _ => [.refuse (.noSource i.into.name)]
  | some (.rows _), [] => defaultsClause
  | some .defaults, _ => defaultsClause
  | none, [] => defaultsClause

def pieces (i : Insert) : List Piece :=
  .require .insert ::
    (if i.replace then [.require .replace, .text "REPLACE"] else [.text "INSERT"]) ++
    (if i.ignore then [.require .insertIgnore, .text " ", .ignoreKeyword] else []) ++
    .text " INTO " :: i.into.pieces ++
    i.sourcePieces ++
    (match i.onConflict with
      | some conflict => conflict.pieces
      | none => []) ++
    (match i.onDuplicateKey with
      | some updates =>
        .require .onDuplicateKey :: .text " ON DUPLICATE KEY UPDATE " :: updateList updates
      | none => []) ++
    returningClause i.returning

end Insert

/-- The pieces of an update, which is refused when it sets nothing. -/
def Update.pieces (u : Update) : List Piece :=
  .require .update ::
    if u.updates.isEmpty then [.refuse (.noUpdates u.table.name)]
    else
      .text "UPDATE " :: u.table.pieces ++ .text " SET " :: updateList u.updates ++
        Expr.clause [.text " WHERE "] u.filter ++ returningClause u.returning

def Delete.pieces (d : Delete) : List Piece :=
  .require .delete :: .text "DELETE FROM " :: d.source.pieces ++
    Expr.clause [.text " WHERE "] d.filter ++ returningClause d.returning

namespace Query

def pieces : Query → List Piece
  | .select s => s.pieces
  | .insert i => i.pieces
  | .update u => u.pieces
  | .delete d => d.pieces

def rootPieces (q : Query) : List Piece :=
  match q.explain with
  | some x => x.pieces ++ q.pieces
  | none => q.pieces

end Query

end SqlWeave
