import SqlWeave.Sql.Piece

/-!
# Expressions and selects in pieces

An operand that is itself an operation is put in parentheses, so that a reader's rules of
precedence give the tree back; conjunctions and disjunctions always are.  A null to the right of
`IS` is written as a keyword, because databases refuse a parameter there.
-/

namespace SqlWeave

open Piece (separated interleaved parenthesized nameList)

def JoinKind.sql : JoinKind → String
  | .inner => "INNER JOIN"
  | .left => "LEFT JOIN"
  | .right => "RIGHT JOIN"
  | .full => "FULL JOIN"

/-- The spelling of a direction, after a blank; the default direction is not written. -/
def Direction.sql : Option Direction → List Piece
  | some .ascending => [.text " ASC"]
  | some .descending => [.text " DESC"]
  | none => []

def operand (e : Expr) (pieces : List Piece) : List Piece :=
  if e.isBareOperation then parenthesized pieces else pieces

def isKeywordNull (op : BinaryOp) (right : Expr) : Bool :=
  match right with
  | .value .null => op.isNullTest
  | _ => false

/-- A clause with a list, which is left out when the list is empty. -/
def listClause (keyword : String) (groups : List (List Piece)) : List Piece :=
  if groups.isEmpty then [] else .text keyword :: separated ", " groups

mutual

def Expr.pieces : Expr → List Piece
  | .reference table column => .require .reference :: Table.qualifier table ++ [.name column]
  | .value v => [.require .value, .param v]
  | .raw fragments params => .require .raw :: interleaved fragments (Expr.piecesOfList params)
  | .binary left op right =>
    let middle : List Piece := [.text " ", .text op.sql, .text " "]
    let rightPieces :=
      if isKeywordNull op right then [.text "NULL"]
      else if op.isLogical then right.pieces
      else operand right right.pieces
    .require .binaryOperation ::
      if op.isLogical then parenthesized (left.pieces ++ middle ++ rightPieces)
      else operand left left.pieces ++ middle ++ rightPieces
  | .unary op e => .require .unaryOperation :: .text op.sql :: operand e e.pieces
  | .call name args =>
    .require .call :: .text name :: parenthesized (separated ", " (Expr.piecesOfList args))
  | .aliased e label => .require .aliased :: e.pieces ++ [.text " AS ", .name label]
  | .list items => .require .list :: parenthesized (separated ", " (Expr.piecesOfList items))
  | .subquery s => parenthesized s.pieces
  | .star table => Table.qualifier table ++ [.text "*"]
  | .defaultMarker => [.require .defaultMarker, .defaultMarker]

def Expr.piecesOfList : List Expr → List (List Piece)
  | [] => []
  | e :: rest => e.pieces :: Expr.piecesOfList rest

/-- A clause with an expression, which is left out when there is none. -/
def Expr.clause (opening : List Piece) : Option Expr → List Piece
  | some e => opening ++ e.pieces
  | none => []

def Source.pieces : Source → List Piece
  | .table t label =>
    .require .table :: t.pieces ++
      (match label with
        | some a => [.text " AS ", .name a]
        | none => [])
  | .subquery s label => .text "(" :: s.pieces ++ [.text ") AS ", .name label]

def Source.piecesOfList : List Source → List (List Piece)
  | [] => []
  | s :: rest => s.pieces :: Source.piecesOfList rest

def Join.pieces : Join → List Piece
  | ⟨kind, source, on⟩ =>
    .require .join :: .text kind.sql :: .text " " :: source.pieces ++ .text " ON " :: on.pieces

def Join.piecesOfList : List Join → List Piece
  | [] => []
  | j :: rest => .text " " :: j.pieces ++ Join.piecesOfList rest

def OrderItem.pieces : OrderItem → List Piece
  | ⟨e, direction⟩ => .require .orderBy :: e.pieces ++ Direction.sql direction

def OrderItem.piecesOfList : List OrderItem → List (List Piece)
  | [] => []
  | i :: rest => i.pieces :: OrderItem.piecesOfList rest

/-- The pieces of a select.  A request to explain it is not part of them. -/
def Select.pieces : Select → List Piece
  | ⟨sources, selections, distinct, joins, filter, groupBy, having, orderBy, limit, offset, _⟩ =>
    .require .select :: .text "SELECT " ::
      (if distinct then [.text "DISTINCT "] else []) ++
      (if selections.isEmpty then [.text "*"]
        else separated ", " (Expr.piecesOfList selections)) ++
      listClause " FROM " (Source.piecesOfList sources) ++
      Join.piecesOfList joins ++
      Expr.clause [.text " WHERE "] filter ++
      listClause " GROUP BY " (Expr.piecesOfList groupBy) ++
      Expr.clause [.text " HAVING "] having ++
      listClause " ORDER BY " (OrderItem.piecesOfList orderBy) ++
      Expr.clause [.require .limit, .text " LIMIT "] limit ++
      Expr.clause [.require .offset, .text " OFFSET "] offset

end

end SqlWeave
