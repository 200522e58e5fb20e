import SqlWeave.Raw
import SqlWeave.Shorthand

/-!
# Helpers for expressions

What callers combine expressions with: comparisons of columns that are given by their shorthand,
and conjunctions and disjunctions of lists.
-/

namespace SqlWeave.Predicate

def compare (column : String) (op : BinaryOp) (value : Expr) : Expr :=
  .binary (Shorthand.reference column) op value

def compareColumns (left : String) (op : BinaryOp) (right : String) : Expr :=
  .binary (Shorthand.reference left) op (Shorthand.reference right)

/-- All of the predicates.  No predicate at all is true. -/
def all : List Expr → Expr
  | [] => .value (.bool true)
  | p :: rest => rest.foldl Expr.and p

/-- Any of the predicates.  No predicate at all is false. -/
def any : List Expr → Expr
  | [] => .value (.bool false)
  | p :: rest => rest.foldl Expr.or p

def not (e : Expr) : Expr := .unary .not e

def hasRows (query : Expr) : Expr := .unary .exist query

end SqlWeave.Predicate
