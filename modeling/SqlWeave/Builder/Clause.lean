import SqlWeave.Assignments
import SqlWeave.Predicate

/-!
# Calls that several builders share

A call of a builder is data: what it asks for is worked out from the call alone, and each builder
then adds it to its statement.
-/

namespace SqlWeave

/-- A call that narrows a statement by one more predicate. -/
inductive Narrowing where
  | expr (e : Expr)
  | compare (column : String) (op : BinaryOp) (value : Expr)
  | compareColumns (left : String) (op : BinaryOp) (right : String)
  | equal (column : String) (value : Expr)

def Narrowing.predicate : Narrowing → Expr
  | .expr e => e
  | .compare column op value => Predicate.compare column op value
  | .compareColumns left op right => Predicate.compareColumns left op right
  | .equal column value => Predicate.compare column .eq value

/-- A call that selects more expressions. -/
inductive Selecting where
  | items (texts : List String)
  | exprs (es : List Expr)
  | all

def Selecting.selections : Selecting → List Expr
  | .items texts => texts.map Shorthand.selection
  | .exprs es => es
  | .all => [.star none]

/-- A clause that gives rows back, with more selections. -/
def extendReturning (existing : Option (List Expr)) (call : Selecting) : Option (List Expr) :=
  some (existing.getD [] ++ call.selections)

end SqlWeave
