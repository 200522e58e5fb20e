/-!
# Operators
-/

namespace SqlWeave

inductive BinaryOp where
  | eq | notEq | lt | lte | gt | gte
  | like | notLike | ilike | isIn | notIn
  | is | isNot
  | and | or
  | add | sub | mul | div
  | concat
  deriving DecidableEq

namespace BinaryOp

def sql : BinaryOp → String
  | .eq => "="
  | .notEq => "<>"
  | .lt => "<"
  | .lte => "<="
  | .gt => ">"
  | .gte => ">="
  | .like => "LIKE"
  | .notLike => "NOT LIKE"
  | .ilike => "ILIKE"
  | .isIn => "IN"
  | .notIn => "NOT IN"
  | .is => "IS"
  | .isNot => "IS NOT"
  | .and => "AND"
  | .or => "OR"
  | .add => "+"
  | .sub => "-"
  | .mul => "*"
  | .div => "/"
  | .concat => "||"

/-- Conjunction and disjunction, which bind more loosely than every other operator. -/
def isLogical : BinaryOp → Bool
  | .and | .or => true
  | _ => false

def isNullTest : BinaryOp → Bool
  | .is | .isNot => true
  | _ => false

end BinaryOp

inductive UnaryOp where
  | not | exist | notExist | negate
  deriving DecidableEq

/-- The spelling of the operator, up to its operand. -/
def UnaryOp.sql : UnaryOp → String
  | .not => "NOT "
  | .exist => "EXISTS "
  | .notExist => "NOT EXISTS "
  | .negate => "-"

end SqlWeave
