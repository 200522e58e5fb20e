import SqlWeave.Operator
import SqlWeave.Value

/-!
# Expressions and selects

Names of tables, and the trees over them.  Expressions may hold selects, and selects hold
expressions, so the two are defined together.  Trees are plain values: a builder never changes one,
it makes another.
-/

namespace SqlWeave

structure Table where
  schema : Option String
  name : String
  deriving DecidableEq

namespace Table

def ofName (name : String) : Table := ⟨none, name⟩

def inSchema (t : Table) (schema : String) : Table := ⟨some schema, t.name⟩

def mapNames (f : String → String) (t : Table) : Table := ⟨t.schema.map f, f t.name⟩

/-- The parts of a table name as they are written: the schema first. -/
def names (t : Table) : List String := t.schema.toList ++ [t.name]

end Table

inductive JoinKind where
  | inner | left | right | full
  deriving DecidableEq

inductive Direction where
  | ascending | descending
  deriving DecidableEq

mutual

/-- Anything that has a value. -/
inductive Expr where
  /-- A column, of a given table or of any. -/
  | reference (table : Option Table) (column : String)
  /-- A literal value, which is always written as a placeholder. -/
  | value (v : Value)
  /-- SQL text taken as it is.  The parameter at a position follows the fragment at that position;
  parameters beyond the last fragment are not written. -/
  | raw (fragments : List String) (params : List Expr)
  | binary (left : Expr) (op : BinaryOp) (right : Expr)
  | unary (op : UnaryOp) (operand : Expr)
  | call (name : String) (args : List Expr)
  | aliased (e : Expr) (label : String)
  /-- A list in parentheses, such as the right side of `IN`. -/
  | list (items : List Expr)
  /-- A select in parentheses. -/
  | subquery (s : Select)
  /-- All columns, of a given table or of all. -/
  | star (table : Option Table)
  /-- The marker for a column's default inside a row of values. -/
  | defaultMarker

/-- Where rows come from: a table, or a select under a name. -/
inductive Source where
  | table (t : Table) (label : Option String)
  | subquery (s : Select) (label : String)

/-- A joined source and the condition on which it is joined. -/
structure Join where
  kind : JoinKind
  source : Source
  on : Expr

/-- An expression to order by. -/
structure OrderItem where
  expr : Expr
  direction : Option Direction

/-- A request to explain a statement rather than run it. -/
structure Explain where
  format : Option String
  options : Option Expr

/-- A select statement.  No selections means all columns. -/
structure Select where
  sources : List Source
  selections : List Expr
  distinct : Bool
  joins : List Join
  filter : Option Expr
  groupBy : List Expr
  having : Option Expr
  orderBy : List OrderItem
  limit : Option Expr
  offset : Option Expr
  explain : Option Explain

end

namespace Expr

def and (a b : Expr) : Expr := .binary a .and b

def or (a b : Expr) : Expr := .binary a .or b

/-- Whether the expression is an operation that needs parentheses as an operand.  Conjunctions and
disjunctions bring their own. -/
def isBareOperation : Expr → Bool
  | .binary _ op _ => !op.isLogical
  | _ => false

end Expr

namespace Select

/-- The select from some sources that does nothing else. -/
def ofSources (sources : List Source) : Select :=
  ⟨sources, [], false, [], none, [], none, [], none, none, none⟩

end Select

/-- Narrow an optional predicate by another: both have to hold. -/
def conjoin (existing : Option Expr) (predicate : Expr) : Option Expr :=
  match existing with
  | some e => some (e.and predicate)
  | none => some predicate

end SqlWeave
