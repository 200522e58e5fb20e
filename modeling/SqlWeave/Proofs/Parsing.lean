import SqlWeave.Proofs.InPlace
import SqlWeave.Proofs.Reading

/-!
# Reading expressions as trees

A reader for expressions of columns, values, operators and parentheses.  It goes from left to right
over what the lexical reader has found and keeps the operators that wait for their right side on a
stack.  An operator takes its left side from those on the stack that bind at least as tightly, and a
`NOT` or a minus sign stands wherever an operand can stand.
-/

namespace SqlWeave

namespace BinaryOp

def isComparison : BinaryOp → Bool
  | .eq | .notEq | .lt | .lte | .gt | .gte => true
  | .like | .notLike | .ilike | .isIn | .notIn | .is | .isNot => true
  | _ => false

def isArithmetic : BinaryOp → Bool
  | .add | .sub | .mul | .div | .concat => true
  | _ => false

end BinaryOp

/-- How tightly operators bind.  Databases agree on the order of the kinds of operators, and not on
the order of comparisons among themselves or of arithmetic operators among themselves. -/
structure Precedence where
  rank : BinaryOp → Nat
  not : Nat
  minus : Nat
  or_lt_and : rank .or < rank .and
  and_lt_not : rank .and < not
  not_lt_comparison : ∀ o, o.isComparison = true → not < rank o
  comparison_lt_arithmetic :
    ∀ o o', o.isComparison = true → o'.isArithmetic = true → rank o < rank o'
  arithmetic_lt_minus : ∀ o, o.isArithmetic = true → rank o < minus

/-- The order of PostgreSQL. -/
def Precedence.postgres : Precedence where
  rank
    | .or => 0
    | .and => 1
    | .is | .isNot => 3
    | .eq | .notEq | .lt | .lte | .gt | .gte => 4
    | .like | .notLike | .ilike | .isIn | .notIn => 5
    | .concat => 6
    | .add | .sub => 7
    | .mul | .div => 8
  not := 2
  minus := 9
  or_lt_and := by decide
  and_lt_not := by decide
  not_lt_comparison o h := by cases o <;> first | exact Bool.noConfusion h | decide
  comparison_lt_arithmetic o o' h h' := by
    cases o <;> first
      | exact Bool.noConfusion h
      | cases o' <;> first | exact Bool.noConfusion h' | decide
  arithmetic_lt_minus o h := by cases o <;> first | exact Bool.noConfusion h | decide

/-! ## Items -/

/-- What stands in an expression outside parentheses. -/
inductive Item where
  | operand (e : Expr)
  | column (table : Option Table) (name : String)
  | op (o : BinaryOp)
  | not
  | dot
  | bar

namespace Item

/-- The item before others, with which it may form a single item: an operator of two words or signs,
or a column with its table. -/
def before : Item → List Item → List Item
  | .op .is, .not :: rest => .op .isNot :: rest
  | .not, .op .like :: rest => .op .notLike :: rest
  | .not, .op .isIn :: rest => .op .notIn :: rest
  | .op .lt, .op .gt :: rest => .op .notEq :: rest
  | .op .lt, .op .eq :: rest => .op .lte :: rest
  | .op .gt, .op .eq :: rest => .op .gte :: rest
  | .bar, .bar :: rest => .op .concat :: rest
  | .column none table, .dot :: .column none name :: rest =>
    .column (some ⟨none, table⟩) name :: rest
  | .column none schema, .dot :: .column (some ⟨none, table⟩) name :: rest =>
    .column (some ⟨some schema, table⟩) name :: rest
  | item, rest => item :: rest

def ofWord (s : List Char) : Option Item :=
  match String.ofList (s.map Char.toUpper) with
  | "AND" => some (.op .and)
  | "OR" => some (.op .or)
  | "NOT" => some .not
  | "IS" => some (.op .is)
  | "LIKE" => some (.op .like)
  | "ILIKE" => some (.op .ilike)
  | "IN" => some (.op .isIn)
  | "NULL" => some (.operand (.value .null))
  | _ => none

def ofSign : Char → Option Item
  | '=' => some (.op .eq)
  | '<' => some (.op .lt)
  | '>' => some (.op .gt)
  | '+' => some (.op .add)
  | '-' => some (.op .sub)
  | '*' => some (.op .mul)
  | '/' => some (.op .div)
  | '|' => some .bar
  | '.' => some .dot
  | _ => none

end Item

/-! ## Operators -/

/-- An operator that waits for its right side. -/
inductive Frame where
  | binary (left : Expr) (o : BinaryOp)
  | not
  | minus

namespace Frame

def rank (p : Precedence) : Frame → Nat
  | .binary _ o => p.rank o
  | .not => p.not
  | .minus => p.minus

def apply : Frame → Expr → Expr
  | .binary left o, e => .binary left o e
  | .not, e => .unary .not e
  | .minus, e => .unary .negate e

end Frame

/-- Give an operand to the waiting operators that bind at least as tightly as a rank asks for. -/
def close (p : Precedence) (rank : Nat) : List Frame → Expr → List Frame × Expr
  | [], e => ([], e)
  | f :: frames, e =>
    if rank ≤ f.rank p then close p rank frames (f.apply e) else (f :: frames, e)

/-- The waiting operators once a binary operator follows an operand. -/
def pushOp (p : Precedence) (o : BinaryOp) (frames : List Frame) (e : Expr) : List Frame :=
  .binary (close p (p.rank o) frames e).2 o :: (close p (p.rank o) frames e).1

/-- The operators that wait, the last one first, and the operand after them if it is read. -/
structure Stack where
  frames : List Frame
  last : Option Expr

namespace Stack

def next (p : Precedence) : Stack → Item → Option Stack
  | ⟨frames, none⟩, .operand e => some ⟨frames, some e⟩
  | ⟨frames, none⟩, .column table name => some ⟨frames, some (.reference table name)⟩
  | ⟨frames, none⟩, .not => some ⟨.not :: frames, none⟩
  | ⟨frames, none⟩, .op .sub => some ⟨.minus :: frames, none⟩
  | ⟨frames, some e⟩, .op o => some ⟨pushOp p o frames e, none⟩
  | _, _ => none

def run (p : Precedence) (s : Stack) (items : List Item) : Option Stack := items.foldlM (next p) s

def tree? (p : Precedence) (s : Stack) : Option Expr := s.last.map fun e => (close p 0 s.frames e).2

end Stack

/-- The expression that items stand for. -/
def Item.tree? (p : Precedence) (items : List Item) : Option Expr :=
  (Stack.run p ⟨[], none⟩ items).bind (Stack.tree? p)

/-! ## Texts -/

def Symbol.char? : Symbol → Option Char
  | .char c => some c
  | .param _ => none

namespace Reading

mutual

def Node.item? (p : Precedence) : Node → Option Item
  | .word s => Item.ofWord s
  | .quoted .single _ => none
  | .quoted _ content => (content.mapM Symbol.char?).map fun cs => .column none (String.ofList cs)
  | .param v => some (.operand (.value v))
  | .sign c => Item.ofSign c
  | .group .round inner =>
    (Node.itemsBefore p inner []).bind fun items => (Item.tree? p items).map .operand
  | .group _ _ => none

/-- The items of nodes, before items that are read already. -/
def Node.itemsBefore (p : Precedence) : List Node → List Item → Option (List Item)
  | [], items => some items
  | n :: rest, items =>
    (n.item? p).bind fun item => (Node.itemsBefore p rest items).map item.before

end

theorem itemsBefore_append (p : Precedence) (a b : List Node) (items : List Item) :
    Node.itemsBefore p (a ++ b) items =
      (Node.itemsBefore p b items).bind (Node.itemsBefore p a) := by
  induction a with
  | nil =>
    rw [List.nil_append]
    cases Node.itemsBefore p b items <;> rfl
  | cons n rest ih =>
    rw [List.cons_append, Node.itemsBefore, ih]
    cases Node.itemsBefore p b items with
    | none => cases n.item? p <;> rfl
    | some following => rw [Option.bind_some, Option.bind_some, Node.itemsBefore]

end Reading

namespace Sql

/-- The expression that a text means. -/
def tree? (d : Dialect) (p : Precedence) (sql : Sql) : Option Expr :=
  ((Reading.read (sql.inPlace d)).bind fun nodes => Reading.Node.itemsBefore p nodes []).bind
    (Item.tree? p)

end Sql

end SqlWeave
