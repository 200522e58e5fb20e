import SqlWeave.Query

/-!
# Sameness of query trees

Two trees are the same when they have the same shape and the same leaves, where the literal values
in them are compared as values: the two zeros are the same, a NaN is not the same as itself, and
the order of the fields of a JSON object does not matter.
-/

namespace SqlWeave

def sameOption {α : Type} (same : α → α → Bool) : Option α → Option α → Bool
  | none, none => true
  | some a, some b => same a b
  | _, _ => false

def sameList {α : Type} (same : α → α → Bool) : List α → List α → Bool
  | [], [] => true
  | a :: as, b :: bs => same a b && sameList same as bs
  | _, _ => false

mutual

def Expr.same : Expr → Expr → Bool
  | .reference t c, .reference t' c' => t == t' && c == c'
  | .value v, .value v' => v.same v'
  | .raw fragments params, .raw fragments' params' =>
    fragments == fragments' && Expr.sameList params params'
  | .binary left op right, .binary left' op' right' =>
    op == op' && left.same left' && right.same right'
  | .unary op e, .unary op' e' => op == op' && e.same e'
  | .call name args, .call name' args' => name == name' && Expr.sameList args args'
  | .aliased e label, .aliased e' label' => label == label' && e.same e'
  | .list items, .list items' => Expr.sameList items items'
  | .subquery s, .subquery s' => s.same s'
  | .star t, .star t' => t == t'
  | .defaultMarker, .defaultMarker => true
  | _, _ => false

def Expr.sameList : List Expr → List Expr → Bool
  | [], [] => true
  | a :: as, b :: bs => a.same b && Expr.sameList as bs
  | _, _ => false

def Expr.sameOption : Option Expr → Option Expr → Bool
  | none, none => true
  | some a, some b => a.same b
  | _, _ => false

def Source.same : Source → Source → Bool
  | .table t label, .table t' label' => t == t' && label == label'
  | .subquery s label, .subquery s' label' => label == label' && s.same s'
  | _, _ => false

def Source.sameList : List Source → List Source → Bool
  | [], [] => true
  | a :: as, b :: bs => a.same b && Source.sameList as bs
  | _, _ => false

def Join.same : Join → Join → Bool
  | ⟨kind, source, on⟩, ⟨kind', source', on'⟩ =>
    kind == kind' && source.same source' && on.same on'

def Join.sameList : List Join → List Join → Bool
  | [], [] => true
  | a :: as, b :: bs => a.same b && Join.sameList as bs
  | _, _ => false

def OrderItem.same : OrderItem → OrderItem → Bool
  | ⟨e, direction⟩, ⟨e', direction'⟩ => direction == direction' && e.same e'

def OrderItem.sameList : List OrderItem → List OrderItem → Bool
  | [], [] => true
  | a :: as, b :: bs => a.same b && OrderItem.sameList as bs
  | _, _ => false

def Explain.same : Explain → Explain → Bool
  | ⟨format, options⟩, ⟨format', options'⟩ =>
    format == format' && Expr.sameOption options options'

def Explain.sameOption : Option Explain → Option Explain → Bool
  | none, none => true
  | some a, some b => a.same b
  | _, _ => false

def Select.same : Select → Select → Bool
  | ⟨sources, selections, distinct, joins, filter, groupBy, having, orderBy, limit, offset,
      explain⟩,
    ⟨sources', selections', distinct', joins', filter', groupBy', having', orderBy', limit',
      offset', explain'⟩ =>
    Source.sameList sources sources' && Expr.sameList selections selections' &&
      distinct == distinct' && Join.sameList joins joins' && Expr.sameOption filter filter' &&
      Expr.sameList groupBy groupBy' && Expr.sameOption having having' &&
      OrderItem.sameList orderBy orderBy' && Expr.sameOption limit limit' &&
      Expr.sameOption offset offset' && Explain.sameOption explain explain'

end

def ColumnUpdate.same (a b : ColumnUpdate) : Bool := a.column == b.column && a.value.same b.value

def InsertSource.same : InsertSource → InsertSource → Bool
  | .rows cells, .rows cells' => sameList Expr.sameList cells cells'
  | .expr e, .expr e' => e.same e'
  | .defaults, .defaults => true
  | _, _ => false

def ConflictTarget.same : ConflictTarget → ConflictTarget → Bool
  | .unspecified, .unspecified => true
  | .columns names, .columns names' => names == names'
  | .constraint name, .constraint name' => name == name'
  | .expr e, .expr e' => e.same e'
  | _, _ => false

def ConflictAction.same : ConflictAction → ConflictAction → Bool
  | .nothing, .nothing => true
  | .update updates filter, .update updates' filter' =>
    sameList ColumnUpdate.same updates updates' && Expr.sameOption filter filter'
  | _, _ => false

def Conflict.same (a b : Conflict) : Bool :=
  a.target.same b.target && Expr.sameOption a.indexFilter b.indexFilter && a.action.same b.action

def Insert.same (a b : Insert) : Bool :=
  a.into == b.into && a.columns == b.columns && sameOption InsertSource.same a.source b.source &&
    a.ignore == b.ignore && a.replace == b.replace &&
    sameOption Conflict.same a.onConflict b.onConflict &&
    sameOption (sameList ColumnUpdate.same) a.onDuplicateKey b.onDuplicateKey &&
    sameOption Expr.sameList a.returning b.returning && Explain.sameOption a.explain b.explain

def Update.same (a b : Update) : Bool :=
  a.table == b.table && sameList ColumnUpdate.same a.updates b.updates &&
    Expr.sameOption a.filter b.filter && sameOption Expr.sameList a.returning b.returning &&
    Explain.sameOption a.explain b.explain

def Delete.same (a b : Delete) : Bool :=
  a.source == b.source && Expr.sameOption a.filter b.filter &&
    sameOption Expr.sameList a.returning b.returning && Explain.sameOption a.explain b.explain

def Query.same : Query → Query → Bool
  | .select s, .select s' => s.same s'
  | .insert i, .insert i' => i.same i'
  | .update u, .update u' => u.same u'
  | .delete d, .delete d' => d.same d'
  | _, _ => false

end SqlWeave
