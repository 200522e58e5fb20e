import SqlWeave.Query

/-!
# Rewriting query trees

A rewriting maps the names of a tree and leaves everything else as it is: values, raw text, the
names of functions, operators and flags, and requests to explain a statement.  Tables that a
statement reads or writes, tables before a column and single identifiers are mapped separately,
because the table before a column may be an alias.
-/

namespace SqlWeave

/-- What happens to the names of a tree. -/
structure Rewrite where
  /-- Tables that a statement reads or writes. -/
  table : Table → Table
  /-- Tables before a column. -/
  qualifier : Table → Table
  /-- Columns, aliases and constraints. -/
  identifier : String → String

namespace Rewrite

/-- Map every identifier, those of tables included. -/
def names (f : String → String) : Rewrite := ⟨Table.mapNames f, Table.mapNames f, f⟩

def identity : Rewrite := names id

/-- Give a schema to the tables without one. -/
def schema (name : String) : Rewrite where
  table t :=
    match t.schema with
    | some _ => t
    | none => t.inSchema name
  qualifier t := t
  identifier s := s

end Rewrite

mutual

def Expr.rewrite (r : Rewrite) : Expr → Expr
  | .reference table column => .reference (table.map r.qualifier) (r.identifier column)
  | .value v => .value v
  | .raw fragments params => .raw fragments (Expr.rewriteList r params)
  | .binary left op right => .binary (left.rewrite r) op (right.rewrite r)
  | .unary op e => .unary op (e.rewrite r)
  | .call name args => .call name (Expr.rewriteList r args)
  | .aliased e label => .aliased (e.rewrite r) (r.identifier label)
  | .list items => .list (Expr.rewriteList r items)
  | .subquery s => .subquery (s.rewrite r)
  | .star table => .star (table.map r.qualifier)
  | .defaultMarker => .defaultMarker

def Expr.rewriteList (r : Rewrite) : List Expr → List Expr
  | [] => []
  | e :: rest => e.rewrite r :: Expr.rewriteList r rest

def Expr.rewriteOption (r : Rewrite) : Option Expr → Option Expr
  | some e => some (e.rewrite r)
  | none => none

def Source.rewrite (r : Rewrite) : Source → Source
  | .table t label => .table (r.table t) (label.map r.identifier)
  | .subquery s label => .subquery (s.rewrite r) (r.identifier label)

def Source.rewriteList (r : Rewrite) : List Source → List Source
  | [] => []
  | s :: rest => s.rewrite r :: Source.rewriteList r rest

def Join.rewrite (r : Rewrite) : Join → Join
  | ⟨kind, source, on⟩ => ⟨kind, source.rewrite r, on.rewrite r⟩

def Join.rewriteList (r : Rewrite) : List Join → List Join
  | [] => []
  | j :: rest => j.rewrite r :: Join.rewriteList r rest

def OrderItem.rewrite (r : Rewrite) : OrderItem → OrderItem
  | ⟨e, direction⟩ => ⟨e.rewrite r, direction⟩

def OrderItem.rewriteList (r : Rewrite) : List OrderItem → List OrderItem
  | [] => []
  | i :: rest => i.rewrite r :: OrderItem.rewriteList r rest

def Select.rewrite (r : Rewrite) : Select → Select
  | ⟨sources, selections, distinct, joins, filter, groupBy, having, orderBy, limit, offset,
      explain⟩ =>
    ⟨Source.rewriteList r sources, Expr.rewriteList r selections, distinct,
      Join.rewriteList r joins, Expr.rewriteOption r filter, Expr.rewriteList r groupBy,
      Expr.rewriteOption r having, OrderItem.rewriteList r orderBy, Expr.rewriteOption r limit,
      Expr.rewriteOption r offset, explain⟩

end

def ColumnUpdate.rewrite (r : Rewrite) (u : ColumnUpdate) : ColumnUpdate :=
  ⟨r.identifier u.column, u.value.rewrite r⟩

def rewriteUpdates (r : Rewrite) (updates : List ColumnUpdate) : List ColumnUpdate :=
  updates.map (ColumnUpdate.rewrite r)

def InsertSource.rewrite (r : Rewrite) : InsertSource → InsertSource
  | .rows cells => .rows (cells.map (Expr.rewriteList r))
  | .expr e => .expr (e.rewrite r)
  | .defaults => .defaults

def ConflictTarget.rewrite (r : Rewrite) : ConflictTarget → ConflictTarget
  | .unspecified => .unspecified
  | .columns names => .columns (names.map r.identifier)
  | .constraint name => .constraint (r.identifier name)
  | .expr e => .expr (e.rewrite r)

def ConflictAction.rewrite (r : Rewrite) : ConflictAction → ConflictAction
  | .nothing => .nothing
  | .update updates filter => .update (rewriteUpdates r updates) (Expr.rewriteOption r filter)

def Conflict.rewrite (r : Rewrite) (c : Conflict) : Conflict :=
  ⟨c.target.rewrite r, Expr.rewriteOption r c.indexFilter, c.action.rewrite r⟩

def Insert.rewrite (r : Rewrite) (i : Insert) : Insert :=
  { i with
    into := r.table i.into
    columns := i.columns.map (List.map r.identifier)
    source := i.source.map (InsertSource.rewrite r)
    onConflict := i.onConflict.map (Conflict.rewrite r)
    onDuplicateKey := i.onDuplicateKey.map (rewriteUpdates r)
    returning := i.returning.map (Expr.rewriteList r) }

def Update.rewrite (r : Rewrite) (u : Update) : Update :=
  { u with
    table := r.table u.table
    updates := rewriteUpdates r u.updates
    filter := Expr.rewriteOption r u.filter
    returning := u.returning.map (Expr.rewriteList r) }

def Delete.rewrite (r : Rewrite) (d : Delete) : Delete :=
  { d with
    source := r.table d.source
    filter := Expr.rewriteOption r d.filter
    returning := d.returning.map (Expr.rewriteList r) }

def Query.rewrite (r : Rewrite) : Query → Query
  | .select s => .select (s.rewrite r)
  | .insert i => .insert (i.rewrite r)
  | .update u => .update (u.rewrite r)
  | .delete d => .delete (d.rewrite r)

end SqlWeave
