import SqlWeave.Proofs.Rewriting

/-!
# What a rewriting leaves alone

A veil maps all names of a tree, those in requests to explain included, and so hides what it forgets
about them.  A tree looks the same before and after a rewriting behind every veil that hides what
the rewriting changes: all the rest of the tree is as it was.
-/

namespace SqlWeave

mutual

/-- An expression with all of its names mapped. -/
def Expr.veil (v : Rewrite) : Expr → Expr
  | .reference table column => .reference (table.map v.qualifier) (v.identifier column)
  | .value x => .value x
  | .raw fragments params => .raw fragments (Expr.veilList v params)
  | .binary left op right => .binary (left.veil v) op (right.veil v)
  | .unary op e => .unary op (e.veil v)
  | .call name args => .call name (Expr.veilList v args)
  | .aliased e label => .aliased (e.veil v) (v.identifier label)
  | .list items => .list (Expr.veilList v items)
  | .subquery s => .subquery (s.veil v)
  | .star table => .star (table.map v.qualifier)
  | .defaultMarker => .defaultMarker

def Expr.veilList (v : Rewrite) : List Expr → List Expr
  | [] => []
  | e :: rest => e.veil v :: Expr.veilList v rest

def Expr.veilOption (v : Rewrite) : Option Expr → Option Expr
  | none => none
  | some e => some (e.veil v)

def Source.veil (v : Rewrite) : Source → Source
  | .table t label => .table (v.table t) (label.map v.identifier)
  | .subquery s label => .subquery (s.veil v) (v.identifier label)

def Source.veilList (v : Rewrite) : List Source → List Source
  | [] => []
  | x :: rest => x.veil v :: Source.veilList v rest

def Join.veilList (v : Rewrite) : List Join → List Join
  | [] => []
  | ⟨kind, x, e⟩ :: rest => ⟨kind, x.veil v, e.veil v⟩ :: Join.veilList v rest

def OrderItem.veilList (v : Rewrite) : List OrderItem → List OrderItem
  | [] => []
  | ⟨e, direction⟩ :: rest => ⟨e.veil v, direction⟩ :: OrderItem.veilList v rest

def Explain.veilOption (v : Rewrite) : Option Explain → Option Explain
  | none => none
  | some ⟨format, options⟩ => some ⟨format, Expr.veilOption v options⟩

def Select.veil (v : Rewrite) : Select → Select
  | ⟨sources, selections, distinct, joins, filter, groupBy, having, orderBy, limit, offset,
      explain⟩ =>
    ⟨Source.veilList v sources, Expr.veilList v selections, distinct, Join.veilList v joins,
      Expr.veilOption v filter, Expr.veilList v groupBy, Expr.veilOption v having,
      OrderItem.veilList v orderBy, Expr.veilOption v limit, Expr.veilOption v offset,
      Explain.veilOption v explain⟩

end

section

variable (v : Rewrite)

def ColumnUpdate.veil (u : ColumnUpdate) : ColumnUpdate := ⟨v.identifier u.column, u.value.veil v⟩

def InsertSource.veil : InsertSource → InsertSource
  | .rows cells => .rows (cells.map (Expr.veilList v))
  | .expr e => .expr (e.veil v)
  | .defaults => .defaults

def ConflictTarget.veil : ConflictTarget → ConflictTarget
  | .unspecified => .unspecified
  | .columns names => .columns (names.map v.identifier)
  | .constraint name => .constraint (v.identifier name)
  | .expr e => .expr (e.veil v)

def ConflictAction.veil : ConflictAction → ConflictAction
  | .nothing => .nothing
  | .update updates filter =>
    .update (updates.map (ColumnUpdate.veil v)) (Expr.veilOption v filter)

def Conflict.veil (c : Conflict) : Conflict :=
  ⟨c.target.veil v, Expr.veilOption v c.indexFilter, c.action.veil v⟩

def Insert.veil (i : Insert) : Insert where
  into := v.table i.into
  columns := i.columns.map (List.map v.identifier)
  source := i.source.map (InsertSource.veil v)
  ignore := i.ignore
  replace := i.replace
  onConflict := i.onConflict.map (Conflict.veil v)
  onDuplicateKey := i.onDuplicateKey.map (List.map (ColumnUpdate.veil v))
  returning := i.returning.map (Expr.veilList v)
  explain := Explain.veilOption v i.explain

def Update.veil (u : Update) : Update where
  table := v.table u.table
  updates := u.updates.map (ColumnUpdate.veil v)
  filter := Expr.veilOption v u.filter
  returning := u.returning.map (Expr.veilList v)
  explain := Explain.veilOption v u.explain

def Delete.veil (d : Delete) : Delete where
  source := v.table d.source
  filter := Expr.veilOption v d.filter
  returning := d.returning.map (Expr.veilList v)
  explain := Explain.veilOption v d.explain

/-- A statement with all of its names mapped. -/
def Query.veil : Query → Query
  | .select s => .select (s.veil v)
  | .insert i => .insert (i.veil v)
  | .update u => .update (u.veil v)
  | .delete d => .delete (d.veil v)

@[simp] theorem Expr.veilList_eq_map (es : List Expr) :
    Expr.veilList v es = es.map (Expr.veil v) := by
  induction es with
  | nil => rfl
  | cons e rest ih => exact congrArg (e.veil v :: ·) ih

@[simp] theorem Expr.veilOption_eq_map (o : Option Expr) :
    Expr.veilOption v o = o.map (Expr.veil v) := by
  cases o <;> rfl

@[simp] theorem Source.veilList_eq_map (xs : List Source) :
    Source.veilList v xs = xs.map (Source.veil v) := by
  induction xs with
  | nil => rfl
  | cons x rest ih => exact congrArg (x.veil v :: ·) ih

@[simp] theorem Join.veilList_eq_map (js : List Join) :
    Join.veilList v js = js.map fun j => ⟨j.kind, j.source.veil v, j.on.veil v⟩ := by
  induction js with
  | nil => rfl
  | cons j rest ih =>
    cases j
    exact congrArg (_ :: ·) ih

@[simp] theorem OrderItem.veilList_eq_map (is : List OrderItem) :
    OrderItem.veilList v is = is.map fun i => ⟨i.expr.veil v, i.direction⟩ := by
  induction is with
  | nil => rfl
  | cons i rest ih =>
    cases i
    exact congrArg (_ :: ·) ih

end

/-! ## Veils over rewritings -/

/-- The veil hides everything that the rewriting changes. -/
structure Rewrite.HiddenBy (r v : Rewrite) : Prop where
  table : ∀ t, v.table (r.table t) = v.table t
  qualifier : ∀ t, v.qualifier (r.qualifier t) = v.qualifier t
  identifier : ∀ s, v.identifier (r.identifier s) = v.identifier s

namespace Rewrite

/-- The veil that hides all names.  Whether a table has a schema can still be seen. -/
def anonymous : Rewrite := names fun _ => ""

/-- The veil that hides the tables that are read or written, and whether they have a schema. -/
def tableless : Rewrite := ⟨fun _ => .ofName "", id, id⟩

theorem names_hiddenBy_anonymous (f : String → String) : (names f).HiddenBy anonymous := by
  have htable : ∀ t : Table, (t.mapNames f).mapNames (fun _ => "") = t.mapNames fun _ => "" :=
    fun t => t.mapNames_mapNames f _
  exact ⟨htable, htable, fun _ => rfl⟩

theorem schema_hiddenBy_tableless (s : String) : (schema s).HiddenBy tableless :=
  ⟨fun _ => rfl, fun _ => rfl, fun _ => rfl⟩

end Rewrite

section

variable {r v : Rewrite} (hv : r.HiddenBy v)

include hv

theorem Rewrite.HiddenBy.hereditary :
    Hereditary (fun e => (e.rewrite r).veil v = e.veil v) (fun x => (x.rewrite r).veil v = x.veil v)
      (fun s => (s.rewrite r).veil v = s.veil v) where
  reference table column := by
    simp only [Expr.rewrite, Expr.veil, option_map_map_congr fun t _ => hv.qualifier t,
      hv.identifier]
  value x := by simp only [Expr.rewrite, Expr.veil]
  raw fragments params h := by
    simp only [Expr.rewrite, Expr.veil, Expr.rewriteList_eq_map, Expr.veilList_eq_map,
      map_map_congr h]
  binary left op right hl hr := by simp only [Expr.rewrite, Expr.veil, hl, hr]
  unary op e h := by simp only [Expr.rewrite, Expr.veil, h]
  call name args h := by
    simp only [Expr.rewrite, Expr.veil, Expr.rewriteList_eq_map, Expr.veilList_eq_map,
      map_map_congr h]
  aliased e label h := by simp only [Expr.rewrite, Expr.veil, h, hv.identifier]
  list items h := by
    simp only [Expr.rewrite, Expr.veil, Expr.rewriteList_eq_map, Expr.veilList_eq_map,
      map_map_congr h]
  subquery s h := by simp only [Expr.rewrite, Expr.veil, h]
  star table := by
    simp only [Expr.rewrite, Expr.veil, option_map_map_congr fun t _ => hv.qualifier t]
  defaultMarker := by simp only [Expr.rewrite, Expr.veil]
  table t label := by
    simp only [Source.rewrite, Source.veil, hv.table,
      option_map_map_congr fun s _ => hv.identifier s]
  derived s label h := by simp only [Source.rewrite, Source.veil, h, hv.identifier]
  select s h := by
    obtain ⟨sources, selections, distinct, joins, filter, groupBy, having, orderBy, limit, offset,
      explain⟩ := s
    have hjoins : (joins.map (Join.rewrite r)).map
        (fun j => (⟨j.kind, j.source.veil v, j.on.veil v⟩ : Join)) =
        joins.map fun j => ⟨j.kind, j.source.veil v, j.on.veil v⟩ := by
      refine map_map_congr fun j hj => ?_
      simp only [Join.rewrite_eq, h.joins j hj]
    have horderBy : (orderBy.map (OrderItem.rewrite r)).map
        (fun i => (⟨i.expr.veil v, i.direction⟩ : OrderItem)) =
        orderBy.map fun i => ⟨i.expr.veil v, i.direction⟩ := by
      refine map_map_congr fun i hi => ?_
      simp only [OrderItem.rewrite_eq, h.orderBy i hi]
    simp only [Select.rewrite, Select.veil, Expr.rewriteList_eq_map, Expr.rewriteOption_eq_map,
      Source.rewriteList_eq_map, Join.rewriteList_eq_map, OrderItem.rewriteList_eq_map,
      Expr.veilList_eq_map, Expr.veilOption_eq_map, Source.veilList_eq_map, Join.veilList_eq_map,
      OrderItem.veilList_eq_map, hjoins, horderBy, map_map_congr h.sources,
      map_map_congr h.selections, map_map_congr h.groupBy, option_map_map_congr h.filter,
      option_map_map_congr h.having, option_map_map_congr h.limit, option_map_map_congr h.offset]

theorem Expr.veil_rewrite (e : Expr) : (e.rewrite r).veil v = e.veil v := hv.hereditary.expr e

theorem Expr.veilList_rewriteList (es : List Expr) :
    Expr.veilList v (Expr.rewriteList r es) = Expr.veilList v es := by
  simp only [Expr.rewriteList_eq_map, Expr.veilList_eq_map]
  exact map_map_congr fun e _ => e.veil_rewrite hv

theorem Expr.veilOption_rewriteOption (o : Option Expr) :
    Expr.veilOption v (Expr.rewriteOption r o) = Expr.veilOption v o := by
  simp only [Expr.rewriteOption_eq_map, Expr.veilOption_eq_map]
  exact option_map_map_congr fun e _ => e.veil_rewrite hv

theorem map_veil_rewriteUpdates (updates : List ColumnUpdate) :
    (rewriteUpdates r updates).map (ColumnUpdate.veil v) = updates.map (ColumnUpdate.veil v) := by
  refine map_map_congr fun u _ => ?_
  simp only [ColumnUpdate.rewrite, ColumnUpdate.veil, u.value.veil_rewrite hv, hv.identifier]

theorem InsertSource.veil_rewrite (source : InsertSource) :
    (source.rewrite r).veil v = source.veil v := by
  cases source with
  | rows cells =>
    exact congrArg rows (map_map_congr fun row _ => Expr.veilList_rewriteList hv row)
  | expr e => exact congrArg expr (e.veil_rewrite hv)
  | defaults => rfl

theorem Conflict.veil_rewrite (c : Conflict) : (c.rewrite r).veil v = c.veil v := by
  obtain ⟨target, indexFilter, action⟩ := c
  have htarget : (target.rewrite r).veil v = target.veil v := by
    cases target with
    | unspecified => rfl
    | columns names =>
      exact congrArg ConflictTarget.columns (map_map_congr fun s _ => hv.identifier s)
    | constraint name => exact congrArg ConflictTarget.constraint (hv.identifier name)
    | expr e => exact congrArg ConflictTarget.expr (e.veil_rewrite hv)
  have haction : (action.rewrite r).veil v = action.veil v := by
    cases action with
    | nothing => rfl
    | update updates filter =>
      simp only [ConflictAction.rewrite, ConflictAction.veil, map_veil_rewriteUpdates hv,
        Expr.veilOption_rewriteOption hv]
  simp only [Conflict.rewrite, Conflict.veil, htarget, haction, Expr.veilOption_rewriteOption hv]

theorem Insert.veil_rewrite (i : Insert) : (i.rewrite r).veil v = i.veil v := by
  have hcolumns : (i.columns.map (List.map r.identifier)).map (List.map v.identifier) =
      i.columns.map (List.map v.identifier) :=
    option_map_map_congr fun names _ => map_map_congr fun s _ => hv.identifier s
  simp only [Insert.rewrite, Insert.veil, hv.table, hcolumns,
    option_map_map_congr fun source _ => InsertSource.veil_rewrite hv source,
    option_map_map_congr fun c _ => Conflict.veil_rewrite hv c,
    option_map_map_congr fun updates _ => map_veil_rewriteUpdates hv updates,
    option_map_map_congr fun es _ => Expr.veilList_rewriteList hv es]

theorem Update.veil_rewrite (u : Update) : (u.rewrite r).veil v = u.veil v := by
  simp only [Update.rewrite, Update.veil, hv.table, map_veil_rewriteUpdates hv,
    Expr.veilOption_rewriteOption hv,
    option_map_map_congr fun es _ => Expr.veilList_rewriteList hv es]

theorem Delete.veil_rewrite (d : Delete) : (d.rewrite r).veil v = d.veil v := by
  simp only [Delete.rewrite, Delete.veil, hv.table, Expr.veilOption_rewriteOption hv,
    option_map_map_congr fun es _ => Expr.veilList_rewriteList hv es]

-- Behind a veil that hides what a rewriting changes, a statement looks the same.
theorem Query.veil_rewrite (q : Query) : (q.rewrite r).veil v = q.veil v := by
  cases q with
  | select s => exact congrArg Query.select (hv.hereditary.ofSelect s)
  | insert i => exact congrArg Query.insert (i.veil_rewrite hv)
  | update u => exact congrArg Query.update (u.veil_rewrite hv)
  | delete d => exact congrArg Query.delete (d.veil_rewrite hv)

end

end SqlWeave
