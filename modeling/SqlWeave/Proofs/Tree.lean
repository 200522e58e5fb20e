import Mathlib
import SqlWeave.Sql.OfQuery

/-!
# Induction over query trees

Expressions, sources and selects hold each other through lists and options, so the recursor that
comes with them is of little use.  This file proves one induction principle for all of them, in
which a case may assume the property of every member of a list, and turns the companions that
functions on trees have for lists into `List.map`.
-/

namespace SqlWeave

variable {P : Expr → Prop} {R : Source → Prop} {Q : Select → Prop}

/-- The parts of a select, clause by clause: expressions satisfy `P` and sources satisfy `R`. -/
structure Select.Parts (P : Expr → Prop) (R : Source → Prop) (s : Select) : Prop where
  sources : ∀ x ∈ s.sources, R x
  selections : ∀ e ∈ s.selections, P e
  joins : ∀ j ∈ s.joins, R j.source ∧ P j.on
  filter : ∀ e ∈ s.filter, P e
  groupBy : ∀ e ∈ s.groupBy, P e
  having : ∀ e ∈ s.having, P e
  orderBy : ∀ i ∈ s.orderBy, P i.expr
  limit : ∀ e ∈ s.limit, P e
  offset : ∀ e ∈ s.offset, P e
  explain : ∀ x ∈ s.explain, ∀ e ∈ x.options, P e

/-- Properties of expressions, sources and selects that a tree has once its parts have them. -/
structure Hereditary (P : Expr → Prop) (R : Source → Prop) (Q : Select → Prop) : Prop where
  reference : ∀ table column, P (.reference table column)
  value : ∀ v, P (.value v)
  raw : ∀ fragments params, (∀ e ∈ params, P e) → P (.raw fragments params)
  binary : ∀ left op right, P left → P right → P (.binary left op right)
  unary : ∀ op e, P e → P (.unary op e)
  call : ∀ name args, (∀ e ∈ args, P e) → P (.call name args)
  aliased : ∀ e label, P e → P (.aliased e label)
  list : ∀ items, (∀ e ∈ items, P e) → P (.list items)
  subquery : ∀ s, Q s → P (.subquery s)
  star : ∀ table, P (.star table)
  defaultMarker : P .defaultMarker
  table : ∀ t label, R (.table t label)
  derived : ∀ s label, Q s → R (.subquery s label)
  select : ∀ s, s.Parts P R → Q s

namespace Hereditary

mutual

theorem expr (h : Hereditary P R Q) : ∀ e, P e
  | .reference table column => h.reference table column
  | .value v => h.value v
  | .raw fragments params => h.raw fragments params (h.exprs params)
  | .binary left op right => h.binary left op right (h.expr left) (h.expr right)
  | .unary op e => h.unary op e (h.expr e)
  | .call name args => h.call name args (h.exprs args)
  | .aliased e label => h.aliased e label (h.expr e)
  | .list items => h.list items (h.exprs items)
  | .subquery s => h.subquery s (h.ofSelect s)
  | .star table => h.star table
  | .defaultMarker => h.defaultMarker

theorem exprs (h : Hereditary P R Q) : ∀ es : List Expr, ∀ e ∈ es, P e
  | [] => fun _ he => nomatch he
  | e :: rest => List.forall_mem_cons.mpr ⟨h.expr e, h.exprs rest⟩

theorem option (h : Hereditary P R Q) : ∀ o : Option Expr, ∀ e ∈ o, P e
  | none => fun _ he => nomatch he
  | some e => fun _ he => Option.some.inj he ▸ h.expr e

theorem source (h : Hereditary P R Q) : ∀ x, R x
  | .table t label => h.table t label
  | .subquery s label => h.derived s label (h.ofSelect s)

theorem sources (h : Hereditary P R Q) : ∀ xs : List Source, ∀ x ∈ xs, R x
  | [] => fun _ hx => nomatch hx
  | x :: rest => List.forall_mem_cons.mpr ⟨h.source x, h.sources rest⟩

theorem joins (h : Hereditary P R Q) : ∀ js : List Join, ∀ j ∈ js, R j.source ∧ P j.on
  | [] => fun _ hj => nomatch hj
  | ⟨_, x, e⟩ :: rest => List.forall_mem_cons.mpr ⟨⟨h.source x, h.expr e⟩, h.joins rest⟩

theorem items (h : Hereditary P R Q) : ∀ is : List OrderItem, ∀ i ∈ is, P i.expr
  | [] => fun _ hi => nomatch hi
  | ⟨e, _⟩ :: rest => List.forall_mem_cons.mpr ⟨h.expr e, h.items rest⟩

theorem explain (h : Hereditary P R Q) : ∀ o : Option Explain, ∀ x ∈ o, ∀ e ∈ x.options, P e
  | none => fun _ hx => nomatch hx
  | some ⟨_, options⟩ => fun _ hx => Option.some.inj hx ▸ h.option options

theorem ofSelect (h : Hereditary P R Q) : ∀ s, Q s
  | ⟨sources, selections, _, joins, filter, groupBy, having, orderBy, limit, offset, explain⟩ =>
    h.select _
      { sources := h.sources sources
        selections := h.exprs selections
        joins := h.joins joins
        filter := h.option filter
        groupBy := h.exprs groupBy
        having := h.option having
        orderBy := h.items orderBy
        limit := h.option limit
        offset := h.option offset
        explain := h.explain explain }

end

end Hereditary

/-! ## Lists as maps -/

@[simp] theorem Expr.piecesOfList_eq_map (es : List Expr) :
    Expr.piecesOfList es = es.map Expr.pieces := by
  induction es with
  | nil => rfl
  | cons e rest ih => rw [Expr.piecesOfList, ih, List.map_cons]

@[simp] theorem Source.piecesOfList_eq_map (xs : List Source) :
    Source.piecesOfList xs = xs.map Source.pieces := by
  induction xs with
  | nil => rfl
  | cons x rest ih => rw [Source.piecesOfList, ih, List.map_cons]

@[simp] theorem OrderItem.piecesOfList_eq_map (is : List OrderItem) :
    OrderItem.piecesOfList is = is.map OrderItem.pieces := by
  induction is with
  | nil => rfl
  | cons i rest ih => rw [OrderItem.piecesOfList, ih, List.map_cons]

@[simp] theorem Join.piecesOfList_eq_flatMap (js : List Join) :
    Join.piecesOfList js = js.flatMap (fun j => .text " " :: j.pieces) := by
  induction js with
  | nil => rfl
  | cons j rest ih => rw [Join.piecesOfList, ih, List.flatMap_cons]

theorem Join.pieces_eq (j : Join) :
    j.pieces = .require .join :: .text j.kind.sql :: .text " " :: j.source.pieces ++
      .text " ON " :: j.on.pieces := by
  cases j
  rw [Join.pieces]

theorem OrderItem.pieces_eq (i : OrderItem) :
    i.pieces = .require .orderBy :: i.expr.pieces ++ Direction.sql i.direction := by
  cases i
  rw [OrderItem.pieces]

theorem isKeywordNull_iff (op : BinaryOp) (right : Expr) :
    isKeywordNull op right = true ↔ op.isNullTest = true ∧ right = .value .null := by
  unfold isKeywordNull
  split
  · exact ⟨fun h => ⟨h, rfl⟩, fun h => h.1⟩
  · next hne => exact ⟨fun h => absurd h (by decide), fun h => absurd h.2 hne⟩

theorem Query.rootPieces_eq_append (q : Query) :
    q.rootPieces = q.explain.elim [] Explain.pieces ++ q.pieces := by
  unfold rootPieces
  cases q.explain <;> rfl

/-! ## Properties of every expression of a tree -/

mutual

/-- Every expression in the expression, itself included, satisfies `p`. -/
def Expr.Everywhere (p : Expr → Prop) : Expr → Prop
  | .reference table column => p (.reference table column)
  | .value v => p (.value v)
  | .raw fragments params => p (.raw fragments params) ∧ Expr.EverywhereList p params
  | .binary left op right => p (.binary left op right) ∧ left.Everywhere p ∧ right.Everywhere p
  | .unary op e => p (.unary op e) ∧ e.Everywhere p
  | .call name args => p (.call name args) ∧ Expr.EverywhereList p args
  | .aliased e label => p (.aliased e label) ∧ e.Everywhere p
  | .list items => p (.list items) ∧ Expr.EverywhereList p items
  | .subquery s => p (.subquery s) ∧ s.Everywhere p
  | .star table => p (.star table)
  | .defaultMarker => p .defaultMarker

def Expr.EverywhereList (p : Expr → Prop) : List Expr → Prop
  | [] => True
  | e :: rest => e.Everywhere p ∧ Expr.EverywhereList p rest

def Expr.EverywhereOption (p : Expr → Prop) : Option Expr → Prop
  | none => True
  | some e => e.Everywhere p

def Source.Everywhere (p : Expr → Prop) : Source → Prop
  | .table _ _ => True
  | .subquery s _ => s.Everywhere p

def Source.EverywhereList (p : Expr → Prop) : List Source → Prop
  | [] => True
  | x :: rest => x.Everywhere p ∧ Source.EverywhereList p rest

def Join.EverywhereList (p : Expr → Prop) : List Join → Prop
  | [] => True
  | ⟨_, x, e⟩ :: rest => (x.Everywhere p ∧ e.Everywhere p) ∧ Join.EverywhereList p rest

def OrderItem.EverywhereList (p : Expr → Prop) : List OrderItem → Prop
  | [] => True
  | ⟨e, _⟩ :: rest => e.Everywhere p ∧ OrderItem.EverywhereList p rest

def Explain.EverywhereOption (p : Expr → Prop) : Option Explain → Prop
  | none => True
  | some ⟨_, options⟩ => Expr.EverywhereOption p options

/-- Every expression in the select satisfies `p`. -/
def Select.Everywhere (p : Expr → Prop) : Select → Prop
  | ⟨sources, selections, _, joins, filter, groupBy, having, orderBy, limit, offset, explain⟩ =>
    Source.EverywhereList p sources ∧ Expr.EverywhereList p selections ∧
      Join.EverywhereList p joins ∧ Expr.EverywhereOption p filter ∧
      Expr.EverywhereList p groupBy ∧ Expr.EverywhereOption p having ∧
      OrderItem.EverywhereList p orderBy ∧ Expr.EverywhereOption p limit ∧
      Expr.EverywhereOption p offset ∧ Explain.EverywhereOption p explain

end

section Everywhere

variable {p : Expr → Prop}

@[simp] theorem Expr.everywhereList_iff (es : List Expr) :
    Expr.EverywhereList p es ↔ ∀ e ∈ es, e.Everywhere p := by
  induction es with
  | nil => simp [Expr.EverywhereList]
  | cons e rest ih => rw [Expr.EverywhereList, ih, List.forall_mem_cons]

@[simp] theorem Expr.everywhereOption_iff (o : Option Expr) :
    Expr.EverywhereOption p o ↔ ∀ e ∈ o, e.Everywhere p := by
  cases o <;> simp [Expr.EverywhereOption]

@[simp] theorem Source.everywhereList_iff (xs : List Source) :
    Source.EverywhereList p xs ↔ ∀ x ∈ xs, x.Everywhere p := by
  induction xs with
  | nil => simp [Source.EverywhereList]
  | cons x rest ih => rw [Source.EverywhereList, ih, List.forall_mem_cons]

@[simp] theorem Join.everywhereList_iff (js : List Join) :
    Join.EverywhereList p js ↔ ∀ j ∈ js, j.source.Everywhere p ∧ j.on.Everywhere p := by
  induction js with
  | nil => simp [Join.EverywhereList]
  | cons j rest ih =>
    cases j
    rw [Join.EverywhereList, ih, List.forall_mem_cons]

@[simp] theorem OrderItem.everywhereList_iff (is : List OrderItem) :
    OrderItem.EverywhereList p is ↔ ∀ i ∈ is, i.expr.Everywhere p := by
  induction is with
  | nil => simp [OrderItem.EverywhereList]
  | cons i rest ih =>
    cases i
    rw [OrderItem.EverywhereList, ih, List.forall_mem_cons]

@[simp] theorem Explain.everywhereOption_iff (o : Option Explain) :
    Explain.EverywhereOption p o ↔ ∀ x ∈ o, ∀ e ∈ x.options, e.Everywhere p := by
  rcases o with _ | ⟨format, options⟩ <;> simp [Explain.EverywhereOption]

theorem Select.everywhere_iff (s : Select) :
    s.Everywhere p ↔ s.Parts (Expr.Everywhere p) (Source.Everywhere p) := by
  cases s
  rw [Select.Everywhere]
  simp only [Expr.everywhereList_iff, Expr.everywhereOption_iff, Source.everywhereList_iff,
    Join.everywhereList_iff, OrderItem.everywhereList_iff, Explain.everywhereOption_iff]
  constructor
  · rintro ⟨h1, h2, h3, h4, h5, h6, h7, h8, h9, h10⟩
    exact ⟨h1, h2, h3, h4, h5, h6, h7, h8, h9, h10⟩
  · rintro ⟨h1, h2, h3, h4, h5, h6, h7, h8, h9, h10⟩
    exact ⟨h1, h2, h3, h4, h5, h6, h7, h8, h9, h10⟩

end Everywhere

/-! ## Statements -/

def InsertSource.exprs : InsertSource → List Expr
  | .rows cells => cells.flatten
  | .expr e => [e]
  | .defaults => []

def ConflictTarget.exprs : ConflictTarget → List Expr
  | .expr e => [e]
  | _ => []

def ConflictAction.exprs : ConflictAction → List Expr
  | .nothing => []
  | .update updates filter => updates.map ColumnUpdate.value ++ filter.toList

def Conflict.exprs (c : Conflict) : List Expr :=
  c.target.exprs ++ c.indexFilter.toList ++ c.action.exprs

def Insert.exprs (i : Insert) : List Expr :=
  i.source.toList.flatMap InsertSource.exprs ++ i.onConflict.toList.flatMap Conflict.exprs ++
    (i.onDuplicateKey.getD []).map ColumnUpdate.value ++ i.returning.getD []

def Update.exprs (u : Update) : List Expr :=
  u.updates.map ColumnUpdate.value ++ u.filter.toList ++ u.returning.getD []

def Delete.exprs (d : Delete) : List Expr := d.filter.toList ++ d.returning.getD []

/-- Every expression in the statement satisfies `p`, those of a request to explain it included. -/
def Query.Everywhere (p : Expr → Prop) (q : Query) : Prop :=
  (∀ x ∈ q.explain, ∀ e ∈ x.options, e.Everywhere p) ∧
    match q with
    | .select s => s.Everywhere p
    | .insert i => ∀ e ∈ i.exprs, e.Everywhere p
    | .update u => ∀ e ∈ u.exprs, e.Everywhere p
    | .delete d => ∀ e ∈ d.exprs, e.Everywhere p

end SqlWeave
