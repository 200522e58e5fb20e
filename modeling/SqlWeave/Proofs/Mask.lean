import SqlWeave.Proofs.Leaf

/-!
# Masks over trees

A mask hides the values or the names of a tree and leaves its shape.  Two trees that look the same
behind a mask differ in what it hides and in nothing else.  Nulls to the right of `IS` show through
a mask, because they are keywords there.
-/

namespace SqlWeave

/-- What names and values look like behind a mask. -/
structure Mask where
  name : String → String
  value : Value → Value
  value_ne_null : ∀ v, v ≠ .null → value v ≠ .null

namespace Mask

/-- Hide all values. -/
def values : Mask := ⟨id, fun _ => .bool true, fun _ _ => nofun⟩

/-- Hide all names. -/
def names : Mask := ⟨fun _ => "", id, fun _ h => h⟩

/-- A value that may stand to the right of `IS`. -/
def operand (m : Mask) (nullTest : Bool) (v : Value) : Value :=
  match nullTest, v with
  | true, .null => .null
  | _, v => m.value v

end Mask

def Table.mask (m : Mask) (t : Table) : Table := t.mapNames m.name

mutual

/-- An expression behind a mask; the flag says whether it stands to the right of `IS`. -/
def Expr.mask (m : Mask) (nullTest : Bool) : Expr → Expr
  | .reference table column => .reference (table.map (Table.mask m)) (m.name column)
  | .value v => .value (m.operand nullTest v)
  | .raw fragments params => .raw fragments (Expr.maskList m params)
  | .binary left op right => .binary (left.mask m false) op (right.mask m op.isNullTest)
  | .unary op e => .unary op (e.mask m false)
  | .call name args => .call name (Expr.maskList m args)
  | .aliased e label => .aliased (e.mask m false) (m.name label)
  | .list items => .list (Expr.maskList m items)
  | .subquery s => .subquery (s.mask m)
  | .star table => .star (table.map (Table.mask m))
  | .defaultMarker => .defaultMarker

def Expr.maskList (m : Mask) : List Expr → List Expr
  | [] => []
  | e :: rest => e.mask m false :: Expr.maskList m rest

def Expr.maskOption (m : Mask) : Option Expr → Option Expr
  | none => none
  | some e => some (e.mask m false)

def Source.mask (m : Mask) : Source → Source
  | .table t label => .table (t.mask m) (label.map m.name)
  | .subquery s label => .subquery (s.mask m) (m.name label)

def Source.maskList (m : Mask) : List Source → List Source
  | [] => []
  | x :: rest => x.mask m :: Source.maskList m rest

def Join.maskList (m : Mask) : List Join → List Join
  | [] => []
  | ⟨kind, x, e⟩ :: rest => ⟨kind, x.mask m, e.mask m false⟩ :: Join.maskList m rest

def OrderItem.maskList (m : Mask) : List OrderItem → List OrderItem
  | [] => []
  | ⟨e, direction⟩ :: rest => ⟨e.mask m false, direction⟩ :: OrderItem.maskList m rest

def Explain.maskOption (m : Mask) : Option Explain → Option Explain
  | none => none
  | some ⟨format, options⟩ => some ⟨format, Expr.maskOption m options⟩

def Select.mask (m : Mask) : Select → Select
  | ⟨sources, selections, distinct, joins, filter, groupBy, having, orderBy, limit, offset,
      explain⟩ =>
    ⟨Source.maskList m sources, Expr.maskList m selections, distinct, Join.maskList m joins,
      Expr.maskOption m filter, Expr.maskList m groupBy, Expr.maskOption m having,
      OrderItem.maskList m orderBy, Expr.maskOption m limit, Expr.maskOption m offset,
      Explain.maskOption m explain⟩

end

section

variable (m : Mask)

def ColumnUpdate.mask (u : ColumnUpdate) : ColumnUpdate := ⟨m.name u.column, u.value.mask m false⟩

def InsertSource.mask : InsertSource → InsertSource
  | .rows cells => .rows (cells.map (Expr.maskList m))
  | .expr e => .expr (e.mask m false)
  | .defaults => .defaults

def ConflictTarget.mask : ConflictTarget → ConflictTarget
  | .unspecified => .unspecified
  | .columns names => .columns (names.map m.name)
  | .constraint name => .constraint (m.name name)
  | .expr e => .expr (e.mask m false)

def ConflictAction.mask : ConflictAction → ConflictAction
  | .nothing => .nothing
  | .update updates filter =>
    .update (updates.map (ColumnUpdate.mask m)) (Expr.maskOption m filter)

def Conflict.mask (c : Conflict) : Conflict :=
  ⟨c.target.mask m, Expr.maskOption m c.indexFilter, c.action.mask m⟩

def Insert.mask (i : Insert) : Insert where
  into := i.into.mask m
  columns := i.columns.map (List.map m.name)
  source := i.source.map (InsertSource.mask m)
  ignore := i.ignore
  replace := i.replace
  onConflict := i.onConflict.map (Conflict.mask m)
  onDuplicateKey := i.onDuplicateKey.map (List.map (ColumnUpdate.mask m))
  returning := i.returning.map (Expr.maskList m)
  explain := Explain.maskOption m i.explain

def Update.mask (u : Update) : Update where
  table := u.table.mask m
  updates := u.updates.map (ColumnUpdate.mask m)
  filter := Expr.maskOption m u.filter
  returning := u.returning.map (Expr.maskList m)
  explain := Explain.maskOption m u.explain

def Delete.mask (d : Delete) : Delete where
  source := d.source.mask m
  filter := Expr.maskOption m d.filter
  returning := d.returning.map (Expr.maskList m)
  explain := Explain.maskOption m d.explain

/-- A statement behind a mask. -/
def Query.mask : Query → Query
  | .select s => .select (s.mask m)
  | .insert i => .insert (i.mask m)
  | .update u => .update (u.mask m)
  | .delete d => .delete (d.mask m)

end

section

variable (m : Mask)

@[simp] theorem Expr.maskList_eq_map (es : List Expr) :
    Expr.maskList m es = es.map (Expr.mask m false) := by
  induction es with
  | nil => rfl
  | cons e rest ih => exact congrArg (e.mask m false :: ·) ih

@[simp] theorem Expr.maskOption_eq_map (o : Option Expr) :
    Expr.maskOption m o = o.map (Expr.mask m false) := by
  cases o <;> rfl

@[simp] theorem Source.maskList_eq_map (xs : List Source) :
    Source.maskList m xs = xs.map (Source.mask m) := by
  induction xs with
  | nil => rfl
  | cons x rest ih => exact congrArg (x.mask m :: ·) ih

@[simp] theorem Join.maskList_eq_map (js : List Join) :
    Join.maskList m js = js.map fun j => ⟨j.kind, j.source.mask m, j.on.mask m false⟩ := by
  induction js with
  | nil => rfl
  | cons j rest ih =>
    cases j
    exact congrArg (_ :: ·) ih

@[simp] theorem OrderItem.maskList_eq_map (is : List OrderItem) :
    OrderItem.maskList m is = is.map fun i => ⟨i.expr.mask m false, i.direction⟩ := by
  induction is with
  | nil => rfl
  | cons i rest ih =>
    cases i
    exact congrArg (_ :: ·) ih

end

/-! ## Pieces behind a mask -/

def ShapeFault.mask (m : Mask) : ShapeFault → ShapeFault
  | .noSource table => .noSource (m.name table)
  | .noUpdates table => .noUpdates (m.name table)
  | fault => fault

def Piece.mask (m : Mask) : Piece → Piece
  | .name s => .name (m.name s)
  | .param v => .param (m.value v)
  | .refuse fault => .refuse (fault.mask m)
  | piece => piece

section

variable (m : Mask)

namespace Piece

@[simp] theorem map_separated (separator : String) (groups : List (List Piece)) :
    (separated separator groups).map (mask m) =
      separated separator (groups.map (List.map (mask m))) := by
  induction groups with
  | nil => rfl
  | cons group rest ih =>
    cases rest with
    | nil => rfl
    | cons next rest =>
      have hsplit : separated separator (group :: next :: rest) =
          group ++ .text separator :: separated separator (next :: rest) := rfl
      rw [hsplit, List.map_append, List.map_cons, ih]
      rfl

@[simp] theorem map_interleaved (fragments : List String) (groups : List (List Piece)) :
    (interleaved fragments groups).map (mask m) =
      interleaved fragments (groups.map (List.map (mask m))) := by
  induction fragments generalizing groups with
  | nil => rfl
  | cons fragment fragments ih =>
    cases groups with
    | nil =>
      rw [interleaved, List.map_cons, ih]
      rfl
    | cons group groups =>
      rw [interleaved, List.map_cons, List.map_append, ih]
      rfl

@[simp] theorem map_parenthesized (pieces : List Piece) :
    (parenthesized pieces).map (mask m) = parenthesized (pieces.map (mask m)) := by
  rw [parenthesized, List.cons_append, List.map_cons, List.map_append]
  rfl

@[simp] theorem map_nameList (names : List String) :
    (nameList names).map (mask m) = nameList (names.map m.name) := by
  rw [nameList, map_separated, List.map_map, nameList, List.map_map]
  rfl

@[simp] theorem map_listClause (keyword : String) (groups : List (List Piece)) :
    (listClause keyword groups).map (mask m) =
      listClause keyword (groups.map (List.map (mask m))) := by
  cases groups with
  | nil => rfl
  | cons group rest =>
    rw [listClause, if_neg (by simp), List.map_cons, map_separated]
    rfl

end Piece

@[simp] theorem Table.pieces_mask (t : Table) :
    (t.mask m).pieces = t.pieces.map (Piece.mask m) := by
  rcases t with ⟨_ | schema, name⟩ <;> rfl

@[simp] theorem Table.qualifier_mask (t : Option Table) :
    Table.qualifier (t.map (Table.mask m)) = (Table.qualifier t).map (Piece.mask m) := by
  cases t with
  | none => rfl
  | some t =>
    rw [Option.map_some, Table.qualifier, Table.pieces_mask, Table.qualifier, List.map_append]
    rfl

@[simp] theorem Direction.sql_mask (d : Option Direction) :
    (Direction.sql d).map (Piece.mask m) = Direction.sql d := by
  rcases d with _ | _ | _ <;> rfl

@[simp] theorem Expr.isBareOperation_mask (nullTest : Bool) (e : Expr) :
    (e.mask m nullTest).isBareOperation = e.isBareOperation := by
  cases e <;> rw [Expr.mask] <;> rfl

theorem Mask.operand_of_ne_null (nullTest : Bool) {v : Value} (h : v ≠ .null) :
    m.operand nullTest v = m.value v := by
  unfold Mask.operand
  split
  · exact absurd rfl h
  · rfl

theorem Expr.mask_eq_null_iff (e : Expr) : e.mask m true = .value .null ↔ e = .value .null := by
  constructor
  · intro h
    cases e with
    | value v =>
      rw [Expr.mask] at h
      by_cases hv : v = .null
      · rw [hv]
      · rw [m.operand_of_ne_null true hv] at h
        exact absurd (Expr.value.inj h) (m.value_ne_null v hv)
    | _ =>
      rw [Expr.mask] at h
      exact nomatch h
  · intro h
    rw [h, Expr.mask]
    rfl

-- The null that is written as a keyword shows through a mask, and nothing else looks like it.
theorem isKeywordNull_mask (op : BinaryOp) (right : Expr) :
    isKeywordNull op (right.mask m op.isNullTest) = isKeywordNull op right := by
  rw [Bool.eq_iff_iff, isKeywordNull_iff, isKeywordNull_iff]
  refine and_congr_right fun hop => ?_
  rw [hop]
  exact right.mask_eq_null_iff m

theorem Expr.clause_mask (opening : List Piece) {o : Option Expr}
    (hopening : opening.map (Piece.mask m) = opening)
    (h : ∀ e ∈ o, (e.mask m false).pieces = e.pieces.map (Piece.mask m)) :
    Expr.clause opening (o.map (Expr.mask m false)) =
      (Expr.clause opening o).map (Piece.mask m) := by
  cases o with
  | none => rfl
  | some e =>
    rw [Option.map_some, Expr.clause, Expr.clause, h e rfl, List.map_append, hopening]

theorem map_pieces_mask {α : Type} {f : α → List Piece} {hide : α → α} {xs : List α}
    (h : ∀ x ∈ xs, f (hide x) = (f x).map (Piece.mask m)) :
    (xs.map hide).map f = (xs.map f).map (List.map (Piece.mask m)) := by
  rw [List.map_map, List.map_map]
  exact List.map_congr_left h

theorem Expr.operand_mask {e : Expr} {nullTest : Bool}
    (h : (e.mask m nullTest).pieces = e.pieces.map (Piece.mask m)) :
    operand (e.mask m nullTest) (e.mask m nullTest).pieces =
      (operand e e.pieces).map (Piece.mask m) := by
  unfold operand
  rw [isBareOperation_mask, h]
  split
  · rw [Piece.map_parenthesized]
  · rfl

/-- Behind a mask an expression is written with the same pieces, unless it is a null that becomes a
keyword. -/
def Expr.KeepsPieces (e : Expr) : Prop :=
  ∀ nullTest, (nullTest = true → e ≠ .value .null) →
    (e.mask m nullTest).pieces = e.pieces.map (Piece.mask m)

variable {m} in
theorem Expr.KeepsPieces.pieces_eq {e : Expr} (h : e.KeepsPieces m) :
    (e.mask m false).pieces = e.pieces.map (Piece.mask m) :=
  h false fun hfalse => absurd hfalse Bool.false_ne_true

theorem Expr.mask_hereditary :
    Hereditary (Expr.KeepsPieces m)
      (fun x => (x.mask m).pieces = x.pieces.map (Piece.mask m))
      (fun s => (s.mask m).pieces = s.pieces.map (Piece.mask m)) where
  reference table column := by
    intro _ _
    rw [Expr.mask, Expr.pieces, Expr.pieces, Table.qualifier_mask, List.cons_append,
      List.cons_append, List.map_cons, List.map_append]
    rfl
  value v := by
    intro nullTest hv
    have hoperand : m.operand nullTest v = m.value v := by
      cases nullTest with
      | false => rfl
      | true => exact m.operand_of_ne_null true fun h => hv rfl (congrArg Expr.value h)
    rw [Expr.mask, Expr.pieces, Expr.pieces, hoperand]
    rfl
  raw fragments params h := by
    intro _ _
    rw [Expr.mask, Expr.pieces, Expr.pieces, Expr.maskList_eq_map, Expr.piecesOfList_eq_map,
      Expr.piecesOfList_eq_map, List.map_cons, Piece.map_interleaved,
      map_pieces_mask m fun e he => (h e he).pieces_eq]
    rfl
  binary left op right hl hr := by
    intro _ _
    have hleft := hl.pieces_eq
    have hright : (if isKeywordNull op right then [.text "NULL"]
        else if op.isLogical then (right.mask m op.isNullTest).pieces
        else operand (right.mask m op.isNullTest) (right.mask m op.isNullTest).pieces) =
        (if isKeywordNull op right then [.text "NULL"]
          else if op.isLogical then right.pieces
          else operand right right.pieces).map (Piece.mask m) := by
      by_cases hk : isKeywordNull op right = true
      · rw [if_pos hk, if_pos hk]
        rfl
      · have h := hr op.isNullTest fun hop hnull =>
          hk ((isKeywordNull_iff op right).mpr ⟨hop, hnull⟩)
        rw [if_neg hk, if_neg hk, Expr.operand_mask m h, h]
        split <;> rfl
    rw [Expr.mask, Expr.pieces, Expr.pieces, isKeywordNull_mask, hright, List.map_cons]
    by_cases hop : op.isLogical = true
    · simp only [if_pos hop, Piece.map_parenthesized, List.map_append, hleft]
      rfl
    · simp only [if_neg hop, List.map_append, Expr.operand_mask m hleft]
      rfl
  unary op e h := by
    intro _ _
    rw [Expr.mask, Expr.pieces, Expr.pieces, Expr.operand_mask m h.pieces_eq, List.map_cons,
      List.map_cons]
    rfl
  call name args h := by
    intro _ _
    rw [Expr.mask, Expr.pieces, Expr.pieces, Expr.maskList_eq_map, Expr.piecesOfList_eq_map,
      Expr.piecesOfList_eq_map, List.map_cons, List.map_cons, Piece.map_parenthesized,
      Piece.map_separated, map_pieces_mask m fun e he => (h e he).pieces_eq]
    rfl
  aliased e label h := by
    intro _ _
    rw [Expr.mask, Expr.pieces, Expr.pieces, h.pieces_eq, List.map_append, List.map_cons]
    rfl
  list items h := by
    intro _ _
    rw [Expr.mask, Expr.pieces, Expr.pieces, Expr.maskList_eq_map, Expr.piecesOfList_eq_map,
      Expr.piecesOfList_eq_map, List.map_cons, Piece.map_parenthesized, Piece.map_separated,
      map_pieces_mask m fun e he => (h e he).pieces_eq]
    rfl
  subquery s h := by
    intro _ _
    rw [Expr.mask, Expr.pieces, Expr.pieces, h, Piece.map_parenthesized]
  star table := by
    intro _ _
    rw [Expr.mask, Expr.pieces, Expr.pieces, Table.qualifier_mask, List.map_append]
    rfl
  defaultMarker := by
    intro _ _
    rw [Expr.mask, Expr.pieces]
    rfl
  table t label := by
    cases label <;>
      rw [Source.mask, Option.map, Source.pieces, Source.pieces, Table.pieces_mask,
        List.map_append, List.map_cons] <;> rfl
  derived s label h := by
    rw [Source.mask, Source.pieces, Source.pieces, h, List.map_append, List.map_cons]
    rfl
  select s h := by
    obtain ⟨sources, selections, distinct, joins, filter, groupBy, having, orderBy, limit, offset,
      explain⟩ := s
    have hselections : (if (selections.map (Expr.mask m false)).isEmpty then [Piece.text "*"]
        else Piece.separated ", " ((selections.map (Expr.mask m false)).map Expr.pieces)) =
        (if selections.isEmpty then [.text "*"]
          else Piece.separated ", " (selections.map Expr.pieces)).map (Piece.mask m) := by
      rw [List.isEmpty_map, map_pieces_mask m fun e he => (h.selections e he).pieces_eq]
      split
      · rfl
      · rw [Piece.map_separated]
    have hdistinct : (if distinct then [Piece.text "DISTINCT "] else []) =
        (if distinct then [.text "DISTINCT "] else []).map (Piece.mask m) := by
      split <;> rfl
    have hjoins :
        ((joins.map fun j => (⟨j.kind, j.source.mask m, j.on.mask m false⟩ : Join)).flatMap
          fun j => .text " " :: j.pieces) =
        (joins.flatMap fun j => .text " " :: j.pieces).map (Piece.mask m) := by
      rw [List.flatMap_map, List.map_flatMap]
      refine List.flatMap_congr fun j hj => ?_
      rw [Join.pieces_eq, Join.pieces_eq, (h.joins j hj).1, (h.joins j hj).2.pieces_eq]
      simp [Piece.mask]
    have horderBy : ((orderBy.map fun i => (⟨i.expr.mask m false, i.direction⟩ : OrderItem)).map
        OrderItem.pieces) = (orderBy.map OrderItem.pieces).map (List.map (Piece.mask m)) := by
      refine map_pieces_mask m fun i hi => ?_
      rw [OrderItem.pieces_eq, OrderItem.pieces_eq, (h.orderBy i hi).pieces_eq]
      simp [Piece.mask]
    rw [Select.mask, Select.pieces, Select.pieces]
    simp only [Expr.maskList_eq_map, Expr.maskOption_eq_map, Source.maskList_eq_map,
      Join.maskList_eq_map, OrderItem.maskList_eq_map, Expr.piecesOfList_eq_map,
      Source.piecesOfList_eq_map, OrderItem.piecesOfList_eq_map, Join.piecesOfList_eq_flatMap,
      hselections, hjoins, horderBy, map_pieces_mask m h.sources,
      map_pieces_mask m fun e he => (h.groupBy e he).pieces_eq,
      Expr.clause_mask m [.text " WHERE "] rfl fun e he => (h.filter e he).pieces_eq,
      Expr.clause_mask m [.text " HAVING "] rfl fun e he => (h.having e he).pieces_eq,
      Expr.clause_mask m [.require .limit, .text " LIMIT "] rfl
        fun e he => (h.limit e he).pieces_eq,
      Expr.clause_mask m [.require .offset, .text " OFFSET "] rfl
        fun e he => (h.offset e he).pieces_eq,
      List.map_append, Piece.map_listClause, List.map_cons, ← hdistinct]
    rfl

@[simp] theorem Expr.pieces_mask (e : Expr) :
    (e.mask m false).pieces = e.pieces.map (Piece.mask m) :=
  ((Expr.mask_hereditary m).expr e).pieces_eq

@[simp] theorem Select.pieces_mask (s : Select) :
    (s.mask m).pieces = s.pieces.map (Piece.mask m) :=
  (Expr.mask_hereditary m).ofSelect s

@[simp] theorem whereClause_mask (o : Option Expr) :
    Expr.clause [.text " WHERE "] (o.map (Expr.mask m false)) =
      (Expr.clause [.text " WHERE "] o).map (Piece.mask m) :=
  Expr.clause_mask m _ rfl fun e _ => e.pieces_mask m

@[simp] theorem columnList_mask (columns : List String) :
    columnList (columns.map m.name) = (columnList columns).map (Piece.mask m) := by
  rw [columnList, columnList, List.map_append, List.map_cons, Piece.map_nameList]
  rfl

@[simp] theorem ColumnUpdate.pieces_mask (u : ColumnUpdate) :
    (u.mask m).pieces = u.pieces.map (Piece.mask m) := by
  rw [ColumnUpdate.mask, ColumnUpdate.pieces, ColumnUpdate.pieces, Expr.pieces_mask]
  rfl

@[simp] theorem updateList_mask (updates : List ColumnUpdate) :
    updateList (updates.map (ColumnUpdate.mask m)) = (updateList updates).map (Piece.mask m) := by
  rw [updateList, updateList, Piece.map_separated, map_pieces_mask m fun u _ => u.pieces_mask m]

@[simp] theorem returningClause_mask (returning : Option (List Expr)) :
    returningClause (returning.map (Expr.maskList m)) =
      (returningClause returning).map (Piece.mask m) := by
  cases returning with
  | none => rfl
  | some selections =>
    rw [Option.map_some, returningClause, returningClause, Expr.maskList_eq_map,
      Expr.piecesOfList_eq_map, Expr.piecesOfList_eq_map,
      map_pieces_mask m fun e _ => e.pieces_mask m, List.map_cons, List.map_cons,
      Piece.map_separated]
    rfl

@[simp] theorem ConflictTarget.pieces_mask (target : ConflictTarget) :
    (target.mask m).pieces = target.pieces.map (Piece.mask m) := by
  cases target with
  | unspecified => rfl
  | columns names => rw [ConflictTarget.mask, pieces, pieces, columnList_mask]
  | constraint name => rfl
  | expr e =>
    rw [ConflictTarget.mask, pieces, pieces, Expr.pieces_mask, List.map_append]
    rfl

@[simp] theorem ConflictAction.pieces_mask (action : ConflictAction) :
    (action.mask m).pieces = action.pieces.map (Piece.mask m) := by
  cases action with
  | nothing => rfl
  | update updates filter =>
    rw [ConflictAction.mask, pieces, pieces, updateList_mask, Expr.maskOption_eq_map,
      whereClause_mask, List.map_append]
    rfl

theorem Conflict.pieces_mask (c : Conflict) :
    (c.mask m).pieces = c.pieces.map (Piece.mask m) := by
  rw [Conflict.mask, pieces, pieces, ConflictTarget.pieces_mask, Expr.maskOption_eq_map,
    whereClause_mask, ConflictAction.pieces_mask, List.map_append, List.map_append]
  rfl

theorem rowsPieces_mask (cells : List (List Expr)) :
    rowsPieces (cells.map (Expr.maskList m)) = (rowsPieces cells).map (Piece.mask m) := by
  have hrow : ∀ row ∈ cells, Piece.separated ", " (Expr.piecesOfList (Expr.maskList m row)) =
      (Piece.separated ", " (Expr.piecesOfList row)).map (Piece.mask m) := by
    intro row _
    rw [Expr.maskList_eq_map, Expr.piecesOfList_eq_map, Expr.piecesOfList_eq_map,
      map_pieces_mask m fun e _ => e.pieces_mask m, Piece.map_separated]
  rw [rowsPieces, rowsPieces, List.map_append, List.map_cons, List.map_cons, Piece.map_separated,
    map_pieces_mask m hrow]
  rfl

namespace Insert

theorem writtenColumns_mask (i : Insert) :
    (i.mask m).writtenColumns = i.writtenColumns.map m.name := by
  unfold writtenColumns Insert.mask
  cases i.columns <;> rfl

theorem sourceExpr_mask (e : Expr) :
    sourceExpr (e.mask m false) = (sourceExpr e).map (Piece.mask m) := by
  have h := e.pieces_mask m
  cases e with
  | subquery s =>
    rw [Expr.mask]
    exact s.pieces_mask m
  | _ => exact h

theorem sourcePieces_mask (i : Insert) :
    (i.mask m).sourcePieces = i.sourcePieces.map (Piece.mask m) := by
  have hsource : (i.mask m).source = i.source.map (InsertSource.mask m) := rfl
  have hinto : (i.mask m).into.name = m.name i.into.name := rfl
  unfold sourcePieces
  rw [writtenColumns_mask, hsource, hinto]
  cases hs : i.source with
  | none => cases i.writtenColumns <;> rfl
  | some source =>
    cases source with
    | defaults => cases i.writtenColumns <;> rfl
    | rows cells =>
      cases hc : i.writtenColumns with
      | nil => rfl
      | cons column columns =>
        simp only [Option.map_some, InsertSource.mask, List.map_cons, List.map_append,
          rowsPieces_mask, ← columnList_mask]
        rfl
    | expr e =>
      cases hc : i.writtenColumns with
      | nil =>
        simp only [Option.map_some, InsertSource.mask, List.map_nil, List.map_cons, sourceExpr_mask]
        rfl
      | cons column columns =>
        simp only [Option.map_some, InsertSource.mask, List.map_cons, List.map_append,
          sourceExpr_mask, ← columnList_mask]
        rfl

theorem pieces_mask (i : Insert) : (i.mask m).pieces = i.pieces.map (Piece.mask m) := by
  have hverb : (if i.replace then [Piece.require .replace, .text "REPLACE"]
      else [.text "INSERT"]).map (Piece.mask m) =
        if i.replace then [.require .replace, .text "REPLACE"] else [.text "INSERT"] := by
    split <;> rfl
  have hignore : (if i.ignore then [Piece.require .insertIgnore, .text " ", .ignoreKeyword]
      else []).map (Piece.mask m) =
        if i.ignore then [.require .insertIgnore, .text " ", .ignoreKeyword] else [] := by
    split <;> rfl
  unfold Insert.pieces
  rw [List.map_append, List.map_append, List.map_append]
  refine congrArg₂ HAppend.hAppend (congrArg₂ HAppend.hAppend
    (congrArg₂ HAppend.hAppend ?_ ?_) ?_) (returningClause_mask m i.returning)
  · simp only [List.map_append, List.map_cons, hverb, hignore, ← sourcePieces_mask,
      ← Table.pieces_mask]
    rfl
  · have hconflict : (i.mask m).onConflict = i.onConflict.map (Conflict.mask m) := rfl
    rw [hconflict]
    cases i.onConflict with
    | none => rfl
    | some c => exact c.pieces_mask m
  · have hduplicate : (i.mask m).onDuplicateKey =
        i.onDuplicateKey.map (List.map (ColumnUpdate.mask m)) := rfl
    rw [hduplicate]
    cases i.onDuplicateKey with
    | none => rfl
    | some updates =>
      rw [Option.map_some, List.map_cons, List.map_cons, ← updateList_mask]
      rfl

end Insert

theorem Update.pieces_mask (u : Update) : (u.mask m).pieces = u.pieces.map (Piece.mask m) := by
  have hempty : (u.mask m).updates.isEmpty = u.updates.isEmpty := List.isEmpty_map
  unfold Update.pieces
  rw [hempty, List.map_cons]
  by_cases he : u.updates.isEmpty = true
  · rw [if_pos he, if_pos he]
    rfl
  · rw [if_neg he, if_neg he]
    simp only [List.map_append, List.map_cons, ← Table.pieces_mask, ← updateList_mask,
      ← returningClause_mask, ← whereClause_mask, ← Expr.maskOption_eq_map]
    rfl

theorem Delete.pieces_mask (d : Delete) : (d.mask m).pieces = d.pieces.map (Piece.mask m) := by
  unfold Delete.pieces
  simp only [List.map_append, List.map_cons, ← Table.pieces_mask, ← returningClause_mask,
    ← whereClause_mask, ← Expr.maskOption_eq_map]
  rfl

theorem Explain.pieces_mask (x : Explain) :
    (⟨x.format, Expr.maskOption m x.options⟩ : Explain).pieces = x.pieces.map (Piece.mask m) := by
  obtain ⟨format, options⟩ := x
  cases format <;> cases options <;> simp [Explain.pieces, Piece.mask]

namespace Query

theorem explain_mask (q : Query) : (q.mask m).explain = Explain.maskOption m q.explain := by
  cases q with
  | select s =>
    cases s
    rw [Query.mask, Select.mask]
    rfl
  | _ => rfl

-- Behind a mask the same pieces are written.
theorem rootPieces_mask (q : Query) : (q.mask m).rootPieces = q.rootPieces.map (Piece.mask m) := by
  have hpieces : (q.mask m).pieces = q.pieces.map (Piece.mask m) := by
    cases q with
    | select s => exact s.pieces_mask m
    | insert i => exact i.pieces_mask m
    | update u => exact u.pieces_mask m
    | delete d => exact d.pieces_mask m
  unfold rootPieces
  rw [explain_mask, hpieces]
  cases q.explain with
  | none => rfl
  | some x =>
    cases x
    rw [Explain.maskOption, List.map_append, ← Explain.pieces_mask]

end Query

end

end SqlWeave
