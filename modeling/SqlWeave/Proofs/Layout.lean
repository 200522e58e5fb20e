import SqlWeave.Proofs.Tables
import SqlWeave.Sql.OfQuery

/-!
# The layout of a statement

However the names of a statement are rewritten, it is written with the same parts: pieces that stay
as they are, and the places of names between them.  The main statement is `Query.laid`; it also says
which of these places are those of the tables that the statement reads or writes.
-/

namespace SqlWeave

open Piece (separated interleaved parenthesized nameList)
open TablePlace (writtenTables)

/-- Whether every rewriting leaves the piece as it is. -/
def Piece.isFixed : Piece → Bool
  | .name _ | .refuse _ => false
  | _ => true

/-- A part of a statement: a piece that stays as it is, or a place for names. -/
inductive Part where
  | fixed (piece : Piece) (h : piece.isFixed = true)
  /-- A table that the statement reads or writes. -/
  | table (t : Table)
  /-- A table before a column. -/
  | qualifier (t : Table)
  /-- A column, an alias or a constraint. -/
  | name (s : String)
  /-- An insert into the table is refused, because it has no source of rows. -/
  | noSource (t : Table)
  /-- An update of the table is refused, because it sets nothing. -/
  | noUpdates (t : Table)

namespace Part

/-- The pieces of a part after a rewriting. -/
def pieces (r : Rewrite) : Part → List Piece
  | .fixed piece _ => [piece]
  | .table t => (r.table t).pieces
  | .qualifier t => (r.qualifier t).pieces
  | .name s => [.name (r.identifier s)]
  | .noSource t => [.refuse (.noSource (r.table t).name)]
  | .noUpdates t => [.refuse (.noUpdates (r.table t).name)]

def table? : Part → Option Table
  | .table t => some t
  | _ => none

end Part

/-- After every rewriting `r` the pieces `write r` are those of the same parts, in which `tables`
are the tables that are read or written. -/
def Laid (tables : List Table) (write : Rewrite → List Piece) : Prop :=
  ∃ parts : List Part, parts.filterMap Part.table? = tables ∧
    ∀ r, write r = parts.flatMap (Part.pieces r)

namespace Laid

variable {a b : List Table} {f g : Rewrite → List Piece}

theorem one (part : Part) : Laid part.table?.toList fun r => part.pieces r :=
  ⟨[part], by cases part <;> rfl, fun r => (List.flatMap_singleton _ _).symm⟩

theorem nil : Laid [] fun _ => [] := ⟨[], rfl, fun _ => rfl⟩

theorem append (hf : Laid a f) (hg : Laid b g) : Laid (a ++ b) fun r => f r ++ g r := by
  obtain ⟨parts, rfl, hf⟩ := hf
  obtain ⟨parts', rfl, hg⟩ := hg
  refine ⟨parts ++ parts', List.filterMap_append, fun r => ?_⟩
  show f r ++ g r = _
  rw [hf, hg, List.flatMap_append]

theorem fixed {pieces : List Piece} (h : ∀ p ∈ pieces, p.isFixed = true) :
    Laid [] fun _ => pieces := by
  induction pieces with
  | nil => exact nil
  | cons p rest ih =>
    obtain ⟨hp, hrest⟩ := List.forall_mem_cons.mp h
    exact (one (.fixed p hp)).append (ih hrest)

-- Pieces that stay as they are do not add tables, on either side.
theorem after {before : List Piece} (h : ∀ p ∈ before, p.isFixed = true) (hf : Laid a f) :
    Laid a fun r => before ++ f r :=
  (fixed h).append hf

theorem cons {p : Piece} (h : p.isFixed = true) (hf : Laid a f) : Laid a fun r => p :: f r :=
  (one (.fixed p h)).append hf

theorem followedBy (hf : Laid a f) (hg : Laid [] g) : Laid a fun r => f r ++ g r := by
  have h := hf.append hg
  rwa [List.append_nil] at h

theorem before {after : List Piece} (h : ∀ p ∈ after, p.isFixed = true) (hf : Laid a f) :
    Laid a fun r => f r ++ after :=
  hf.followedBy (fixed h)

theorem name (s : String) : Laid [] fun r => [.name (r.identifier s)] := one (.name s)

theorem qualifier (t : Option Table) : Laid [] fun r => Table.qualifier (t.map r.qualifier) := by
  cases t with
  | none => exact nil
  | some t => exact (one (.qualifier t)).before (by decide)

theorem parenthesized (hf : Laid a f) : Laid a fun r => Piece.parenthesized (f r) :=
  .cons rfl (hf.before (by decide))

theorem operand (e : Expr) (hf : Laid a f) : Laid a fun r => SqlWeave.operand e (f r) := by
  unfold SqlWeave.operand
  cases e.isBareOperation with
  | true => exact hf.parenthesized
  | false => exact hf

section

variable {α : Type} {tables : α → List Table} {write : Rewrite → α → List Piece} {xs : List α}

theorem flatMap (h : ∀ x ∈ xs, Laid (tables x) fun r => write r x) :
    Laid (xs.flatMap tables) fun r => xs.flatMap (write r) := by
  induction xs with
  | nil => exact nil
  | cons x rest ih =>
    obtain ⟨hx, hrest⟩ := List.forall_mem_cons.mp h
    exact hx.append (ih hrest)

theorem separated (separator : String) (h : ∀ x ∈ xs, Laid (tables x) fun r => write r x) :
    Laid (xs.flatMap tables) fun r => Piece.separated separator (xs.map (write r)) := by
  induction xs with
  | nil => exact nil
  | cons x rest ih =>
    obtain ⟨hx, hrest⟩ := List.forall_mem_cons.mp h
    cases rest with
    | nil =>
      rw [List.flatMap_singleton]
      exact hx
    | cons y rest => exact hx.append (.cons rfl (ih hrest))

theorem interleaved (fragments : List String) (h : ∀ x ∈ xs, Laid (tables x) fun r => write r x) :
    Laid ((xs.take fragments.length).flatMap tables)
      fun r => Piece.interleaved fragments (xs.map (write r)) := by
  -- The fragments settle how many members are written; those beyond the last one have no text.
  induction fragments generalizing xs with
  | nil => exact nil
  | cons fragment fragments ih =>
    cases xs with
    | nil =>
      have hrest := @ih [] h
      rw [List.take_nil] at hrest ⊢
      exact .cons rfl hrest
    | cons x rest =>
      obtain ⟨hx, hrest⟩ := List.forall_mem_cons.mp h
      exact .cons rfl (hx.append (ih hrest))

theorem listClause (keyword : String) (h : ∀ x ∈ xs, Laid (tables x) fun r => write r x) :
    Laid (xs.flatMap tables) fun r => SqlWeave.listClause keyword (xs.map (write r)) := by
  cases xs with
  | nil => exact nil
  | cons x rest => exact .cons rfl (separated ", " h)

end

end Laid

@[simp] theorem Expr.isBareOperation_rewrite (r : Rewrite) (e : Expr) :
    (e.rewrite r).isBareOperation = e.isBareOperation := by
  cases e <;> rw [Expr.rewrite] <;> rfl

@[simp] theorem isKeywordNull_rewrite (r : Rewrite) (op : BinaryOp) (right : Expr) :
    isKeywordNull op (right.rewrite r) = isKeywordNull op right := by
  cases right <;> rw [Expr.rewrite] <;> rfl

theorem operand_rewrite (r : Rewrite) (e : Expr) (pieces : List Piece) :
    operand (e.rewrite r) pieces = operand e pieces := by
  rw [operand, Expr.isBareOperation_rewrite, operand]

/-- After every rewriting the expression is written with the same parts. -/
def Expr.IsLaid (e : Expr) : Prop := Laid (writtenTables e.tables) fun r => (e.rewrite r).pieces

def Source.IsLaid (x : Source) : Prop :=
  Laid (writtenTables x.tables) fun r => (x.rewrite r).pieces

def Select.IsLaid (s : Select) : Prop :=
  Laid (writtenTables s.tables) fun r => (s.rewrite r).pieces

theorem Expr.laid_clause (opening : List Piece) {o : Option Expr}
    (hopening : ∀ p ∈ opening, p.isFixed = true) (h : ∀ e ∈ o, e.IsLaid) :
    Laid (writtenTables (Expr.tablesOfOption o))
      fun r => Expr.clause opening (o.map (Expr.rewrite r)) := by
  cases o with
  | none => exact .nil
  | some e => exact (h e rfl).after hopening

theorem Direction.sql_isFixed (d : Option Direction) : ∀ p ∈ Direction.sql d, p.isFixed = true := by
  rcases d with _ | _ | _ <;> decide

theorem Expr.laid_hereditary : Hereditary Expr.IsLaid Source.IsLaid Select.IsLaid where
  reference table column := by
    simp only [Expr.IsLaid, Expr.rewrite, Expr.pieces, Expr.tables]
    exact .cons rfl ((Laid.qualifier table).append (.name column))
  value v := by
    simp only [Expr.IsLaid, Expr.rewrite, Expr.pieces, Expr.tables]
    exact .fixed (by simp [Piece.isFixed])
  raw fragments params h := by
    simp only [Expr.IsLaid, Expr.rewrite, Expr.pieces, Expr.tables, Expr.rewriteList_eq_map,
      Expr.piecesOfList_eq_map, Expr.tablesOfList_eq_map, TablePlace.writtenTables_append,
      TablePlace.writtenTables_hide, List.append_nil, List.map_map, ← List.map_take,
      ← List.flatMap_def, TablePlace.writtenTables_flatMap]
    exact .cons rfl (.interleaved fragments h)
  binary left op right hl hr := by
    -- A right side that is written as the keyword is a null, which holds no names.
    have hright : Laid (writtenTables right.tables) fun r =>
        if isKeywordNull op right then [.text "NULL"]
        else if op.isLogical then (right.rewrite r).pieces
        else operand right (right.rewrite r).pieces := by
      by_cases hk : isKeywordNull op right = true
      · obtain ⟨-, rfl⟩ := (isKeywordNull_iff op right).mp hk
        simp only [if_pos hk, Expr.tables]
        exact .fixed (by decide)
      · simp only [if_neg hk]
        cases op.isLogical with
        | true => exact hr
        | false => exact .operand right hr
    simp only [Expr.IsLaid, Expr.rewrite, Expr.pieces, Expr.tables, isKeywordNull_rewrite,
      operand_rewrite, TablePlace.writtenTables_append]
    cases hop : op.isLogical with
    | true =>
      simp only [hop, if_true] at hright ⊢
      exact .cons rfl (.parenthesized ((hl.before (by simp [Piece.isFixed])).append hright))
    | false =>
      simp only [hop] at hright ⊢
      exact .cons rfl (((Laid.operand left hl).before (by simp [Piece.isFixed])).append hright)
  unary op e h := by
    simp only [Expr.IsLaid, Expr.rewrite, Expr.pieces, Expr.tables, operand_rewrite]
    exact .cons rfl (.cons rfl (.operand e h))
  call name args h := by
    simp only [Expr.IsLaid, Expr.rewrite, Expr.pieces, Expr.tables, Expr.rewriteList_eq_map,
      Expr.piecesOfList_eq_map, Expr.tablesOfList_eq_map, List.map_map, ← List.flatMap_def,
      TablePlace.writtenTables_flatMap]
    exact .cons rfl (.cons rfl (.parenthesized (.separated ", " h)))
  aliased e label h := by
    simp only [Expr.IsLaid, Expr.rewrite, Expr.pieces, Expr.tables]
    exact .cons rfl (h.followedBy (.cons rfl (.name label)))
  list items h := by
    simp only [Expr.IsLaid, Expr.rewrite, Expr.pieces, Expr.tables, Expr.rewriteList_eq_map,
      Expr.piecesOfList_eq_map, Expr.tablesOfList_eq_map, List.map_map, ← List.flatMap_def,
      TablePlace.writtenTables_flatMap]
    exact .cons rfl (.parenthesized (.separated ", " h))
  subquery s h := by
    simp only [Expr.IsLaid, Expr.rewrite, Expr.pieces, Expr.tables]
    exact h.parenthesized
  star table := by
    simp only [Expr.IsLaid, Expr.rewrite, Expr.pieces, Expr.tables]
    exact (Laid.qualifier table).before (by decide)
  defaultMarker := by
    simp only [Expr.IsLaid, Expr.rewrite, Expr.pieces, Expr.tables]
    exact .fixed (by decide)
  table t label := by
    simp only [Source.IsLaid, Source.rewrite, Source.pieces, Source.tables]
    cases label with
    | none => exact .cons rfl ((Laid.one (.table t)).before (by simp))
    | some a => exact .cons rfl ((Laid.one (.table t)).append (.cons rfl (.name a)))
  derived s label h := by
    simp only [Source.IsLaid, Source.rewrite, Source.pieces, Source.tables]
    exact .cons rfl (h.followedBy (.cons rfl (.name label)))
  select s h := by
    obtain ⟨sources, selections, distinct, joins, filter, groupBy, having, orderBy, limit, offset,
      explain⟩ := s
    have hopening : ∀ p ∈ (.require .select :: .text "SELECT " ::
        if distinct then [Piece.text "DISTINCT "] else []), p.isFixed = true := by
      cases distinct <;> decide
    have hselections : Laid (selections.flatMap fun e => writtenTables e.tables) fun r =>
        if selections.isEmpty then [.text "*"]
        else separated ", " (selections.map (Expr.pieces ∘ Expr.rewrite r)) := by
      cases selections with
      | nil => exact .fixed (by decide)
      | cons e rest => exact .separated ", " h.selections
    have hjoins : Laid
        (joins.flatMap fun j => writtenTables j.source.tables ++ writtenTables j.on.tables)
        fun r => joins.flatMap fun j => .text " " :: (j.rewrite r).pieces := by
      refine .flatMap fun j hj => ?_
      obtain ⟨hsource, hon⟩ := h.joins j hj
      simp only [Join.rewrite_eq, Join.pieces_eq]
      exact .cons rfl (.cons rfl (.cons rfl (.cons rfl (hsource.append (.cons rfl hon)))))
    have horderBy : Laid (orderBy.flatMap fun i => writtenTables i.expr.tables) fun r =>
        listClause " ORDER BY " (orderBy.map (OrderItem.pieces ∘ OrderItem.rewrite r)) := by
      refine .listClause _ fun i hi => ?_
      simp only [Function.comp, OrderItem.rewrite_eq, OrderItem.pieces_eq]
      exact .cons rfl ((h.orderBy i hi).before (Direction.sql_isFixed i.direction))
    simp only [Select.IsLaid, Select.rewrite, Select.pieces, Select.tables, Expr.rewriteList_eq_map,
      Expr.rewriteOption_eq_map, Source.rewriteList_eq_map, Join.rewriteList_eq_map,
      OrderItem.rewriteList_eq_map, Expr.piecesOfList_eq_map, Source.piecesOfList_eq_map,
      Join.piecesOfList_eq_flatMap, OrderItem.piecesOfList_eq_map, Expr.tablesOfList_eq_map,
      Source.tablesOfList_eq_flatMap, Join.tablesOfList_eq_flatMap,
      OrderItem.tablesOfList_eq_flatMap, ← List.flatMap_def, List.map_map, List.flatMap_map,
      List.isEmpty_map, TablePlace.writtenTables_append, TablePlace.writtenTables_flatMap,
      TablePlace.writtenTables_hide, List.nil_append]
    exact hselections.after hopening |>.append (.listClause _ h.sources) |>.append hjoins
      |>.append (Expr.laid_clause _ (by decide) h.filter)
      |>.append (.listClause _ h.groupBy)
      |>.append (Expr.laid_clause _ (by decide) h.having) |>.append horderBy
      |>.append (Expr.laid_clause _ (by decide) h.limit)
      |>.append (Expr.laid_clause _ (by decide) h.offset)

theorem Expr.isLaid (e : Expr) : e.IsLaid := Expr.laid_hereditary.expr e

theorem Select.isLaid (s : Select) : s.IsLaid := Expr.laid_hereditary.ofSelect s

/-! ## Layouts of statements -/

namespace Laid

theorem rewriteList (separator : String) (es : List Expr) :
    Laid (writtenTables (es.flatMap Expr.tables))
      fun r => Piece.separated separator (Expr.piecesOfList (Expr.rewriteList r es)) := by
  simp only [Expr.rewriteList_eq_map, Expr.piecesOfList_eq_map, List.map_map,
    TablePlace.writtenTables_flatMap]
  exact .separated separator fun e _ => e.isLaid

theorem clause (opening : List Piece) (hopening : ∀ p ∈ opening, p.isFixed = true)
    (o : Option Expr) :
    Laid (writtenTables (Expr.tablesOfOption o))
      fun r => Expr.clause opening (Expr.rewriteOption r o) := by
  simp only [Expr.rewriteOption_eq_map]
  exact Expr.laid_clause opening hopening fun e _ => e.isLaid

theorem columnList (names : List String) :
    Laid [] fun r => SqlWeave.columnList (names.map r.identifier) := by
  have h := Laid.separated ", " fun s (_ : s ∈ names) => Laid.name s
  rw [List.flatMap_eq_nil_iff.mpr fun _ _ => rfl] at h
  simp only [SqlWeave.columnList, Piece.nameList, List.map_map]
  exact .cons rfl (h.before (by decide))

theorem updateList (updates : List ColumnUpdate) :
    Laid (writtenTables (updateTables updates))
      fun r => SqlWeave.updateList (rewriteUpdates r updates) := by
  simp only [SqlWeave.updateList, rewriteUpdates, updateTables, List.map_map,
    TablePlace.writtenTables_flatMap]
  exact .separated ", " fun u _ => (name u.column).append (.cons rfl u.value.isLaid)

theorem returningClause (returning : Option (List Expr)) :
    Laid (writtenTables (returningTables returning))
      fun r => SqlWeave.returningClause (returning.map (Expr.rewriteList r)) := by
  cases returning with
  | none => exact nil
  | some selections => exact .cons rfl (.cons rfl (.rewriteList ", " selections))

end Laid

theorem ConflictTarget.laid (target : ConflictTarget) :
    Laid (writtenTables target.tables) fun r => (target.rewrite r).pieces := by
  cases target with
  | unspecified => exact .nil
  | columns names => exact .columnList names
  | constraint name => exact .cons rfl (.name name)
  | expr e => exact .cons rfl (e.isLaid.before (by decide))

theorem ConflictAction.laid (action : ConflictAction) :
    Laid (writtenTables action.tables) fun r => (action.rewrite r).pieces := by
  cases action with
  | nothing => exact .fixed (by decide)
  | update updates filter =>
    simp only [ConflictAction.tables, TablePlace.writtenTables_append]
    exact .cons rfl ((Laid.updateList updates).append (.clause _ (by decide) filter))

theorem Conflict.laid (c : Conflict) :
    Laid (writtenTables c.tables) fun r => (c.rewrite r).pieces := by
  simp only [Conflict.tables, TablePlace.writtenTables_append]
  exact .cons rfl (.cons rfl (c.target.laid.append (.clause _ (by decide) c.indexFilter) |>.append
    c.action.laid))

namespace Insert

theorem laid_rowsPieces (rows : List (List Expr)) :
    Laid (writtenTables (rows.flatMap fun row => row.flatMap Expr.tables))
      fun r => rowsPieces (rows.map (Expr.rewriteList r)) := by
  rw [TablePlace.writtenTables_flatMap]
  simp only [rowsPieces, List.map_map]
  exact .cons rfl (.cons rfl ((Laid.separated _ fun row _ => .rewriteList ", " row).before
    (by decide)))

theorem laid_sourceExpr (e : Expr) :
    Laid (writtenTables e.tables) fun r => sourceExpr (e.rewrite r) := by
  have h := e.isLaid
  cases e with
  | subquery s =>
    simp only [Expr.rewrite, Expr.tables]
    exact s.isLaid
  | _ => exact h

theorem laid_sourcePieces (i : Insert) :
    Laid (writtenTables i.sourceTables) fun r => (i.rewrite r).sourcePieces := by
  have hsource (r : Rewrite) : (i.rewrite r).source = i.source.map (InsertSource.rewrite r) := rfl
  have hinto (r : Rewrite) : (i.rewrite r).into = r.table i.into := rfl
  have hdefaults : Laid [] fun _ => defaultsClause := .fixed (by decide)
  unfold sourceTables sourcePieces
  simp only [hsource, hinto, writtenColumns_rewrite]
  -- Renamed columns are as many as before, so both sides choose the same form.
  cases i.source with
  | none =>
    cases i.writtenColumns with
    | nil => exact hdefaults
    | cons column columns => exact .one (.noSource i.into)
  | some source =>
    cases source with
    | defaults => exact hdefaults
    | rows rows =>
      cases i.writtenColumns with
      | nil =>
        simp only [List.isEmpty_nil, if_true, TablePlace.writtenTables_hide]
        exact hdefaults
      | cons column columns =>
        exact (Laid.columnList (column :: columns)).append (.cons rfl (laid_rowsPieces rows))
    | expr e =>
      cases i.writtenColumns with
      | nil => exact .cons rfl (laid_sourceExpr e)
      | cons column columns =>
        exact (Laid.columnList (column :: columns)).append (.cons rfl (laid_sourceExpr e))

theorem laid_conflict (conflict : Option Conflict) :
    Laid (writtenTables (conflict.toList.flatMap Conflict.tables)) fun r =>
      match conflict.map (Conflict.rewrite r) with
      | some conflict => conflict.pieces
      | none => [] := by
  cases conflict with
  | none => exact .nil
  | some c =>
    rw [Option.toList_some, List.flatMap_singleton]
    exact c.laid

theorem laid_duplicateKey (duplicateKey : Option (List ColumnUpdate)) :
    Laid (writtenTables (duplicateKey.toList.flatMap updateTables)) fun r =>
      match duplicateKey.map (rewriteUpdates r) with
      | some updates =>
        .require .onDuplicateKey :: .text " ON DUPLICATE KEY UPDATE " :: updateList updates
      | none => [] := by
  cases duplicateKey with
  | none => exact .nil
  | some updates =>
    rw [Option.toList_some, List.flatMap_singleton]
    exact .cons rfl (.cons rfl (.updateList updates))

theorem laid (i : Insert) : Laid (writtenTables i.tables) fun r => (i.rewrite r).pieces := by
  have hverb : ∀ p ∈ (.require .insert ::
      if i.replace then [Piece.require .replace, .text "REPLACE"] else [.text "INSERT"]),
      p.isFixed = true := by
    cases i.replace <;> decide
  have hignore : ∀ p ∈ (if i.ignore then [Piece.require .insertIgnore, .text " ", .ignoreKeyword]
      else []), p.isFixed = true := by
    cases i.ignore <;> decide
  simp only [tables, TablePlace.writtenTables_append, TablePlace.writtenTables_shown]
  exact (Laid.fixed hverb).append (.fixed hignore) |>.append (.cons rfl (.one (.table i.into)))
    |>.append i.laid_sourcePieces |>.append (laid_conflict i.onConflict)
    |>.append (laid_duplicateKey i.onDuplicateKey) |>.append (.returningClause i.returning)

end Insert

theorem Update.laid (u : Update) :
    Laid (writtenTables u.tables) fun r => (u.rewrite r).pieces := by
  have hempty (r : Rewrite) : (u.rewrite r).updates.isEmpty = u.updates.isEmpty := List.isEmpty_map
  unfold Update.tables Update.pieces
  simp only [hempty]
  cases u.updates.isEmpty with
  | true =>
    simp only [if_true, TablePlace.writtenTables_hide]
    exact .cons rfl (.one (.noUpdates u.table))
  | false =>
    simp only [Bool.false_eq_true, if_false, TablePlace.writtenTables_append,
      TablePlace.writtenTables_shown]
    exact .cons rfl (.cons rfl ((Laid.one (.table u.table)).append
      (.cons rfl (.updateList u.updates)) |>.append (.clause _ (by decide) u.filter)
      |>.append (.returningClause u.returning)))

theorem Delete.laid (d : Delete) :
    Laid (writtenTables d.tables) fun r => (d.rewrite r).pieces := by
  simp only [Delete.tables, TablePlace.writtenTables_append, TablePlace.writtenTables_shown]
  exact .cons rfl (.cons rfl ((Laid.one (.table d.source)).append (.clause _ (by decide) d.filter)
    |>.append (.returningClause d.returning)))

-- After every rewriting a statement is written with the same parts.
theorem Query.laid (q : Query) :
    Laid (writtenTables q.ownTables) fun r => (q.rewrite r).pieces := by
  cases q with
  | select s =>
    -- The request to explain is no part of a select's own pieces, so its tables do not count here.
    have hpieces (s : Select) : ({ s with explain := none : Select }).pieces = s.pieces := by
      cases s
      rw [Select.pieces, Select.pieces]
    have h := Select.isLaid { s with explain := none }
    simp only [Select.IsLaid, ← Select.rewrite_withoutExplain, hpieces] at h
    exact h
  | insert i => exact i.laid
  | update u => exact u.laid
  | delete d => exact d.laid

theorem Query.exists_parts (q : Query) :
    ∃ parts : List Part, parts.filterMap Part.table? = writtenTables q.ownTables ∧
      q.pieces = parts.flatMap (Part.pieces .identity) ∧
      ∀ r, (q.rewrite r).pieces = parts.flatMap (Part.pieces r) := by
  obtain ⟨parts, htables, hparts⟩ := q.laid
  have hidentity : (q.rewrite .identity).pieces = parts.flatMap (Part.pieces .identity) :=
    hparts .identity
  rw [q.rewrite_identity] at hidentity
  exact ⟨parts, htables, hidentity, hparts⟩

end SqlWeave
