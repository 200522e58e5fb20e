import SqlWeave.Proofs.Framing

/-!
# Clauses with lists

Read from left to right, a statement is a list of segments: clauses that are lists, such as
`GROUP BY` or the rows of an insert, and what stands between them.  The clauses are those of the
statement itself and those of the selects inside it.  Every clause stands in the statement with its
opening and its items, and no list of a select is empty.
-/

namespace SqlWeave

open Piece (separated)

/-! ## Segments -/

/-- The clauses that are lists. -/
inductive ListKind where
  | selections
  | sources
  | groupBy
  | orderBy
  /-- Columns set to values, by an update or on a conflict. -/
  | updates
  | insertColumns
  /-- One row of an insert. -/
  | row
  | conflictColumns
  | duplicateUpdates
  | returning
  deriving DecidableEq

/-- A clause that is a list: what stands before its first item, and its items. -/
structure ListClause where
  kind : ListKind
  opening : List Piece
  items : List (List Piece)

def ListClause.pieces (l : ListClause) : List Piece := l.opening ++ separated ", " l.items

inductive Segment where
  | list (l : ListClause)
  | other (pieces : List Piece)

namespace Segment

def pieces : Segment → List Piece
  | .list l => l.pieces
  | .other pieces => pieces

/-- A list that is left out when it is empty. -/
def ofNonempty (kind : ListKind) (keyword : String) (items : List (List Piece)) : List Segment :=
  if items.isEmpty then [] else [.list ⟨kind, [.text keyword], items⟩]

/-- A list of columns in parentheses. -/
def ofColumns (kind : ListKind) (names : List String) : List Segment :=
  [.list ⟨kind, [.text " ("], names.map fun n => [.name n]⟩, .other [.text ")"]]

def ofUpdates (kind : ListKind) (opening : List Piece) (updates : List ColumnUpdate) : Segment :=
  .list ⟨kind, opening, updates.map ColumnUpdate.pieces⟩

/-- The rows of an insert.  Even no rows are written like one that is empty. -/
def ofRows : List (List Expr) → List Segment
  | [] => [.list ⟨.row, [.require .values, .text "VALUES ("], []⟩, .other [.text ")"]]
  | row :: rest =>
    .list ⟨.row, [.require .values, .text "VALUES ("], Expr.piecesOfList row⟩ ::
      rest.map (fun row => .list ⟨.row, [.text "), ("], Expr.piecesOfList row⟩) ++
      [.other [.text ")"]]

def ofReturning : Option (List Expr) → List Segment
  | some selections =>
    [.list ⟨.returning, [.require .returning, .text " RETURNING "], Expr.piecesOfList selections⟩]
  | none => []

end Segment

open Segment (ofNonempty ofColumns ofUpdates ofRows ofReturning)

def Select.segments (s : Select) : List Segment :=
  .list
      { kind := .selections
        opening := .require .select :: .text "SELECT " ::
          if s.distinct then [.text "DISTINCT "] else []
        items := if s.selections.isEmpty then [[.text "*"]] else Expr.piecesOfList s.selections } ::
    ofNonempty .sources " FROM " (Source.piecesOfList s.sources) ++
    .other (Join.piecesOfList s.joins ++ Expr.clause [.text " WHERE "] s.filter) ::
    ofNonempty .groupBy " GROUP BY " (Expr.piecesOfList s.groupBy) ++
    .other (Expr.clause [.text " HAVING "] s.having) ::
    ofNonempty .orderBy " ORDER BY " (OrderItem.piecesOfList s.orderBy) ++
    [Segment.other (Expr.clause [.require .limit, .text " LIMIT "] s.limit ++
      Expr.clause [.require .offset, .text " OFFSET "] s.offset)]

def ConflictTarget.segments : ConflictTarget → List Segment
  | .columns names => ofColumns .conflictColumns names
  | t => [.other t.pieces]

def ConflictAction.segments : ConflictAction → List Segment
  | .update updates filter =>
    [ofUpdates .updates [.text " DO UPDATE SET "] updates,
      .other (Expr.clause [.text " WHERE "] filter)]
  | a => [.other a.pieces]

def Conflict.segments (c : Conflict) : List Segment :=
  .other [.require .onConflict, .text " ON CONFLICT"] :: c.target.segments ++
    .other (Expr.clause [.text " WHERE "] c.indexFilter) :: c.action.segments

namespace Insert

/-- What stands before the columns. -/
def front (i : Insert) : List Piece :=
  Piece.require .insert ::
    (if i.replace then [Piece.require .replace, .text "REPLACE"] else [Piece.text "INSERT"]) ++
    (if i.ignore then [Piece.require .insertIgnore, .text " ", .ignoreKeyword] else []) ++
    Piece.text " INTO " :: i.into.pieces

def sourceSegments (i : Insert) : List Segment :=
  match i.source, i.writtenColumns with
  | some (.rows rows), column :: columns =>
    ofColumns .insertColumns (column :: columns) ++ .other [.text " "] :: ofRows rows
  | some (.expr e), column :: columns =>
    ofColumns .insertColumns (column :: columns) ++ [.other (.text " " :: sourceExpr e)]
  | _, _ => [.other i.sourcePieces]

def segments (i : Insert) : List Segment :=
  .other i.front :: i.sourceSegments ++ i.onConflict.toList.flatMap Conflict.segments ++
    i.onDuplicateKey.toList.map (ofUpdates .duplicateUpdates
      [.require .onDuplicateKey, .text " ON DUPLICATE KEY UPDATE "]) ++
    ofReturning i.returning

end Insert

/-- Nothing is written of an update that sets nothing. -/
def Update.segments (u : Update) : List Segment :=
  if u.updates.isEmpty then [.other u.pieces]
  else
    .other (.require .update :: .text "UPDATE " :: u.table.pieces) ::
      ofUpdates .updates [.text " SET "] u.updates ::
      .other (Expr.clause [.text " WHERE "] u.filter) :: ofReturning u.returning

def Delete.segments (d : Delete) : List Segment :=
  .other (.require .delete :: .text "DELETE FROM " :: d.source.pieces ++
    Expr.clause [.text " WHERE "] d.filter) :: ofReturning d.returning

/-- The segments of a statement, without its request to explain. -/
def Query.segments : Query → List Segment
  | .select s => s.segments
  | .insert i => i.segments
  | .update u => u.segments
  | .delete d => d.segments

/-- A clause with a list that is written: one of the statement itself, or one of a select inside
it. -/
inductive Query.WritesList (q : Query) (l : ListClause) : Prop
  | own (h : .list l ∈ q.segments)
  | inside (x : Select) (hx : q.Nests x) (h : .list l ∈ x.segments)

/-! ## Segments are what is written -/

@[simp] theorem Segment.pieces_list (l : ListClause) : (Segment.list l).pieces = l.pieces := rfl

@[simp] theorem Segment.pieces_other (pieces : List Piece) :
    (Segment.other pieces).pieces = pieces := rfl

section

variable {l : ListClause} {kind : ListKind}

theorem pieces_ofNonempty (keyword : String) (items : List (List Piece)) :
    (ofNonempty kind keyword items).flatMap Segment.pieces = listClause keyword items := by
  unfold ofNonempty listClause
  split
  · rfl
  · rw [List.flatMap_singleton]
    rfl

theorem pieces_ofColumns (names : List String) :
    (ofColumns kind names).flatMap Segment.pieces = columnList names := rfl

theorem pieces_ofRows (rows : List (List Expr)) :
    (ofRows rows).flatMap Segment.pieces = rowsPieces rows := by
  cases rows with
  | nil => rfl
  | cons row rest =>
    have hrest : (rest.map fun row => Segment.list ⟨.row, [.text "), ("],
          Expr.piecesOfList row⟩).flatMap Segment.pieces =
        (rest.map fun row => separated ", " (Expr.piecesOfList row)).flatMap
          (.text "), (" :: ·) := by
      rw [List.flatMap_map, List.flatMap_map]
      rfl
    rw [ofRows, rowsPieces, List.map_cons, Piece.separated_cons, List.flatMap_append,
      List.flatMap_cons, hrest]
    simp [ListClause.pieces]

theorem pieces_ofReturning (returning : Option (List Expr)) :
    (ofReturning returning).flatMap Segment.pieces = returningClause returning := by
  cases returning with
  | none => rfl
  | some selections =>
    rw [ofReturning, List.flatMap_singleton]
    rfl

theorem pieces_ofUpdates (opening : List Piece) (updates : List ColumnUpdate) :
    (ofUpdates kind opening updates).pieces = opening ++ updateList updates := rfl

theorem Select.pieces_segments (s : Select) : s.segments.flatMap Segment.pieces = s.pieces := by
  obtain ⟨sources, selections, distinct, joins, filter, groupBy, having, orderBy, limit, offset,
    explain⟩ := s
  have hselections : separated ", " (if selections.isEmpty then [[.text "*"]]
        else Expr.piecesOfList selections) =
      if selections.isEmpty then [.text "*"]
        else separated ", " (Expr.piecesOfList selections) := by
    split <;> rfl
  rw [segments, Select.pieces]
  simp only [List.flatMap_append, List.flatMap_cons, List.flatMap_nil, pieces_ofNonempty,
    Segment.pieces_list, Segment.pieces_other, ListClause.pieces, hselections, List.append_assoc,
    List.cons_append, List.append_nil]

theorem ConflictTarget.pieces_segments (t : ConflictTarget) :
    t.segments.flatMap Segment.pieces = t.pieces := by
  cases t with
  | columns names => exact pieces_ofColumns names
  | unspecified | constraint | expr => exact List.flatMap_singleton _ _

theorem ConflictAction.pieces_segments (a : ConflictAction) :
    a.segments.flatMap Segment.pieces = a.pieces := by
  cases a with
  | nothing => rfl
  | update updates filter =>
    simp [segments, pieces_ofUpdates, ConflictAction.pieces]

theorem Conflict.pieces_segments (c : Conflict) :
    c.segments.flatMap Segment.pieces = c.pieces := by
  simp [segments, c.target.pieces_segments, c.action.pieces_segments, Conflict.pieces]

namespace Insert

theorem pieces_sourceSegments (i : Insert) :
    i.sourceSegments.flatMap Segment.pieces = i.sourcePieces := by
  unfold sourceSegments sourcePieces
  split <;> simp_all [pieces_ofColumns, pieces_ofRows]

theorem pieces_segments (i : Insert) : i.segments.flatMap Segment.pieces = i.pieces := by
  unfold segments Insert.pieces front
  cases i.onConflict <;> cases i.onDuplicateKey <;>
    simp [pieces_sourceSegments, Conflict.pieces_segments, pieces_ofUpdates, pieces_ofReturning]

end Insert

theorem Update.pieces_segments (u : Update) : u.segments.flatMap Segment.pieces = u.pieces := by
  unfold segments
  split
  · exact List.flatMap_singleton _ _
  · next hne =>
    rw [Update.pieces, if_neg hne]
    simp [pieces_ofUpdates, pieces_ofReturning]

theorem Delete.pieces_segments (d : Delete) : d.segments.flatMap Segment.pieces = d.pieces := by
  simp [segments, pieces_ofReturning, Delete.pieces]

theorem Query.pieces_segments (q : Query) : q.segments.flatMap Segment.pieces = q.pieces := by
  cases q with
  | select s => exact s.pieces_segments
  | insert i => exact i.pieces_segments
  | update u => exact u.pieces_segments
  | delete d => exact d.pieces_segments

theorem exists_of_mem_segments {segments : List Segment} (h : .list l ∈ segments) :
    ∃ before after, segments.flatMap Segment.pieces = before ++ l.pieces ++ after := by
  obtain ⟨left, right, rfl⟩ := List.append_of_mem h
  refine ⟨left.flatMap Segment.pieces, right.flatMap Segment.pieces, ?_⟩
  rw [List.flatMap_append, List.flatMap_cons, List.append_assoc]
  rfl

-- Every clause stands in the statement, with its opening and all its items.
theorem Query.WritesList.exists_pieces {q : Query} (h : q.WritesList l) :
    ∃ before after, q.rootPieces = before ++ l.pieces ++ after := by
  cases h with
  | own h =>
    obtain ⟨before, after, hpieces⟩ := exists_of_mem_segments h
    refine ⟨q.explain.elim [] Explain.pieces ++ before, after, ?_⟩
    rw [rootPieces_eq_append, ← q.pieces_segments, hpieces]
    simp only [List.append_assoc]
  | inside x hx h =>
    obtain ⟨a, hwritten, rfl⟩ := hx.exists_around
    obtain ⟨head, tail, hframed⟩ := a.framed
    obtain ⟨before, after, hpieces⟩ := exists_of_mem_segments h
    refine ⟨head ++ before, after ++ tail, ?_⟩
    rw [show (a.fill x).rootPieces = _ from hframed x, if_pos hwritten, ← x.pieces_segments,
      hpieces]
    simp only [List.append_assoc]

/-! ## Lists that are never empty -/

theorem items_ne_nil_of_ofNonempty {keyword : String} {items : List (List Piece)}
    (h : .list l ∈ ofNonempty kind keyword items) : l.items ≠ [] := by
  unfold ofNonempty at h
  split at h
  · exact absurd h List.not_mem_nil
  · next hne =>
    obtain rfl := Segment.list.inj (List.mem_singleton.mp h)
    exact mt List.isEmpty_iff.mpr hne

-- A select without selections has all columns, and its other lists are left out if they are empty.
theorem Select.items_ne_nil {s : Select} (h : .list l ∈ s.segments) : l.items ≠ [] := by
  simp only [segments, List.mem_append, List.mem_cons, reduceCtorEq, false_or, or_false,
    List.not_mem_nil] at h
  obtain (((hselections | hsources) | hgroupBy) | horderBy) := h
  · obtain rfl := Segment.list.inj hselections
    dsimp only
    split
    · exact List.cons_ne_nil _ _
    · next hne =>
      rw [Expr.piecesOfList_eq_map]
      exact mt List.map_eq_nil_iff.mp (mt List.isEmpty_iff.mpr hne)
  · exact items_ne_nil_of_ofNonempty hsources
  · exact items_ne_nil_of_ofNonempty hgroupBy
  · exact items_ne_nil_of_ofNonempty horderBy

end

end SqlWeave
