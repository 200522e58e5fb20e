import SqlWeave.Proofs.Alignment
import SqlWeave.Proofs.Places

/-!
# The pieces around a select

Whatever select fills a place inside a statement, the pieces around it are the same, and it is
written as it would be by itself.  The main statement is `Query.Around.framed`; the rest of the file
follows the ways in which expressions, selects and statements hold their parts.
-/

namespace SqlWeave

/-! ## Frames -/

/-- What is written of a select stands between pieces that do not depend on it; if the select is not
written at all, nothing depends on it. -/
def Framed (written : Bool) (write : Select → List Piece) : Prop :=
  ∃ before after, ∀ s, write s = before ++ (if written then s.pieces else []) ++ after

namespace Framed

variable {w : Bool} {f : Select → List Piece}

theorem nothing (pieces : List Piece) : Framed false fun _ => pieces :=
  ⟨pieces, [], fun _ => by simp⟩

theorem after (pieces : List Piece) (h : Framed w f) : Framed w fun s => pieces ++ f s := by
  obtain ⟨before, after, h⟩ := h
  exact ⟨pieces ++ before, after, fun s => by simp only [h, List.append_assoc]⟩

theorem before (pieces : List Piece) (h : Framed w f) : Framed w fun s => f s ++ pieces := by
  obtain ⟨before, after, h⟩ := h
  exact ⟨before, after ++ pieces, fun s => by simp only [h, List.append_assoc]⟩

theorem cons (piece : Piece) (h : Framed w f) : Framed w fun s => piece :: f s := h.after [piece]

theorem parenthesized (h : Framed w f) : Framed w fun s => Piece.parenthesized (f s) :=
  (h.before _).cons _

end Framed

namespace Piece

theorem separated_cons (separator : String) (group : List Piece) (rest : List (List Piece)) :
    separated separator (group :: rest) = group ++ rest.flatMap (.text separator :: ·) := by
  induction rest generalizing group with
  | nil => exact (List.append_nil group).symm
  | cons next rest ih =>
    show group ++ .text separator :: separated separator (next :: rest) = _
    rw [ih, List.flatMap_cons, List.cons_append]

theorem separated_append_cons (separator : String) (left : List (List Piece)) (group : List Piece)
    (right : List (List Piece)) :
    separated separator (left ++ group :: right) =
      left.flatMap (· ++ [.text separator]) ++ group ++ right.flatMap (.text separator :: ·) := by
  induction left with
  | nil => exact separated_cons separator group right
  | cons first left ih =>
    rw [List.cons_append, separated_cons, List.flatMap_cons, List.append_assoc, List.append_assoc,
      ← List.append_assoc (List.flatMap _ left), ← ih]
    cases left with
    | nil => rw [List.nil_append, separated_cons]; simp
    | cons next left => rw [List.cons_append, separated_cons]; simp

end Piece

namespace Framed

variable {w : Bool} {f : Select → List Piece}

theorem separated (separator : String) (left right : List (List Piece)) (h : Framed w f) :
    Framed w fun s => Piece.separated separator (left ++ f s :: right) := by
  simp only [Piece.separated_append_cons]
  exact (h.after _).before _

theorem interleaved (fragments : List String) (left right : List (List Piece))
    (h : Framed w f) :
    Framed (decide (left.length < fragments.length) && w)
      fun s => Piece.interleaved fragments (left ++ f s :: right) := by
  induction fragments generalizing left with
  | nil => exact .nothing []
  | cons fragment fragments ih =>
    cases left with
    | nil =>
      have hfirst := (h.before (Piece.interleaved fragments right)).cons (.text fragment)
      simpa [Piece.interleaved] using hfirst
    | cons first left =>
      have hrest := ((ih left).after first).cons (.text fragment)
      simpa [Piece.interleaved] using hrest

theorem listClause (keyword : String) (left right : List (List Piece)) (h : Framed w f) :
    Framed w fun s => SqlWeave.listClause keyword (left ++ f s :: right) := by
  have hne : ∀ s, (left ++ f s :: right).isEmpty = false := fun s => by simp
  simp only [SqlWeave.listClause, hne, Bool.false_eq_true, if_false]
  exact (h.separated _ _ _).cons _

end Framed

/-! ## Expressions -/

/-- An expression that is written around a select has the same form for every select. -/
structure Expr.IsFramed (w : Bool) (f : Select → Expr) : Prop where
  framed : Framed w fun s => (f s).pieces
  bare : ∃ b, ∀ s, (f s).isBareOperation = b
  ne_null : ∀ s, f s ≠ .value .null

section Exprs

variable {w : Bool} {f : Select → Expr}

theorem Framed.operand (h : Expr.IsFramed w f) :
    Framed w fun s => SqlWeave.operand (f s) (f s).pieces := by
  obtain ⟨b, hb⟩ := h.bare
  simp only [SqlWeave.operand, hb]
  cases b with
  | true => exact h.framed.parenthesized
  | false => exact h.framed

theorem Expr.IsFramed.exprs (h : Expr.IsFramed w f) (separator : String) (left right : List Expr) :
    Framed w fun s => Piece.separated separator (Expr.piecesOfList (left ++ f s :: right)) := by
  simp only [Expr.piecesOfList_eq_map, List.map_append, List.map_cons]
  exact h.framed.separated _ _ _

theorem Expr.Place.isFramed (p : Expr.Place) (h : Expr.IsFramed w f) :
    Expr.IsFramed (p.isWritten && w) fun s => p.put (f s) := by
  constructor
  · cases p with
    | param fragments before after =>
      simp only [put, Expr.pieces, Expr.piecesOfList_eq_map, List.map_append, List.map_cons]
      have hparams := h.framed.interleaved fragments (before.map Expr.pieces)
        (after.map Expr.pieces)
      rw [List.length_map] at hparams
      exact hparams.cons _
    | left op other =>
      simp only [put, Expr.pieces]
      cases op.isLogical with
      | true => exact (((h.framed.before _).before _).parenthesized).cons _
      | false => exact (((Framed.operand h).before _).before _).cons _
    | right other op =>
      have hkeyword : ∀ s, isKeywordNull op (f s) = false := fun s => by
        rw [Bool.eq_false_iff, ne_eq, isKeywordNull_iff]
        exact fun hnull => h.ne_null s hnull.2
      simp only [put, Expr.pieces, hkeyword, Bool.false_eq_true, if_false]
      cases op.isLogical with
      | true => exact ((h.framed.after _).parenthesized).cons _
      | false => exact ((Framed.operand h).after _).cons _
    | operand op =>
      simp only [put, Expr.pieces]
      exact ((Framed.operand h).cons _).cons _
    | arg name before after =>
      simp only [put, Expr.pieces]
      exact ((h.exprs _ _ _).parenthesized.cons _).cons _
    | labelled label =>
      simp only [put, Expr.pieces]
      exact (h.framed.before _).cons _
    | item before after =>
      simp only [put, Expr.pieces]
      exact (h.exprs _ _ _).parenthesized.cons _
  · cases p with
    | left op other => exact ⟨!op.isLogical, fun s => rfl⟩
    | right other op => exact ⟨!op.isLogical, fun s => rfl⟩
    | _ => exact ⟨false, fun s => rfl⟩
  · intro s hnull
    cases p <;> cases hnull

/-! ## Selects -/

theorem Framed.clause (opening : List Piece) (h : Expr.IsFramed w f) :
    Framed w fun s => Expr.clause opening (some (f s)) := by
  simp only [Expr.clause]
  exact h.framed.after _

theorem Select.framed_put (t : Select) (p : Select.Place) (h : Expr.IsFramed w f) :
    Framed w fun s => (t.put p (f s)).pieces := by
  obtain ⟨sources, selections, distinct, joins, filter, groupBy, having, orderBy, limit, offset,
    explain⟩ := t
  cases p with
  | selection left right =>
    have hne : ∀ s, (left ++ f s :: right).isEmpty = false := fun s => by simp
    simp only [put, pieces, hne, Bool.false_eq_true, if_false]
    exact (h.exprs _ _ _).after _ |>.before _ |>.before _ |>.before _ |>.before _ |>.before _
      |>.before _ |>.before _ |>.before _
  | on left kind source right =>
    simp only [put, pieces, Join.piecesOfList_eq_flatMap, List.flatMap_append, List.flatMap_cons,
      Join.pieces]
    have hjoin : Framed w fun s => .text " " :: (.require .join :: .text kind.sql :: .text " " ::
        source.pieces ++ .text " ON " :: (f s).pieces) :=
      ((h.framed.cons _).after _).cons _
    exact ((hjoin.before _).after _).after _ |>.before _ |>.before _ |>.before _ |>.before _
      |>.before _ |>.before _
  | filter =>
    simp only [put, pieces]
    exact (Framed.clause _ h).after _ |>.before _ |>.before _ |>.before _ |>.before _ |>.before _
  | groupBy left right =>
    simp only [put, pieces, Expr.piecesOfList_eq_map, List.map_append, List.map_cons]
    exact (h.framed.listClause _ _ _).after _ |>.before _ |>.before _ |>.before _ |>.before _
  | having =>
    simp only [put, pieces]
    exact (Framed.clause _ h).after _ |>.before _ |>.before _ |>.before _
  | orderBy left direction right =>
    simp only [put, pieces, OrderItem.piecesOfList_eq_map, List.map_append, List.map_cons,
      OrderItem.pieces]
    have hitem : Framed w fun s => .require .orderBy :: (f s).pieces ++ Direction.sql direction :=
      (h.framed.cons _).before _
    exact (hitem.listClause _ _ _).after _ |>.before _ |>.before _
  | limit =>
    simp only [put, pieces]
    exact (Framed.clause _ h).after _ |>.before _
  | offset =>
    simp only [put, pieces]
    exact (Framed.clause _ h).after _

end Exprs

theorem Select.framed_putSource (t : Select) (p : Select.SourcePlace) {w : Bool}
    {f : Select → Select} (h : Framed w fun s => (f s).pieces) :
    Framed w fun s => (t.putSource p (f s)).pieces := by
  have hsource : ∀ label, Framed w fun s => (Source.subquery (f s) label).pieces := fun label => by
    simp only [Source.pieces]
    exact (h.cons _).before _
  obtain ⟨sources, selections, distinct, joins, filter, groupBy, having, orderBy, limit, offset,
    explain⟩ := t
  cases p with
  | source left label right =>
    simp only [putSource, pieces, Source.piecesOfList_eq_map, List.map_append, List.map_cons]
    exact ((hsource label).listClause _ _ _).after _ |>.before _ |>.before _ |>.before _
      |>.before _ |>.before _ |>.before _ |>.before _
  | join left kind label on right =>
    simp only [putSource, pieces, Join.piecesOfList_eq_flatMap, List.flatMap_append,
      List.flatMap_cons, Join.pieces]
    have hjoin : Framed w fun s => .text " " :: (.require .join :: .text kind.sql :: .text " " ::
        (Source.subquery (f s) label).pieces ++ .text " ON " :: on.pieces) :=
      ((((hsource label).cons _).cons _).cons _ |>.before _).cons _
    exact ((hjoin.before _).after _).after _ |>.before _ |>.before _ |>.before _ |>.before _
      |>.before _ |>.before _

-- A request to explain a select is no part of it.
theorem Select.pieces_withExplain (s : Select) (explain : Option Explain) :
    ({ s with explain } : Select).pieces = s.pieces := by
  cases s
  rw [pieces, pieces]

mutual

theorem Expr.Around.isFramed : ∀ e : Expr.Around, Expr.IsFramed e.isWritten fun x => e.fill x
  | .subquery s => by
    have hs := Select.Around.framed s
    constructor
    · simp only [Expr.Around.fill, Expr.pieces]
      exact hs.parenthesized
    · exact ⟨false, fun x => rfl⟩
    · intro x
      exact nofun
  | .place p e => p.isFramed (Expr.Around.isFramed e)

theorem Select.Around.framed :
    ∀ s : Select.Around, Framed s.isWritten fun x => (s.fill x).pieces
  | .here => ⟨[], [], fun x => by simp [Select.Around.fill, Select.Around.isWritten]⟩
  | .place s p e => s.framed_put p (Expr.Around.isFramed e)
  | .source s p t => s.framed_putSource p (Select.Around.framed t)
  | .explain s format e => by
    simp only [Select.Around.fill, Select.pieces_withExplain]
    exact .nothing s.pieces

end

/-! ## Statements -/

section Exprs

variable {w : Bool} {f : Select → Expr}

theorem Expr.IsFramed.updates (h : Expr.IsFramed w f) (left : List ColumnUpdate) (column : String)
    (right : List ColumnUpdate) :
    Framed w fun s => updateList (left ++ ⟨column, f s⟩ :: right) := by
  simp only [updateList, List.map_append, List.map_cons, ColumnUpdate.pieces]
  exact ((h.framed.cons _).cons _).separated _ _ _

theorem Expr.IsFramed.returning (h : Expr.IsFramed w f) (left right : List Expr) :
    Framed w fun s => returningClause (some (left ++ f s :: right)) := by
  simp only [returningClause]
  exact ((h.exprs _ _ _).cons _).cons _

theorem Conflict.framed_put (c : Conflict) (p : Conflict.Place) (h : Expr.IsFramed w f) :
    Framed w fun s => (c.put p (f s)).pieces := by
  cases p with
  | target =>
    simp only [put, pieces, ConflictTarget.pieces]
    exact (((h.framed.cons _).before _).cons _).cons _ |>.before _ |>.before _
  | indexFilter =>
    simp only [put, pieces]
    exact (Framed.clause _ h).after _ |>.before _
  | update left column right filter =>
    simp only [put, pieces, ConflictAction.pieces]
    exact (((h.updates _ _ _).cons _).before _).after _
  | filter updates =>
    simp only [put, pieces, ConflictAction.pieces]
    exact ((Framed.clause _ h).after _).after _

-- Rows are written once there are columns.
theorem Insert.framed_cell (i : Insert) (above : List (List Expr)) (left right : List Expr)
    (below : List (List Expr)) (h : Expr.IsFramed w f) :
    Framed (!i.writtenColumns.isEmpty && w)
      fun s => (i.put (.cell above left right below) (f s)).sourcePieces := by
  have hcolumns : ∀ s, (i.put (.cell above left right below) (f s)).writtenColumns =
      i.writtenColumns := fun _ => rfl
  have hsource : ∀ s, (i.put (.cell above left right below) (f s)).source =
      some (.rows (above ++ (left ++ f s :: right) :: below)) := fun _ => rfl
  have hrows : Framed w fun s => rowsPieces (above ++ (left ++ f s :: right) :: below) := by
    simp only [rowsPieces, List.map_append, List.map_cons]
    exact (((h.exprs _ _ _).separated _ _ _).cons _ |>.before _).cons _
  simp only [sourcePieces, hcolumns, hsource]
  cases i.writtenColumns with
  | nil => exact .nothing defaultsClause
  | cons column columns => exact (hrows.cons _).after _

theorem Insert.framed_expr (i : Insert) (h : Framed w fun s => sourceExpr (f s)) :
    Framed w fun s => (i.put .source (f s)).sourcePieces := by
  have hcolumns : ∀ s, (i.put .source (f s)).writtenColumns = i.writtenColumns := fun _ => rfl
  have hsource : ∀ s, (i.put .source (f s)).source = some (.expr (f s)) := fun _ => rfl
  simp only [sourcePieces, hcolumns, hsource]
  cases i.writtenColumns with
  | nil => exact h.cons _
  | cons column columns => exact (h.cons _).after _

theorem Insert.framed_put (i : Insert) (p : Insert.Place) (h : Expr.IsFramed w f)
    (hsource : Framed w fun s => sourceExpr (f s)) :
    Framed (i.writes p && w) fun s => (Query.insert (i.put p (f s))).rootPieces := by
  simp only [rootPieces_eq]
  cases p with
  | cell above left right below =>
    exact (i.framed_cell above left right below h).after i.opening |>.before i.closing
  | source => exact (i.framed_expr hsource).after i.opening |>.before i.closing
  | conflict c p =>
    have hclosing : Framed w fun s => (i.put (.conflict c p) (f s)).closing := by
      simp only [closing, put, Option.toList_some, List.flatMap_singleton]
      exact (c.framed_put p h).before _ |>.before _
    exact hclosing.after (i.opening ++ i.sourcePieces)
  | duplicateKey left column right =>
    have hclosing : Framed w fun s => (i.put (.duplicateKey left column right) (f s)).closing := by
      simp only [closing, put, Option.toList_some, List.flatMap_singleton]
      exact ((h.updates left column right).cons _ |>.cons _).after _ |>.before _
    exact hclosing.after (i.opening ++ i.sourcePieces)
  | returning left right =>
    have hclosing : Framed w fun s => (i.put (.returning left right) (f s)).closing := by
      simp only [closing, put]
      exact (h.returning left right).after _
    exact hclosing.after (i.opening ++ i.sourcePieces)

theorem Update.framed_put (u : Update) (p : Update.Place) (h : Expr.IsFramed w f) :
    Framed (u.writes p && w) fun s => (u.put p (f s)).pieces := by
  obtain ⟨table, updates, filter, returning, explain⟩ := u
  cases p with
  | update left column right =>
    have hne : ∀ s, (left ++ ⟨column, f s⟩ :: right : List ColumnUpdate).isEmpty = false :=
      fun s => by simp
    simp only [pieces, put, hne, Bool.false_eq_true, if_false]
    exact ((((h.updates left column right).cons _).after _) |>.before _ |>.before _).cons _
  | filter =>
    cases updates with
    | nil => exact .nothing [.require .update, .refuse (.noUpdates table.name)]
    | cons first rest =>
      simp only [pieces, put, List.isEmpty_cons, Bool.false_eq_true, if_false]
      exact ((Framed.clause _ h).after _ |>.before _).cons _
  | returning left right =>
    cases updates with
    | nil => exact .nothing [.require .update, .refuse (.noUpdates table.name)]
    | cons first rest =>
      simp only [pieces, put, List.isEmpty_cons, Bool.false_eq_true, if_false]
      exact ((h.returning left right).after _).cons _

theorem Delete.framed_put (d : Delete) (p : Delete.Place) (h : Expr.IsFramed w f) :
    Framed w fun s => (d.put p (f s)).pieces := by
  cases p with
  | filter =>
    simp only [pieces, put]
    exact (Framed.clause _ h).after _ |>.before _
  | returning left right =>
    simp only [pieces, put]
    exact (h.returning left right).after _

theorem Explain.framed (format : Option String) (h : Expr.IsFramed w f) :
    Framed w fun s => (Explain.mk format (some (f s))).pieces := by
  simp only [pieces]
  exact ((h.framed.before _).cons _).cons _ |>.before _

end Exprs

-- The select that an insert takes its rows from stands without parentheses.
theorem Expr.Around.framed_sourceExpr (e : Expr.Around) :
    Framed e.isWritten fun x => Insert.sourceExpr (e.fill x) := by
  cases e with
  | subquery s => exact s.framed
  | place p e =>
    have hpieces : ∀ x, Insert.sourceExpr (p.put (e.fill x)) = (p.put (e.fill x)).pieces := by
      intro x
      cases p <;> rfl
    simp only [Expr.Around.fill, hpieces]
    exact (Expr.Around.isFramed (.place p e)).framed

theorem Query.explain_withExplain (q : Query) (explain : Option Explain) :
    (q.withExplain explain).explain = explain := by
  cases q <;> rfl

theorem Query.pieces_withExplain (q : Query) (explain : Option Explain) :
    (q.withExplain explain).pieces = q.pieces := by
  cases q with
  | select s => exact s.pieces_withExplain explain
  | insert i => rfl
  | update u => rfl
  | delete d => rfl

/-- A select inside a statement is written between pieces that do not depend on it. -/
theorem Query.Around.framed (q : Query.Around) :
    Framed q.isWritten fun x => (q.fill x).rootPieces := by
  cases q with
  | select s p e =>
    have hroot : ∀ x, (fill x (.select s p e)).rootPieces =
        s.explain.elim [] Explain.pieces ++ (s.put p (e.fill x)).pieces := by
      intro x
      rw [Query.rootPieces_eq_append]
      cases p <;> rfl
    simp only [hroot]
    exact (s.framed_put p e.isFramed).after _
  | source s p t =>
    have hroot : ∀ x, (fill x (.source s p t)).rootPieces =
        s.explain.elim [] Explain.pieces ++ (s.putSource p (t.fill x)).pieces := by
      intro x
      rw [Query.rootPieces_eq_append]
      cases p <;> rfl
    simp only [hroot]
    exact (s.framed_putSource p t.framed).after _
  | insert i p e => exact i.framed_put p e.isFramed e.framed_sourceExpr
  | update u p e =>
    have hroot : ∀ x, (fill x (.update u p e)).rootPieces =
        u.explain.elim [] Explain.pieces ++ (u.put p (e.fill x)).pieces := by
      intro x
      rw [Query.rootPieces_eq_append]
      cases p <;> rfl
    simp only [hroot]
    exact (u.framed_put p e.isFramed).after _
  | delete d p e =>
    have hroot : ∀ x, (fill x (.delete d p e)).rootPieces =
        d.explain.elim [] Explain.pieces ++ (d.put p (e.fill x)).pieces := by
      intro x
      rw [Query.rootPieces_eq_append]
      cases p <;> rfl
    simp only [hroot]
    exact (d.framed_put p e.isFramed).after _
  | explain q format e =>
    simp only [fill, Query.rootPieces_eq_append, Query.explain_withExplain,
      Query.pieces_withExplain, Option.elim_some]
    exact (Explain.framed format e.isFramed).before _

end SqlWeave
