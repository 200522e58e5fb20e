import SqlWeave.Proofs.Collecting
import SqlWeave.Proofs.Writing

/-!
# What a statement asks for

A statement is compiled when the dialect has every construct that is written and the statement is
complete.  This file reads off a tree what is checked while it is written, in the order of its text
(`Query.checks`), and shows that compiling fails with the first check that fails.
-/

namespace SqlWeave

/-- Something that is checked while a statement is written. -/
inductive Check where
  /-- The dialect has to support a construct. -/
  | support (c : Construct)
  /-- The statement is not complete: this check fails in every dialect. -/
  | incomplete (fault : ShapeFault)

namespace Check

def error? (d : Dialect) : Check → Option QueryError
  | .support c => if d.supports c then none else some (.unsupported d.name c)
  | .incomplete fault => some (.shape fault)

def construct? : Check → Option Construct
  | .support c => some c
  | .incomplete _ => none

end Check

/-! ## Constructs of a tree -/

mutual

/-- The constructs that are written for an expression, in order.  A star takes none, a subquery
takes those of its select, and a null that is written as a keyword is not a value. -/
def Expr.constructs : Expr → List Construct
  | .reference _ _ => [.reference]
  | .value _ => [.value]
  | .raw fragments params =>
    .raw :: ((Expr.constructsOfList params).take fragments.length).flatten
  | .binary left op right =>
    .binaryOperation :: left.constructs ++
      if isKeywordNull op right then [] else right.constructs
  | .unary _ e => .unaryOperation :: e.constructs
  | .call _ args => .call :: (Expr.constructsOfList args).flatten
  | .aliased e _ => .aliased :: e.constructs
  | .list items => .list :: (Expr.constructsOfList items).flatten
  | .subquery s => s.constructs
  | .star _ => []
  | .defaultMarker => [.defaultMarker]

def Expr.constructsOfList : List Expr → List (List Construct)
  | [] => []
  | e :: rest => e.constructs :: Expr.constructsOfList rest

def Expr.constructsOfOption : Option Expr → List Construct
  | none => []
  | some e => e.constructs

def Source.constructs : Source → List Construct
  | .table _ _ => [.table]
  | .subquery s _ => s.constructs

def Source.constructsOfList : List Source → List Construct
  | [] => []
  | x :: rest => x.constructs ++ Source.constructsOfList rest

def Join.constructsOfList : List Join → List Construct
  | [] => []
  | ⟨_, x, e⟩ :: rest => .join :: x.constructs ++ e.constructs ++ Join.constructsOfList rest

def OrderItem.constructsOfList : List OrderItem → List Construct
  | [] => []
  | ⟨e, _⟩ :: rest => .orderBy :: e.constructs ++ OrderItem.constructsOfList rest

/-- The constructs of a select.  Its own request to explain it is not written. -/
def Select.constructs : Select → List Construct
  | ⟨sources, selections, _, joins, filter, groupBy, having, orderBy, limit, offset, _⟩ =>
    .select :: (Expr.constructsOfList selections).flatten ++ Source.constructsOfList sources ++
      Join.constructsOfList joins ++ Expr.constructsOfOption filter ++
      (Expr.constructsOfList groupBy).flatten ++ Expr.constructsOfOption having ++
      OrderItem.constructsOfList orderBy ++
      (if limit.isSome then [.limit] else []) ++ Expr.constructsOfOption limit ++
      (if offset.isSome then [.offset] else []) ++ Expr.constructsOfOption offset

end

@[simp] theorem Expr.constructsOfList_eq_map (es : List Expr) :
    Expr.constructsOfList es = es.map Expr.constructs := by
  induction es with
  | nil => rfl
  | cons e rest ih => rw [Expr.constructsOfList, ih, List.map_cons]

@[simp] theorem Source.constructsOfList_eq_flatMap (xs : List Source) :
    Source.constructsOfList xs = xs.flatMap Source.constructs := by
  induction xs with
  | nil => rfl
  | cons x rest ih => rw [Source.constructsOfList, ih, List.flatMap_cons]

@[simp] theorem Join.constructsOfList_eq_flatMap (js : List Join) :
    Join.constructsOfList js =
      js.flatMap fun j => .join :: j.source.constructs ++ j.on.constructs := by
  induction js with
  | nil => rfl
  | cons j rest ih =>
    cases j
    rw [Join.constructsOfList, ih, List.flatMap_cons]

@[simp] theorem OrderItem.constructsOfList_eq_flatMap (is : List OrderItem) :
    OrderItem.constructsOfList is = is.flatMap fun i => .orderBy :: i.expr.constructs := by
  induction is with
  | nil => rfl
  | cons i rest ih =>
    cases i
    rw [OrderItem.constructsOfList, ih, List.flatMap_cons]

/-! ## Checks of statements -/

def updateConstructs (updates : List ColumnUpdate) : List Construct :=
  updates.flatMap fun u => u.value.constructs

def returningConstructs : Option (List Expr) → List Construct
  | some selections => .returning :: selections.flatMap Expr.constructs
  | none => []

def ConflictTarget.constructs : ConflictTarget → List Construct
  | .expr e => e.constructs
  | _ => []

def ConflictAction.constructs : ConflictAction → List Construct
  | .nothing => []
  | .update updates filter => updateConstructs updates ++ Expr.constructsOfOption filter

def Conflict.constructs (c : Conflict) : List Construct :=
  .onConflict :: c.target.constructs ++ Expr.constructsOfOption c.indexFilter ++
    c.action.constructs

def Explain.constructs (x : Explain) : List Construct :=
  .explain :: Expr.constructsOfOption x.options

namespace Insert

/-- What is checked for the columns and the source of rows.  Rows without columns are written as
defaults, and columns without a source leave the statement incomplete. -/
def sourceChecks (i : Insert) : List Check :=
  match i.source with
  | some (.rows rows) =>
    if i.writtenColumns = [] then [.support .defaultValues]
    else .support .values :: (rows.flatMap fun row => row.flatMap Expr.constructs).map .support
  | some (.expr e) => e.constructs.map .support
  | some .defaults => [.support .defaultValues]
  | none =>
    if i.writtenColumns = [] then [.support .defaultValues]
    else [.incomplete (.noSource i.into.name)]

def checks (i : Insert) : List Check :=
  .support .insert :: (if i.replace then [.support .replace] else []) ++
    (if i.ignore then [.support .insertIgnore] else []) ++ i.sourceChecks ++
    ((i.onConflict.toList.flatMap Conflict.constructs) ++
      (i.onDuplicateKey.toList.flatMap fun updates =>
        .onDuplicateKey :: updateConstructs updates) ++
      returningConstructs i.returning).map .support

end Insert

def Update.checks (u : Update) : List Check :=
  .support .update ::
    if u.updates = [] then [.incomplete (.noUpdates u.table.name)]
    else
      (updateConstructs u.updates ++ Expr.constructsOfOption u.filter ++
        returningConstructs u.returning).map .support

def Delete.checks (d : Delete) : List Check :=
  (.delete :: Expr.constructsOfOption d.filter ++ returningConstructs d.returning).map .support

namespace Query

/-- What is checked for a statement without its own request to explain it. -/
def ownChecks : Query → List Check
  | .select s => s.constructs.map .support
  | .insert i => i.checks
  | .update u => u.checks
  | .delete d => d.checks

/-- What is checked for a statement at the root of a tree, in the order in which it is written. -/
def checks (q : Query) : List Check :=
  (q.explain.toList.flatMap Explain.constructs).map .support ++ q.ownChecks

/-- The constructs that are written for a statement. -/
def constructs (q : Query) : List Construct := q.checks.filterMap Check.construct?

/-- What the root of a tree lacks: an update has to set something, and an insert that names columns
has to have a source of rows. -/
inductive Lacks : Query → ShapeFault → Prop where
  | updates (u : Update) : u.updates = [] → Lacks (.update u) (.noUpdates u.table.name)
  | source (i : Insert) : i.writtenColumns ≠ [] → i.source = none →
    Lacks (.insert i) (.noSource i.into.name)

end Query

/-! ## The checks and the pieces -/

namespace Piece

/-- What is checked when a piece is written. -/
def check? : Piece → Option Check
  | .require c => some (.support c)
  | .refuse fault => some (.incomplete fault)
  | _ => none

/-- What is checked when pieces are written. -/
def checks (pieces : List Piece) : List Check := pieces.filterMap check?

@[simp] theorem checks_nil : checks [] = [] := rfl

@[simp] theorem checks_append (a b : List Piece) : checks (a ++ b) = checks a ++ checks b :=
  List.filterMap_append

@[simp] theorem checks_text (s : String) (rest : List Piece) :
    checks (.text s :: rest) = checks rest := rfl

@[simp] theorem checks_name (s : String) (rest : List Piece) :
    checks (.name s :: rest) = checks rest := rfl

@[simp] theorem checks_require (c : Construct) (rest : List Piece) :
    checks (.require c :: rest) = .support c :: checks rest := rfl

@[simp] theorem checks_separated (separator : String) (groups : List (List Piece)) :
    checks (separated separator groups) = groups.flatMap checks :=
  filterMap_separated (fun _ => rfl) separator groups

@[simp] theorem checks_interleaved (fragments : List String) (groups : List (List Piece)) :
    checks (interleaved fragments groups) = (groups.take fragments.length).flatMap checks :=
  filterMap_interleaved (fun _ => rfl) fragments groups

@[simp] theorem checks_parenthesized (pieces : List Piece) :
    checks (parenthesized pieces) = checks pieces :=
  filterMap_parenthesized (fun _ => rfl) pieces

@[simp] theorem checks_operand (e : Expr) (pieces : List Piece) :
    checks (operand e pieces) = checks pieces :=
  filterMap_operand (fun _ => rfl) e pieces

@[simp] theorem checks_listClause (keyword : String) (groups : List (List Piece)) :
    checks (listClause keyword groups) = groups.flatMap checks :=
  filterMap_listClause (fun _ => rfl) keyword groups

@[simp] theorem checks_flatMap {α : Type} (f : α → List Piece) (xs : List α) :
    checks (xs.flatMap f) = xs.flatMap fun x => checks (f x) :=
  List.filterMap_flatMap

end Piece

open Piece (checks)

@[simp] theorem Table.checks_pieces (t : Table) : checks t.pieces = [] := by
  rcases t with ⟨_ | schema, name⟩ <;> rfl

@[simp] theorem Table.checks_qualifier (t : Option Table) : checks (Table.qualifier t) = [] := by
  cases t with
  | none => rfl
  | some t => rw [Table.qualifier, Piece.checks_append, t.checks_pieces]; rfl

@[simp] theorem Direction.checks_sql (d : Option Direction) : checks (Direction.sql d) = [] := by
  rcases d with _ | _ | _ <;> rfl

theorem flatMap_checks_map {α : Type} {f : α → List Piece} {g : α → List Construct} {xs : List α}
    (h : ∀ x ∈ xs, checks (f x) = (g x).map .support) :
    (xs.map f).flatMap checks = (xs.flatMap g).map .support := by
  rw [List.flatMap_map, List.map_flatMap]
  exact List.flatMap_congr h

theorem Expr.checks_clause {keyword : String} {o : Option Expr}
    (h : ∀ e ∈ o, checks e.pieces = e.constructs.map .support) :
    checks (Expr.clause [.text keyword] o) = (Expr.constructsOfOption o).map .support := by
  cases o with
  | none => rfl
  | some e => exact h e rfl

theorem Expr.checks_requiredClause {c : Construct} {keyword : String} {o : Option Expr}
    (h : ∀ e ∈ o, checks e.pieces = e.constructs.map .support) :
    checks (Expr.clause [.require c, .text keyword] o) =
      ((if o.isSome then [c] else []) ++ Expr.constructsOfOption o).map .support := by
  cases o with
  | none => rfl
  | some e => exact congrArg (Check.support c :: ·) (h e rfl)

theorem Expr.checks_hereditary :
    Hereditary (fun e => checks e.pieces = e.constructs.map .support)
      (fun x => checks x.pieces = x.constructs.map .support)
      (fun s => checks s.pieces = s.constructs.map .support) where
  reference table column := by
    rw [Expr.pieces, List.cons_append, Piece.checks_require, Piece.checks_append,
      Table.checks_qualifier, Expr.constructs]
    rfl
  value v := by rw [Expr.pieces, Expr.constructs]; rfl
  raw fragments params h := by
    rw [Expr.pieces, Expr.constructs, Expr.piecesOfList_eq_map, Expr.constructsOfList_eq_map,
      Piece.checks_require, Piece.checks_interleaved, List.map_cons, ← List.map_take,
      ← List.map_take, ← List.flatMap_def]
    rw [flatMap_checks_map fun e he => h e (List.mem_of_mem_take he)]
  binary left op right hl hr := by
    rw [Expr.pieces, Expr.constructs, Piece.checks_require]
    -- Nothing is checked for a null that is written as a keyword.
    by_cases hk : isKeywordNull op right
    · by_cases hop : op.isLogical <;> simp [hk, hop, hl]
    · by_cases hop : op.isLogical <;> simp [hk, hop, hl, hr]
  unary op e h := by
    rw [Expr.pieces, Expr.constructs, Piece.checks_require, Piece.checks_text,
      Piece.checks_operand, h, List.map_cons]
  call name args h := by
    rw [Expr.pieces, Expr.constructs, Expr.piecesOfList_eq_map, Expr.constructsOfList_eq_map,
      Piece.checks_require, Piece.checks_text, Piece.checks_parenthesized,
      Piece.checks_separated, flatMap_checks_map h, List.map_cons, ← List.flatMap_def]
  aliased e label h := by
    rw [Expr.pieces, Expr.constructs, List.cons_append, Piece.checks_require,
      Piece.checks_append, h, List.map_cons]
    exact congrArg (Check.support .aliased :: ·) (List.append_nil _)
  list items h := by
    rw [Expr.pieces, Expr.constructs, Expr.piecesOfList_eq_map, Expr.constructsOfList_eq_map,
      Piece.checks_require, Piece.checks_parenthesized, Piece.checks_separated,
      flatMap_checks_map h, List.map_cons, ← List.flatMap_def]
  subquery s h := by rw [Expr.pieces, Expr.constructs, Piece.checks_parenthesized, h]
  star table := by
    rw [Expr.pieces, Expr.constructs, Piece.checks_append, Table.checks_qualifier]
    rfl
  defaultMarker := by rw [Expr.pieces, Expr.constructs]; rfl
  table t label := by
    rw [Source.constructs]
    cases label with
    | none => simp [Source.pieces]
    | some label => simp [Source.pieces]
  derived s label h := by
    rw [Source.pieces, Source.constructs, List.cons_append, Piece.checks_text,
      Piece.checks_append, h]
    exact List.append_nil _
  select s h := by
    obtain ⟨sources, selections, distinct, joins, filter, groupBy, having, orderBy, limit, offset,
      explain⟩ := s
    have hdistinct : checks (if distinct then [.text "DISTINCT "] else []) = [] := by
      split <;> rfl
    have hselections : checks (if selections.isEmpty then [.text "*"]
        else Piece.separated ", " (selections.map Expr.pieces)) =
          (selections.flatMap Expr.constructs).map .support := by
      split
      · next he => rw [List.isEmpty_iff.mp he]; rfl
      · rw [Piece.checks_separated, flatMap_checks_map h.selections]
    have hjoins : checks (joins.flatMap fun j => .text " " :: j.pieces) =
        (joins.flatMap fun j => .join :: j.source.constructs ++ j.on.constructs).map
          .support := by
      rw [Piece.checks_flatMap, List.map_flatMap]
      refine List.flatMap_congr fun j hj => ?_
      rw [Piece.checks_text, j.pieces_eq, List.cons_append, Piece.checks_require]
      simp [h.joins j hj]
    have horderBy : (orderBy.map OrderItem.pieces).flatMap checks =
        (orderBy.flatMap fun i => .orderBy :: i.expr.constructs).map .support := by
      refine flatMap_checks_map fun i hi => ?_
      rw [i.pieces_eq, List.cons_append, Piece.checks_require, Piece.checks_append,
        h.orderBy i hi, Direction.checks_sql, List.append_nil, List.map_cons]
    rw [Select.pieces, Select.constructs]
    simp only [Expr.piecesOfList_eq_map, Expr.constructsOfList_eq_map, Source.piecesOfList_eq_map,
      Source.constructsOfList_eq_flatMap, Join.piecesOfList_eq_flatMap,
      Join.constructsOfList_eq_flatMap, OrderItem.piecesOfList_eq_map,
      OrderItem.constructsOfList_eq_flatMap, ← List.flatMap_def, List.cons_append,
      List.append_assoc, List.map_cons, List.map_append, Piece.checks_require, Piece.checks_text,
      Piece.checks_append, Piece.checks_listClause, hdistinct, List.nil_append, hselections,
      hjoins, horderBy, flatMap_checks_map h.sources, flatMap_checks_map h.groupBy,
      Expr.checks_clause h.filter, Expr.checks_clause h.having,
      Expr.checks_requiredClause h.limit, Expr.checks_requiredClause h.offset]

@[simp] theorem Expr.checks_pieces (e : Expr) : checks e.pieces = e.constructs.map .support :=
  Expr.checks_hereditary.expr e

@[simp] theorem Select.checks_pieces (s : Select) : checks s.pieces = s.constructs.map .support :=
  Expr.checks_hereditary.ofSelect s

theorem checks_whereClause (o : Option Expr) :
    checks (Expr.clause [.text " WHERE "] o) = (Expr.constructsOfOption o).map .support :=
  Expr.checks_clause fun e _ => e.checks_pieces

theorem checks_updateList (updates : List ColumnUpdate) :
    checks (updateList updates) = (updateConstructs updates).map .support := by
  rw [updateList, Piece.checks_separated, updateConstructs]
  refine flatMap_checks_map fun u _ => ?_
  rw [ColumnUpdate.pieces, Piece.checks_name, Piece.checks_text, Expr.checks_pieces]

theorem checks_returningClause (returning : Option (List Expr)) :
    checks (returningClause returning) = (returningConstructs returning).map .support := by
  cases returning with
  | none => rfl
  | some selections =>
    rw [returningClause, Piece.checks_require, Piece.checks_text, Piece.checks_separated,
      Expr.piecesOfList_eq_map, flatMap_checks_map fun e _ => e.checks_pieces,
      returningConstructs, List.map_cons]

theorem checks_columnList (columns : List String) : checks (columnList columns) = [] := by
  have hnames : (columns.map fun n => [Piece.name n]).flatMap checks = [] := by
    rw [List.flatMap_map, List.flatMap_eq_nil_iff]
    exact fun _ _ => rfl
  rw [columnList, List.cons_append, Piece.checks_text, Piece.checks_append, Piece.nameList,
    Piece.checks_separated, hnames]
  rfl

theorem checks_rowsPieces (rows : List (List Expr)) :
    checks (rowsPieces rows) =
      .support .values ::
        (rows.flatMap fun row => row.flatMap Expr.constructs).map .support := by
  have hrows : (rows.map fun row =>
      Piece.separated ", " (Expr.piecesOfList row)).flatMap checks =
        (rows.flatMap fun row => row.flatMap Expr.constructs).map .support := by
    refine flatMap_checks_map fun row _ => ?_
    rw [Piece.checks_separated, Expr.piecesOfList_eq_map]
    exact flatMap_checks_map fun e _ => e.checks_pieces
  rw [rowsPieces, List.cons_append, List.cons_append, Piece.checks_require, Piece.checks_text,
    Piece.checks_append, Piece.checks_separated, hrows]
  exact congrArg (Check.support .values :: ·) (List.append_nil _)

theorem Conflict.checks_pieces (c : Conflict) :
    checks c.pieces = c.constructs.map .support := by
  obtain ⟨target, indexFilter, action⟩ := c
  have htarget : checks target.pieces = target.constructs.map .support := by
    cases target with
    | unspecified => rfl
    | columns names => exact checks_columnList names
    | constraint name => rfl
    | expr e =>
      rw [ConflictTarget.pieces, List.cons_append, Piece.checks_text, Piece.checks_append,
        Expr.checks_pieces]
      exact List.append_nil _
  have haction : checks action.pieces = action.constructs.map .support := by
    cases action with
    | nothing => rfl
    | update updates filter =>
      rw [ConflictAction.pieces, List.cons_append, Piece.checks_text, Piece.checks_append,
        checks_updateList, checks_whereClause, ConflictAction.constructs, List.map_append]
  simp [Conflict.pieces, Conflict.constructs, htarget, haction, checks_whereClause]

namespace Insert

theorem checks_sourceExpr (e : Expr) : Piece.checks (sourceExpr e) = e.constructs.map .support := by
  cases e with
  | subquery s => rw [sourceExpr, s.checks_pieces, Expr.constructs]
  | _ => exact Expr.checks_pieces _

theorem checks_sourcePieces (i : Insert) : Piece.checks i.sourcePieces = i.sourceChecks := by
  unfold sourcePieces sourceChecks
  split
  · next rows column columns hsource hcolumns =>
    simp [hsource, hcolumns, checks_columnList, checks_rowsPieces]
  · next e hsource hcolumns => simp [hsource, checks_sourceExpr]
  · next e column columns hsource hcolumns =>
    simp [hsource, checks_columnList, checks_sourceExpr]
  · next column columns hsource hcolumns => simp [hsource, hcolumns]; rfl
  · next rows hsource hcolumns => simp [hsource, hcolumns]; rfl
  · next hsource => simp [hsource]; rfl
  · next hsource hcolumns => simp [hsource, hcolumns]; rfl

theorem checks_pieces (i : Insert) : Piece.checks i.pieces = i.checks := by
  have hreplace : Piece.checks (if i.replace then [.require .replace, .text "REPLACE"]
      else [.text "INSERT"]) = if i.replace then [.support .replace] else [] := by
    split <;> rfl
  have hignore : Piece.checks (if i.ignore then [.require .insertIgnore, .text " ", .ignoreKeyword]
      else []) = if i.ignore then [.support .insertIgnore] else [] := by
    split <;> rfl
  unfold Insert.pieces Insert.checks
  cases hc : i.onConflict <;> cases hd : i.onDuplicateKey <;>
    simp [hreplace, hignore, checks_sourcePieces, Conflict.checks_pieces, checks_updateList,
      checks_returningClause]

end Insert

theorem Update.checks_pieces (u : Update) : Piece.checks u.pieces = u.checks := by
  unfold Update.pieces Update.checks
  by_cases hu : u.updates = []
  · rw [if_pos hu, if_pos (List.isEmpty_iff.mpr hu)]
    rfl
  · rw [if_neg hu, if_neg (mt List.isEmpty_iff.mp hu)]
    simp [checks_updateList, checks_whereClause, checks_returningClause]

theorem Delete.checks_pieces (d : Delete) : Piece.checks d.pieces = d.checks := by
  simp [Delete.pieces, Delete.checks, checks_whereClause, checks_returningClause]

theorem Explain.checks_pieces (x : Explain) :
    Piece.checks x.pieces = x.constructs.map .support := by
  obtain ⟨format, options⟩ := x
  cases format <;> cases options <;>
    simp [Explain.pieces, Explain.constructs, Expr.constructsOfOption] <;> rfl

-- What is checked while a statement is written is what its tree asks for, in the same order.
theorem Query.checks_rootPieces (q : Query) : Piece.checks q.rootPieces = q.checks := by
  have hown : Piece.checks q.pieces = q.ownChecks := by
    cases q with
    | select s => exact s.checks_pieces
    | insert i => exact i.checks_pieces
    | update u => exact u.checks_pieces
    | delete d => exact d.checks_pieces
  unfold rootPieces Query.checks
  cases q.explain with
  | none => exact hown
  | some x => simp [x.checks_pieces, hown]

/-! ## Constructs inside expressions -/

/-- Whether a construct can stand in an expression or in a select. -/
def Construct.IsInner : Construct → Prop
  | .insert | .update | .delete | .values | .defaultValues | .onConflict | .onDuplicateKey
  | .insertIgnore | .replace | .returning | .explain => False
  | _ => True

theorem Expr.forall_constructsOfOption {p : Construct → Prop} {o : Option Expr} :
    (∀ c ∈ Expr.constructsOfOption o, p c) ↔ ∀ e ∈ o, ∀ c ∈ e.constructs, p c := by
  cases o <;> simp [Expr.constructsOfOption]

theorem Expr.isInner_hereditary :
    Hereditary (fun e => ∀ c ∈ e.constructs, c.IsInner) (fun x => ∀ c ∈ x.constructs, c.IsInner)
      (fun s => ∀ c ∈ s.constructs, c.IsInner) where
  reference table column := by simp [Expr.constructs, Construct.IsInner]
  value v := by simp [Expr.constructs, Construct.IsInner]
  raw fragments params h := by
    rw [Expr.constructs, Expr.constructsOfList_eq_map, ← List.map_take, ← List.flatMap_def,
      List.forall_mem_cons]
    refine ⟨trivial, fun c hc => ?_⟩
    obtain ⟨e, he, hce⟩ := List.mem_flatMap.mp hc
    exact h e (List.mem_of_mem_take he) c hce
  binary left op right hl hr := by
    rw [Expr.constructs, List.cons_append, List.forall_mem_cons, List.forall_mem_append]
    refine ⟨trivial, hl, ?_⟩
    split
    · exact nofun
    · exact hr
  unary op e h := by
    rw [Expr.constructs, List.forall_mem_cons]
    exact ⟨trivial, h⟩
  call name args h := by
    rw [Expr.constructs, Expr.constructsOfList_eq_map, ← List.flatMap_def, List.forall_mem_cons,
      List.forall_mem_flatMap]
    exact ⟨trivial, h⟩
  aliased e label h := by
    rw [Expr.constructs, List.forall_mem_cons]
    exact ⟨trivial, h⟩
  list items h := by
    rw [Expr.constructs, Expr.constructsOfList_eq_map, ← List.flatMap_def, List.forall_mem_cons,
      List.forall_mem_flatMap]
    exact ⟨trivial, h⟩
  subquery s h := by rw [Expr.constructs]; exact h
  star table := by rw [Expr.constructs]; exact nofun
  defaultMarker := by simp [Expr.constructs, Construct.IsInner]
  table t label := by simp [Source.constructs, Construct.IsInner]
  derived s label h := by rw [Source.constructs]; exact h
  select s h := by
    cases s
    simp only [Select.constructs, Expr.constructsOfList_eq_map, ← List.flatMap_def,
      Source.constructsOfList_eq_flatMap, Join.constructsOfList_eq_flatMap,
      OrderItem.constructsOfList_eq_flatMap, List.cons_append, List.append_assoc,
      List.forall_mem_cons, List.forall_mem_append, List.forall_mem_flatMap,
      Expr.forall_constructsOfOption]
    have hlimit : ∀ (c : Construct) (b : Bool), c.IsInner →
        ∀ c' ∈ (if b then [c] else []), c'.IsInner := by
      intro c b hc c' hc'
      cases b <;> simp_all
    exact ⟨trivial, h.selections, h.sources, fun j hj => ⟨trivial, h.joins j hj⟩, h.filter,
      h.groupBy, h.having, fun i hi => ⟨trivial, h.orderBy i hi⟩, hlimit _ _ trivial, h.limit,
      hlimit _ _ trivial, h.offset⟩

theorem Expr.isInner_constructs (e : Expr) : ∀ c ∈ e.constructs, c.IsInner :=
  Expr.isInner_hereditary.expr e

/-! ## Compiling -/

theorem Piece.failure_eq (d : Dialect) (piece : Piece) :
    piece.failure d = piece.check?.bind (Check.error? d) := by
  cases piece <;> rfl

theorem Piece.findSome?_failure (d : Dialect) (pieces : List Piece) :
    pieces.findSome? (Piece.failure d) = (Piece.checks pieces).findSome? (Check.error? d) := by
  induction pieces with
  | nil => rfl
  | cons piece rest ih =>
    rw [List.findSome?_cons, piece.failure_eq, ih, Piece.checks, Piece.checks, List.filterMap_cons]
    cases piece.check? <;> rfl

theorem Check.error?_support (d : Dialect) (c : Construct) :
    (Check.support c).error? d = none ↔ d.supports c = true := by
  simp [Check.error?]

theorem incomplete_notMem_map (fault : ShapeFault) (cs : List Construct) :
    .incomplete fault ∉ cs.map Check.support := by
  simp

theorem Insert.incomplete_mem_checks (i : Insert) (fault : ShapeFault) :
    .incomplete fault ∈ i.checks ↔ (Query.insert i).Lacks fault := by
  have hlacks : (Query.insert i).Lacks fault ↔
      (i.writtenColumns ≠ [] ∧ i.source = none) ∧ fault = .noSource i.into.name :=
    ⟨fun h => by cases h with | source _ hc hs => exact ⟨⟨hc, hs⟩, rfl⟩,
      fun ⟨⟨hc, hs⟩, hf⟩ => hf ▸ .source i hc hs⟩
  have hsource : .incomplete fault ∈ i.checks ↔ .incomplete fault ∈ i.sourceChecks := by
    unfold Insert.checks
    cases i.replace <;> cases i.ignore <;> simp
  rw [hsource, hlacks, Insert.sourceChecks]
  -- Only columns without a source of rows are incomplete.
  rcases hs : i.source with _ | rows | e | _
  · by_cases hc : i.writtenColumns = [] <;> simp [hc]
  · by_cases hc : i.writtenColumns = [] <;> simp [hc]
  · simp
  · simp

namespace Query

variable (d : Dialect) (q : Query)

theorem incomplete_mem_checks (fault : ShapeFault) :
    .incomplete fault ∈ q.checks ↔ q.Lacks fault := by
  have hown : .incomplete fault ∈ q.checks ↔ .incomplete fault ∈ q.ownChecks := by
    rw [checks, List.mem_append]
    exact or_iff_right (incomplete_notMem_map fault _)
  rw [hown]
  cases q with
  | select s => exact iff_of_false (incomplete_notMem_map fault _) nofun
  | insert i => exact i.incomplete_mem_checks fault
  | update u =>
    show _ ∈ u.checks ↔ _
    rw [Update.checks]
    constructor
    · intro h
      by_cases hu : u.updates = []
      · have hfault : fault = .noUpdates u.table.name := by simpa [hu] using h
        exact hfault ▸ .updates u hu
      · exact absurd h (by simp [hu])
    · rintro ⟨_, hu⟩
      simp [hu]
  | delete x => exact iff_of_false (incomplete_notMem_map fault _) nofun

theorem support_mem_checks (c : Construct) : .support c ∈ q.checks ↔ c ∈ q.constructs := by
  rw [constructs, List.mem_filterMap]
  constructor
  · intro h
    exact ⟨_, h, rfl⟩
  · rintro ⟨_ | _, h, hc⟩
    · exact Option.some.inj hc ▸ h
    · cases hc

theorem compile_eq :
    q.compile d =
      match q.checks.findSome? (Check.error? d) with
      | some e => .error e
      | none => .ok (Sql.ofSymbols d (q.symbols d)) := by
  rw [compile, Sql.ofPieces_eq, Piece.findSome?_failure, checks_rootPieces]
  rfl

theorem compile_eq_error_iff (e : QueryError) :
    q.compile d = .error e ↔ q.checks.findSome? (Check.error? d) = some e := by
  rw [compile_eq]
  cases q.checks.findSome? (Check.error? d) <;> simp

theorem compile_eq_ok_iff :
    (∃ sql, q.compile d = .ok sql) ↔ ∀ check ∈ q.checks, check.error? d = none := by
  rw [compile_eq, ← List.findSome?_eq_none_iff]
  cases q.checks.findSome? (Check.error? d) <;> simp

/-- A statement compiles exactly when the dialect supports every construct that is written for it
and its root lacks nothing.  Otherwise the error is that of the first check that fails, in the order
in which the statement is written. -/
theorem compile_fails_exactly :
    ((∃ sql, q.compile d = .ok sql) ↔
      (∀ c ∈ q.constructs, d.supports c = true) ∧ ∀ fault, ¬ q.Lacks fault) ∧
    (∀ e, q.compile d = .error e ↔
      ∃ before check after, q.checks = before ++ check :: after ∧
        (∀ earlier ∈ before, earlier.error? d = none) ∧ check.error? d = some e) ∧
    ∀ fault, .incomplete fault ∈ q.checks ↔ q.Lacks fault := by
  refine ⟨?_, ?_, q.incomplete_mem_checks⟩
  · rw [compile_eq_ok_iff]
    constructor
    · intro h
      constructor
      · intro c hc
        exact (Check.error?_support d c).mp (h _ ((q.support_mem_checks c).mpr hc))
      · intro fault hlacks
        cases h _ ((q.incomplete_mem_checks fault).mpr hlacks)
    · rintro ⟨hsupports, hcomplete⟩ check hcheck
      cases check with
      | support c =>
        exact (Check.error?_support d c).mpr (hsupports c ((q.support_mem_checks c).mp hcheck))
      | incomplete fault =>
        exact absurd ((q.incomplete_mem_checks fault).mp hcheck) (hcomplete fault)
  · intro e
    rw [compile_eq_error_iff, List.findSome?_eq_some_iff]
    constructor
    · rintro ⟨before, check, after, hchecks, hfails, hbefore⟩
      exact ⟨before, check, after, hchecks, hbefore, hfails⟩
    · rintro ⟨before, check, after, hchecks, hbefore, hfails⟩
      exact ⟨before, check, after, hchecks, hfails, hbefore⟩

end Query

end SqlWeave
