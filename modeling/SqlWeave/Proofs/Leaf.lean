import SqlWeave.Proofs.Collecting

/-!
# The leaves of a tree

What a tree itself contributes to its text: identifiers and values, in the order in which they are
written.  A leaf may have no text at all, and says so.  The main statement is `atoms_rootPieces`:
the pieces of a statement hold exactly the leaves that are written, in this order.
-/

namespace SqlWeave

/-- An identifier or a value. -/
inductive Atom where
  | name (s : String)
  | value (v : Value)

def Atom.name? : Atom → Option String
  | .name s => some s
  | .value _ => none

def Atom.value? : Atom → Option Value
  | .name _ => none
  | .value v => some v

/-- An identifier or a value at its place in a tree, and whether it is written there. -/
structure Leaf where
  atom : Atom
  written : Bool

namespace Leaf

def ofName (s : String) : Leaf := ⟨.name s, true⟩

def ofValue (v : Value) : Leaf := ⟨.value v, true⟩

/-- The leaves of a part of a tree that has no text. -/
def hide (leaves : List Leaf) : List Leaf := leaves.map fun l => { l with written := false }

def atom? (l : Leaf) : Option Atom := if l.written then some l.atom else none

/-- The atoms of the leaves that are written. -/
def atoms (leaves : List Leaf) : List Atom := leaves.filterMap atom?

@[simp] theorem atoms_nil : atoms [] = [] := rfl

@[simp] theorem atoms_append (a b : List Leaf) : atoms (a ++ b) = atoms a ++ atoms b :=
  List.filterMap_append

@[simp] theorem atoms_ofName (s : String) (leaves : List Leaf) :
    atoms (ofName s :: leaves) = .name s :: atoms leaves := rfl

@[simp] theorem atoms_ofValue (v : Value) (leaves : List Leaf) :
    atoms (ofValue v :: leaves) = .value v :: atoms leaves := rfl

@[simp] theorem atoms_map_ofName (names : List String) :
    atoms (names.map ofName) = names.map Atom.name := by
  induction names with
  | nil => rfl
  | cons s rest ih => rw [List.map_cons, atoms_ofName, ih, List.map_cons]

@[simp] theorem atoms_hide (leaves : List Leaf) : atoms (hide leaves) = [] := by
  rw [atoms, hide, List.filterMap_map, List.filterMap_eq_nil_iff]
  intro l _
  rfl

@[simp] theorem atoms_flatMap {α : Type} (f : α → List Leaf) (xs : List α) :
    atoms (xs.flatMap f) = xs.flatMap fun x => atoms (f x) :=
  List.filterMap_flatMap

theorem names_atoms_sublist (leaves : List Leaf) :
    ((atoms leaves).filterMap Atom.name?).Sublist (leaves.filterMap fun l => l.atom.name?) := by
  induction leaves with
  | nil => exact .slnil
  | cons l rest ih =>
    rcases l with ⟨s | v, _ | _⟩
    · exact ih.cons s
    · exact ih.cons_cons s
    · exact ih
    · exact ih

-- The names that are written are all names exactly when no name is without text.
theorem names_atoms_eq_iff (leaves : List Leaf) :
    (atoms leaves).filterMap Atom.name? = leaves.filterMap (fun l => l.atom.name?) ↔
      ∀ s, ⟨.name s, false⟩ ∉ leaves := by
  induction leaves with
  | nil => exact ⟨fun _ _ => List.not_mem_nil, fun _ => rfl⟩
  | cons l rest ih =>
    rcases l with ⟨s | v, _ | _⟩
    · refine iff_of_false (fun h => ?_) fun h => h s List.mem_cons_self
      have hlength : ((atoms rest).filterMap Atom.name?).length =
          (rest.filterMap fun l => l.atom.name?).length + 1 := congrArg List.length h
      have hle := (names_atoms_sublist rest).length_le
      omega
    · refine Iff.trans ?_ (ih.trans (forall_congr' fun t => ?_))
      · exact ⟨fun h => (List.cons.inj h).2, fun h => congrArg (s :: ·) h⟩
      · simp
    · exact ih.trans (forall_congr' fun t => by simp)
    · exact ih.trans (forall_congr' fun t => by simp)

end Leaf

open Leaf (ofName ofValue hide)

def Table.leaves (t : Table) : List Leaf := t.names.map Leaf.ofName

/-- The leaves of the table before a column. -/
def Table.qualifierLeaves : Option Table → List Leaf
  | some t => t.leaves
  | none => []

mutual

/-- The leaves of an expression.  A null that is written as a keyword is not written as a value,
and parameters of raw SQL beyond the last fragment are not written. -/
def Expr.leaves : Expr → List Leaf
  | .reference table column => Table.qualifierLeaves table ++ [ofName column]
  | .value v => [ofValue v]
  | .raw fragments params =>
    let groups := Expr.leavesOfList params
    (groups.take fragments.length).flatten ++ hide (groups.drop fragments.length).flatten
  | .binary left op right =>
    left.leaves ++ if isKeywordNull op right then hide right.leaves else right.leaves
  | .unary _ e => e.leaves
  | .call _ args => (Expr.leavesOfList args).flatten
  | .aliased e label => e.leaves ++ [ofName label]
  | .list items => (Expr.leavesOfList items).flatten
  | .subquery s => s.leaves
  | .star table => Table.qualifierLeaves table
  | .defaultMarker => []

def Expr.leavesOfList : List Expr → List (List Leaf)
  | [] => []
  | e :: rest => e.leaves :: Expr.leavesOfList rest

def Expr.leavesOfOption : Option Expr → List Leaf
  | none => []
  | some e => e.leaves

def Source.leaves : Source → List Leaf
  | .table t label => t.leaves ++ label.toList.map ofName
  | .subquery s label => s.leaves ++ [ofName label]

def Source.leavesOfList : List Source → List Leaf
  | [] => []
  | x :: rest => x.leaves ++ Source.leavesOfList rest

def Join.leavesOfList : List Join → List Leaf
  | [] => []
  | ⟨_, x, e⟩ :: rest => x.leaves ++ e.leaves ++ Join.leavesOfList rest

def OrderItem.leavesOfList : List OrderItem → List Leaf
  | [] => []
  | ⟨e, _⟩ :: rest => e.leaves ++ OrderItem.leavesOfList rest

def Explain.leavesOfOption : Option Explain → List Leaf
  | none => []
  | some ⟨_, options⟩ => Expr.leavesOfOption options

/-- The leaves of a select.  Its own request to explain it is not written. -/
def Select.leaves : Select → List Leaf
  | ⟨sources, selections, _, joins, filter, groupBy, having, orderBy, limit, offset, explain⟩ =>
    hide (Explain.leavesOfOption explain) ++ (Expr.leavesOfList selections).flatten ++
      Source.leavesOfList sources ++ Join.leavesOfList joins ++ Expr.leavesOfOption filter ++
      (Expr.leavesOfList groupBy).flatten ++ Expr.leavesOfOption having ++
      OrderItem.leavesOfList orderBy ++ Expr.leavesOfOption limit ++ Expr.leavesOfOption offset

end

@[simp] theorem Expr.leavesOfList_eq_map (es : List Expr) :
    Expr.leavesOfList es = es.map Expr.leaves := by
  induction es with
  | nil => rfl
  | cons e rest ih => rw [Expr.leavesOfList, ih, List.map_cons]

@[simp] theorem Source.leavesOfList_eq_flatMap (xs : List Source) :
    Source.leavesOfList xs = xs.flatMap Source.leaves := by
  induction xs with
  | nil => rfl
  | cons x rest ih => rw [Source.leavesOfList, ih, List.flatMap_cons]

@[simp] theorem Join.leavesOfList_eq_flatMap (js : List Join) :
    Join.leavesOfList js = js.flatMap fun j => j.source.leaves ++ j.on.leaves := by
  induction js with
  | nil => rfl
  | cons j rest ih =>
    cases j
    rw [Join.leavesOfList, ih, List.flatMap_cons]

@[simp] theorem OrderItem.leavesOfList_eq_flatMap (is : List OrderItem) :
    OrderItem.leavesOfList is = is.flatMap fun i => i.expr.leaves := by
  induction is with
  | nil => rfl
  | cons i rest ih =>
    cases i
    rw [OrderItem.leavesOfList, ih, List.flatMap_cons]

/-! ## Leaves of statements -/

def ColumnUpdate.leaves (u : ColumnUpdate) : List Leaf := ofName u.column :: u.value.leaves

def updateLeaves (updates : List ColumnUpdate) : List Leaf := updates.flatMap ColumnUpdate.leaves

def returningLeaves : Option (List Expr) → List Leaf
  | some selections => selections.flatMap Expr.leaves
  | none => []

def ConflictTarget.leaves : ConflictTarget → List Leaf
  | .unspecified => []
  | .columns names => names.map ofName
  | .constraint name => [ofName name]
  | .expr e => e.leaves

def ConflictAction.leaves : ConflictAction → List Leaf
  | .nothing => []
  | .update updates filter => updateLeaves updates ++ Expr.leavesOfOption filter

def Conflict.leaves (c : Conflict) : List Leaf :=
  c.target.leaves ++ Expr.leavesOfOption c.indexFilter ++ c.action.leaves

namespace Insert

/-- The leaves of the columns and of the source of rows.  A row of defaults is written without
columns and cells. -/
def sourceLeaves (i : Insert) : List Leaf :=
  let columns := i.writtenColumns.map ofName
  match i.source with
  | some (.rows rows) =>
    let cells := rows.flatMap fun row => row.flatMap Expr.leaves
    if i.writtenColumns.isEmpty then hide cells else columns ++ cells
  | some (.expr e) => columns ++ e.leaves
  | some .defaults => hide columns
  | none => columns

def leaves (i : Insert) : List Leaf :=
  i.into.leaves ++ i.sourceLeaves ++ (i.onConflict.map Conflict.leaves).getD [] ++
    (i.onDuplicateKey.map updateLeaves).getD [] ++ returningLeaves i.returning

end Insert

def Update.leaves (u : Update) : List Leaf :=
  u.table.leaves ++ updateLeaves u.updates ++ Expr.leavesOfOption u.filter ++
    returningLeaves u.returning

def Delete.leaves (d : Delete) : List Leaf :=
  d.source.leaves ++ Expr.leavesOfOption d.filter ++ returningLeaves d.returning

namespace Query

/-- The leaves of a statement without its own request to explain it. -/
def ownLeaves : Query → List Leaf
  | .select s => { s with explain := none : Select }.leaves
  | .insert i => i.leaves
  | .update u => u.leaves
  | .delete d => d.leaves

/-- The leaves of a statement at the root of a tree, where a request to explain it comes first. -/
def leaves (q : Query) : List Leaf := Explain.leavesOfOption q.explain ++ q.ownLeaves

/-- The identifiers that are written: schemas, tables, columns, aliases and constraints. -/
def names (q : Query) : List String := (Leaf.atoms q.leaves).filterMap Atom.name?

/-- All identifiers of the tree, those without text included. -/
def identifiers (q : Query) : List String := q.leaves.filterMap fun l => l.atom.name?

/-- The values that are bound. -/
def boundValues (q : Query) : List Value := (Leaf.atoms q.leaves).filterMap Atom.value?

/-- All values of the tree, those without text included. -/
def values (q : Query) : List Value := q.leaves.filterMap fun l => l.atom.value?

end Query

/-! ## The leaves and the pieces -/

namespace Piece

/-- The identifier or the value that a piece writes. -/
def atom? : Piece → Option Atom
  | .name s => some (.name s)
  | .param v => some (.value v)
  | _ => none

/-- The identifiers and values that pieces write. -/
def atoms (pieces : List Piece) : List Atom := pieces.filterMap atom?

@[simp] theorem atoms_nil : atoms [] = [] := rfl

@[simp] theorem atoms_append (a b : List Piece) : atoms (a ++ b) = atoms a ++ atoms b :=
  List.filterMap_append

@[simp] theorem atoms_text (s : String) (rest : List Piece) :
    atoms (.text s :: rest) = atoms rest := rfl

@[simp] theorem atoms_name (s : String) (rest : List Piece) :
    atoms (.name s :: rest) = .name s :: atoms rest := rfl

@[simp] theorem atoms_param (v : Value) (rest : List Piece) :
    atoms (.param v :: rest) = .value v :: atoms rest := rfl

@[simp] theorem atoms_require (c : Construct) (rest : List Piece) :
    atoms (.require c :: rest) = atoms rest := rfl

@[simp] theorem atoms_separated (separator : String) (groups : List (List Piece)) :
    atoms (separated separator groups) = groups.flatMap atoms :=
  filterMap_separated (fun _ => rfl) separator groups

@[simp] theorem atoms_interleaved (fragments : List String) (groups : List (List Piece)) :
    atoms (interleaved fragments groups) = (groups.take fragments.length).flatMap atoms :=
  filterMap_interleaved (fun _ => rfl) fragments groups

@[simp] theorem atoms_flatMap {α : Type} (f : α → List Piece) (xs : List α) :
    atoms (xs.flatMap f) = xs.flatMap fun x => atoms (f x) :=
  List.filterMap_flatMap

@[simp] theorem atoms_parenthesized (pieces : List Piece) :
    atoms (parenthesized pieces) = atoms pieces :=
  filterMap_parenthesized (fun _ => rfl) pieces

@[simp] theorem atoms_operand (e : Expr) (pieces : List Piece) :
    atoms (operand e pieces) = atoms pieces :=
  filterMap_operand (fun _ => rfl) e pieces

@[simp] theorem atoms_listClause (keyword : String) (groups : List (List Piece)) :
    atoms (listClause keyword groups) = groups.flatMap atoms :=
  filterMap_listClause (fun _ => rfl) keyword groups

@[simp] theorem atoms_nameList (names : List String) :
    atoms (nameList names) = names.map Atom.name := by
  rw [nameList, atoms_separated, List.flatMap_map]
  exact List.map_eq_flatMap.symm

end Piece

open Piece (atoms)

@[simp] theorem Table.atoms_pieces (t : Table) : atoms t.pieces = Leaf.atoms t.leaves := by
  rcases t with ⟨_ | schema, name⟩ <;> rfl

@[simp] theorem Table.atoms_qualifier (t : Option Table) :
    atoms (Table.qualifier t) = Leaf.atoms (Table.qualifierLeaves t) := by
  cases t with
  | none => rfl
  | some t => rw [Table.qualifier, Piece.atoms_append, t.atoms_pieces]; simp [qualifierLeaves]

@[simp] theorem Direction.atoms_sql (d : Option Direction) : atoms (Direction.sql d) = [] := by
  rcases d with _ | _ | _ <;> rfl

theorem flatMap_atoms_map {α : Type} {f : α → List Piece} {g : α → List Leaf} {xs : List α}
    (h : ∀ x ∈ xs, atoms (f x) = Leaf.atoms (g x)) :
    (xs.map f).flatMap atoms = Leaf.atoms (xs.flatMap g) := by
  rw [List.flatMap_map, Leaf.atoms_flatMap]
  exact List.flatMap_congr h

theorem Expr.atoms_clause (opening : List Piece) {o : Option Expr} (ho : atoms opening = [])
    (h : ∀ e ∈ o, atoms e.pieces = Leaf.atoms e.leaves) :
    atoms (Expr.clause opening o) = Leaf.atoms (Expr.leavesOfOption o) := by
  cases o with
  | none => rfl
  | some e => rw [Expr.clause, Piece.atoms_append, ho, List.nil_append, h e rfl]; rfl

theorem Expr.atoms_hereditary :
    Hereditary (fun e => atoms e.pieces = Leaf.atoms e.leaves)
      (fun x => atoms x.pieces = Leaf.atoms x.leaves)
      (fun s => atoms s.pieces = Leaf.atoms s.leaves) where
  reference table column := by
    rw [Expr.pieces, List.cons_append, Piece.atoms_require, Piece.atoms_append,
      Table.atoms_qualifier, Expr.leaves, Leaf.atoms_append]
    rfl
  value v := by rw [Expr.pieces, Expr.leaves]; rfl
  raw fragments params h := by
    rw [Expr.pieces, Expr.leaves]
    simp only [Expr.piecesOfList_eq_map, Expr.leavesOfList_eq_map, Piece.atoms_require,
      Piece.atoms_interleaved, Leaf.atoms_append, Leaf.atoms_hide, List.append_nil,
      ← List.map_take]
    rw [← List.flatMap_def]
    exact flatMap_atoms_map fun e he => h e (List.mem_of_mem_take he)
  binary left op right hl hr := by
    rw [Expr.pieces, Expr.leaves, Piece.atoms_require, Leaf.atoms_append, ← hl]
    -- The keyword stands in no leaf, just as the null it is written for is hidden.
    by_cases hk : isKeywordNull op right
    · by_cases hop : op.isLogical <;> simp [hk, hop]
    · by_cases hop : op.isLogical <;> simp [hk, hop, hr]
  unary op e h := by
    rw [Expr.pieces, Expr.leaves, Piece.atoms_require, Piece.atoms_text, Piece.atoms_operand, h]
  call name args h := by
    rw [Expr.pieces, Expr.leaves, Piece.atoms_require, Piece.atoms_text, Piece.atoms_parenthesized,
      Piece.atoms_separated, Expr.piecesOfList_eq_map, Expr.leavesOfList_eq_map, ← List.flatMap_def]
    exact flatMap_atoms_map h
  aliased e label h := by
    rw [Expr.pieces, Expr.leaves, List.cons_append, Piece.atoms_require, Piece.atoms_append, h,
      Leaf.atoms_append]
    rfl
  list items h := by
    rw [Expr.pieces, Expr.leaves, Piece.atoms_require, Piece.atoms_parenthesized,
      Piece.atoms_separated, Expr.piecesOfList_eq_map, Expr.leavesOfList_eq_map, ← List.flatMap_def]
    exact flatMap_atoms_map h
  subquery s h := by rw [Expr.pieces, Expr.leaves, Piece.atoms_parenthesized, h]
  star table := by
    rw [Expr.pieces, Expr.leaves, Piece.atoms_append, Table.atoms_qualifier, Piece.atoms_text,
      Piece.atoms_nil, List.append_nil]
  defaultMarker := by rw [Expr.pieces, Expr.leaves]; rfl
  table t label := by
    cases label <;>
      rw [Source.pieces, Source.leaves, List.cons_append, Piece.atoms_require, Piece.atoms_append,
        t.atoms_pieces, Leaf.atoms_append] <;> rfl
  derived s label h := by
    rw [Source.pieces, Source.leaves, List.cons_append, Piece.atoms_text, Piece.atoms_append, h,
      Leaf.atoms_append]
    rfl
  select s h := by
    obtain ⟨sources, selections, distinct, joins, filter, groupBy, having, orderBy, limit, offset,
      explain⟩ := s
    have hselections : atoms (if selections.isEmpty then [.text "*"]
        else Piece.separated ", " (selections.map Expr.pieces)) =
          Leaf.atoms (selections.flatMap Expr.leaves) := by
      split
      · next he => rw [List.isEmpty_iff.mp he]; rfl
      · rw [Piece.atoms_separated, flatMap_atoms_map h.selections]
    have hjoins : atoms (joins.flatMap fun j => .text " " :: j.pieces) =
        Leaf.atoms (joins.flatMap fun j => j.source.leaves ++ j.on.leaves) := by
      rw [Piece.atoms_flatMap, Leaf.atoms_flatMap]
      refine List.flatMap_congr fun j hj => ?_
      rw [Piece.atoms_text, j.pieces_eq, List.cons_append, Piece.atoms_require]
      simp [h.joins j hj]
    have horderBy : (orderBy.map OrderItem.pieces).flatMap atoms =
        Leaf.atoms (orderBy.flatMap fun i => i.expr.leaves) := by
      refine flatMap_atoms_map fun i hi => ?_
      rw [i.pieces_eq, List.cons_append, Piece.atoms_require, Piece.atoms_append, h.orderBy i hi,
        Direction.atoms_sql, List.append_nil]
    have hdistinct : atoms (if distinct then [.text "DISTINCT "] else []) = [] := by
      split <;> rfl
    rw [Select.pieces, Select.leaves]
    simp only [Expr.piecesOfList_eq_map, Expr.leavesOfList_eq_map, Source.piecesOfList_eq_map,
      Source.leavesOfList_eq_flatMap, Join.leavesOfList_eq_flatMap, OrderItem.piecesOfList_eq_map,
      OrderItem.leavesOfList_eq_flatMap, Join.piecesOfList_eq_flatMap, ← List.flatMap_def,
      List.cons_append, Piece.atoms_require, Piece.atoms_text, Piece.atoms_append,
      Leaf.atoms_append, Leaf.atoms_hide, List.nil_append, hdistinct, hselections, hjoins, horderBy,
      Piece.atoms_listClause, flatMap_atoms_map h.sources, flatMap_atoms_map h.groupBy,
      Expr.atoms_clause [.text " WHERE "] rfl h.filter,
      Expr.atoms_clause [.text " HAVING "] rfl h.having,
      Expr.atoms_clause [.require .limit, .text " LIMIT "] rfl h.limit,
      Expr.atoms_clause [.require .offset, .text " OFFSET "] rfl h.offset]

@[simp] theorem Expr.atoms_pieces (e : Expr) : atoms e.pieces = Leaf.atoms e.leaves :=
  Expr.atoms_hereditary.expr e

@[simp] theorem Select.atoms_pieces (s : Select) : atoms s.pieces = Leaf.atoms s.leaves :=
  Expr.atoms_hereditary.ofSelect s

@[simp] theorem ColumnUpdate.atoms_pieces (u : ColumnUpdate) :
    atoms u.pieces = Leaf.atoms u.leaves := by
  rw [ColumnUpdate.pieces, ColumnUpdate.leaves, Piece.atoms_name, Piece.atoms_text,
    Expr.atoms_pieces, Leaf.atoms_ofName]

@[simp] theorem atoms_updateList (updates : List ColumnUpdate) :
    atoms (updateList updates) = Leaf.atoms (updateLeaves updates) := by
  rw [updateList, Piece.atoms_separated, updateLeaves]
  exact flatMap_atoms_map fun u _ => u.atoms_pieces

@[simp] theorem atoms_returningClause (returning : Option (List Expr)) :
    atoms (returningClause returning) = Leaf.atoms (returningLeaves returning) := by
  cases returning with
  | none => rfl
  | some selections =>
    rw [returningClause, Piece.atoms_require, Piece.atoms_text, Piece.atoms_separated,
      Expr.piecesOfList_eq_map, returningLeaves]
    exact flatMap_atoms_map fun e _ => e.atoms_pieces

@[simp] theorem atoms_whereClause (filter : Option Expr) :
    atoms (Expr.clause [.text " WHERE "] filter) = Leaf.atoms (Expr.leavesOfOption filter) :=
  Expr.atoms_clause _ rfl fun e _ => e.atoms_pieces

@[simp] theorem atoms_columnList (columns : List String) :
    atoms (columnList columns) = Leaf.atoms (columns.map ofName) := by
  rw [columnList, List.cons_append, Piece.atoms_text, Piece.atoms_append, Piece.atoms_nameList,
    Leaf.atoms_map_ofName, Piece.atoms_text, Piece.atoms_nil, List.append_nil]

theorem Conflict.atoms_pieces (c : Conflict) : atoms c.pieces = Leaf.atoms c.leaves := by
  obtain ⟨target, indexFilter, action⟩ := c
  have htarget : atoms target.pieces = Leaf.atoms target.leaves := by
    cases target <;> simp [ConflictTarget.pieces, ConflictTarget.leaves]
  have haction : atoms action.pieces = Leaf.atoms action.leaves := by
    cases action <;> simp [ConflictAction.pieces, ConflictAction.leaves]
  simp [Conflict.pieces, Conflict.leaves, htarget, haction]

theorem atoms_rowsPieces (rows : List (List Expr)) :
    atoms (rowsPieces rows) =
      Leaf.atoms (rows.flatMap fun row => row.flatMap Expr.leaves) := by
  rw [rowsPieces, List.cons_append, List.cons_append, Piece.atoms_require, Piece.atoms_text,
    Piece.atoms_append, Piece.atoms_separated, Piece.atoms_text, Piece.atoms_nil, List.append_nil]
  refine flatMap_atoms_map fun row _ => ?_
  rw [Piece.atoms_separated, Expr.piecesOfList_eq_map]
  exact flatMap_atoms_map fun e _ => e.atoms_pieces

namespace Insert

theorem atoms_sourceExpr (e : Expr) : atoms (sourceExpr e) = Leaf.atoms e.leaves := by
  cases e with
  | subquery s => rw [sourceExpr, s.atoms_pieces, Expr.leaves]
  | _ => exact Expr.atoms_pieces _

theorem atoms_sourcePieces (i : Insert) (h : ∀ fault, .refuse fault ∉ i.sourcePieces) :
    atoms i.sourcePieces = Leaf.atoms i.sourceLeaves := by
  unfold sourcePieces at h ⊢
  unfold sourceLeaves
  split
  · next rows column columns hsource hcolumns =>
    simp [hsource, hcolumns, atoms_rowsPieces]
  · next e hsource hcolumns => simp [hsource, hcolumns, atoms_sourceExpr]
  · next e column columns hsource hcolumns => simp [hsource, hcolumns, atoms_sourceExpr]
  · next column columns hsource hcolumns => simp [hsource, hcolumns] at h
  · next rows hsource hcolumns => simp [hsource, hcolumns]; rfl
  · next hsource => simp [hsource]; rfl
  · next hsource hcolumns => simp [hsource, hcolumns]; rfl

theorem atoms_pieces (i : Insert) (h : ∀ fault, .refuse fault ∉ i.pieces) :
    atoms i.pieces = Leaf.atoms i.leaves := by
  have hsource : atoms i.sourcePieces = Leaf.atoms i.sourceLeaves := by
    refine i.atoms_sourcePieces fun fault hf => h fault ?_
    simp [Insert.pieces, hf]
  unfold Insert.pieces Insert.leaves
  have hreplace : atoms (if i.replace then [.require .replace, .text "REPLACE"]
      else [.text "INSERT"]) = [] := by
    split <;> rfl
  have hignore : atoms (if i.ignore then [.require .insertIgnore, .text " ", .ignoreKeyword]
      else []) = [] := by
    split <;> rfl
  cases hc : i.onConflict <;> cases hd : i.onDuplicateKey <;>
    simp [hreplace, hignore, hsource, Conflict.atoms_pieces]

end Insert

theorem Update.atoms_pieces (u : Update) (h : ∀ fault, .refuse fault ∉ u.pieces) :
    atoms u.pieces = Leaf.atoms u.leaves := by
  unfold Update.pieces at h ⊢
  split
  · next he => simp [he] at h
  · simp [Update.leaves]

theorem Delete.atoms_pieces (d : Delete) : atoms d.pieces = Leaf.atoms d.leaves := by
  simp [Delete.pieces, Delete.leaves]

theorem Explain.atoms_pieces (x : Explain) :
    atoms x.pieces = Leaf.atoms (Expr.leavesOfOption x.options) := by
  obtain ⟨format, options⟩ := x
  cases format <;> cases options <;> simp [Explain.pieces, Expr.leavesOfOption] <;> rfl

namespace Query

theorem atoms_pieces (q : Query) (h : ∀ fault, .refuse fault ∉ q.pieces) :
    atoms q.pieces = Leaf.atoms q.ownLeaves := by
  cases q with
  | select s =>
    -- The pieces of a select never hold its own request to explain it.
    have hs : s.pieces = { s with explain := none : Select }.pieces := by
      cases s
      rw [Select.pieces, Select.pieces]
    rw [Query.pieces, hs, Select.atoms_pieces, ownLeaves]
  | insert i => exact i.atoms_pieces h
  | update u => exact u.atoms_pieces h
  | delete d => exact d.atoms_pieces

-- The pieces of a statement that can be completed hold the leaves that are written, in order.
theorem atoms_rootPieces (q : Query) (h : ∀ fault, .refuse fault ∉ q.rootPieces) :
    atoms q.rootPieces = Leaf.atoms q.leaves := by
  unfold rootPieces at h ⊢
  unfold leaves
  cases hx : q.explain with
  | none => simpa [hx, Explain.leavesOfOption] using q.atoms_pieces (by simpa [hx] using h)
  | some x =>
    simp only [hx, List.mem_append, not_or] at h
    rw [Piece.atoms_append, x.atoms_pieces, q.atoms_pieces fun fault => (h fault).2,
      Leaf.atoms_append]
    cases x
    rfl

end Query

end SqlWeave
