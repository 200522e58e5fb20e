import SqlWeave.Proofs.Spacing
import SqlWeave.Proofs.Subtree

/-!
# Characters next to each other

Databases take two minus signs, or a slash and a star, for the beginning of a comment.  The texts
that join the parts of a statement keep such characters apart.  So what is next to what in a
statement is known from its parts, one step at a time, and the only texts that may meet are a minus
sign and its operand.
-/

namespace SqlWeave

open Piece (separated parenthesized nameList)

/-- The comments of SQL: up to the end of the line, or up to a closing mark. -/
inductive CommentKind where
  | line | block

namespace CommentKind

/-- The two characters that a comment begins with. -/
def first : CommentKind → Char
  | .line => '-'
  | .block => '/'

def second : CommentKind → Char
  | .line => '-'
  | .block => '*'

end CommentKind

/-- The characters that comments begin with. -/
def commentChars : List Char := ['-', '/', '*']

/-- A text that keeps what is on either side of it apart. -/
def Separates (s : String) : Prop := s.toList ≠ [] ∧ ClearOf commentChars s

instance (s : String) : Decidable (Separates s) := instDecidableAnd

theorem CommentKind.first_mem (k : CommentKind) : k.first ∈ commentChars := by
  cases k <;> decide

theorem CommentKind.second_mem (k : CommentKind) : k.second ∈ commentChars := by
  cases k <;> decide

/-! ## Neighbours -/

/-- Neighbours that no comment begins with. -/
def CommentKind.Allows (k : CommentKind) (x y : Option Char) : Prop :=
  ¬(x = some k.first ∧ y = some k.second)

section Neighbours

variable {k : CommentKind} {xs ys : List (Option Char)}

theorem isChain_append_left (h : some k.first ∉ xs) :
    (xs ++ ys).IsChain k.Allows ↔ ys.IsChain k.Allows := by
  have hxs : xs.IsChain k.Allows :=
    List.isChain_iff_forall_rel_of_append_cons_cons.mpr fun x y before after hsplit hxy =>
      h (by simp [hsplit, hxy.1])
  rw [List.isChain_append]
  refine ⟨fun h => h.2.1, fun hys => ⟨hxs, hys, fun x hx y _ hxy => h ?_⟩⟩
  exact hxy.1 ▸ List.mem_of_getLast? hx

theorem isChain_append_right (h : ys.head? ≠ some (some k.second)) :
    (xs ++ ys).IsChain k.Allows ↔ xs.IsChain k.Allows ∧ ys.IsChain k.Allows := by
  rw [List.isChain_append]
  refine ⟨fun h => ⟨h.1, h.2.1⟩, fun hboth => ⟨hboth.1, hboth.2, fun x _ y hy hxy => h ?_⟩⟩
  exact hxy.2 ▸ hy

end Neighbours

/-! ## Pieces -/

namespace Piece

/-- The characters that a piece is written with.  An identifier and a placeholder count as one mark
each. -/
def glyphs (d : Dialect) : Piece → List (Option Char)
  | .text s => s.toList.map some
  | .name _ | .param _ => [none]
  | .defaultMarker => d.defaultMarker.toList.map some
  | .ignoreKeyword => d.ignoreKeyword.toList.map some
  | .explainFormat s => (d.explainFormat s).toList.map some
  | .require _ | .refuse _ => []

/-- The first character of the pieces is `c`. -/
def Opens (d : Dialect) (c : Char) (pieces : List Piece) : Prop :=
  (pieces.flatMap (glyphs d)).head? = some (some c)

/-- No comment begins in the pieces. -/
def Apart (d : Dialect) (k : CommentKind) (pieces : List Piece) : Prop :=
  (pieces.flatMap (glyphs d)).IsChain k.Allows

variable {d : Dialect} {k : CommentKind} {c : Char} {p q : List Piece} {s : String}

theorem not_mem_of_clear (h : ClearOf commentChars s) (hc : c ∈ commentChars) :
    some c ∉ s.toList.map some := by
  intro hmem
  obtain ⟨x, hx, heq⟩ := List.mem_map.mp hmem
  exact h x hx (Option.some.inj heq ▸ hc)

theorem head?_ne_of_separates (h : Separates s) (hc : c ∈ commentChars)
    (after : List (Option Char)) : (s.toList.map some ++ after).head? ≠ some (some c) := by
  obtain ⟨x, cs, hs⟩ := List.exists_cons_of_ne_nil h.1
  intro hhead
  have hx : x = c := by simpa [hs] using hhead
  exact h.2 x (by simp [hs]) (hx ▸ hc)

theorem not_opens_text (h : Separates s) (hc : c ∈ commentChars) : ¬ Opens d c (.text s :: p) :=
  head?_ne_of_separates h hc _

theorem not_opens_clear (h : ClearOf commentChars s) (hc : c ∈ commentChars)
    (hp : ¬ Opens d c p) : ¬ Opens d c (.text s :: p) := by
  intro hopens
  unfold Opens at hp hopens
  rw [List.flatMap_cons, List.head?_append, Option.or_eq_some_iff] at hopens
  rcases hopens with hs | ⟨-, hrest⟩
  · exact not_mem_of_clear h hc (List.mem_of_mem_head? hs)
  · exact hp hrest

theorem opens_require {x : Construct} : Opens d c (.require x :: p) ↔ Opens d c p := Iff.rfl

theorem opens_append (h : ¬ Opens d c q) : Opens d c (p ++ q) ↔ Opens d c p := by
  unfold Opens at h ⊢
  rw [List.flatMap_append, List.head?_append, Option.or_eq_some_iff]
  exact ⟨fun hor => hor.resolve_right fun hq => h hq.2, .inl⟩

@[simp] theorem apart_nil : Apart d k [] := List.isChain_nil

@[simp] theorem apart_require (c : Construct) : Apart d k (.require c :: p) ↔ Apart d k p := Iff.rfl

@[simp] theorem apart_name (s : String) : Apart d k (.name s :: p) ↔ Apart d k p :=
  isChain_append_left (by simp : some k.first ∉ [none])

@[simp] theorem apart_param (v : Value) : Apart d k (.param v :: p) ↔ Apart d k p :=
  isChain_append_left (by simp : some k.first ∉ [none])

theorem apart_text (h : ClearOf commentChars s) : Apart d k (.text s :: p) ↔ Apart d k p :=
  isChain_append_left (not_mem_of_clear h k.first_mem)

theorem apart_append (h : ¬ Opens d k.second q) :
    Apart d k (p ++ q) ↔ Apart d k p ∧ Apart d k q := by
  unfold Apart
  rw [List.flatMap_append]
  exact isChain_append_right h

theorem apart_link (h : Separates s) :
    Apart d k (p ++ .text s :: q) ↔ Apart d k p ∧ Apart d k q := by
  rw [apart_append (not_opens_text h k.second_mem), apart_text h.2]

theorem apart_closed (h : Separates s) : Apart d k (p ++ [.text s]) ↔ Apart d k p := by
  rw [apart_link h, and_iff_left apart_nil]

theorem apart_parenthesized : Apart d k (parenthesized p) ↔ Apart d k p := by
  rw [parenthesized, apart_closed (by decide), apart_text (by decide)]

theorem apart_separated (h : Separates s) {groups : List (List Piece)} :
    Apart d k (separated s groups) ↔ ∀ g ∈ groups, Apart d k g := by
  induction groups with
  | nil => simp [separated]
  | cons g rest ih =>
    cases rest with
    | nil => simp [separated]
    | cons next rest =>
      rw [separated, apart_link h, ih, List.forall_mem_cons (a := g)]
      exact nofun

theorem apart_listClause (h : Separates s) {groups : List (List Piece)} :
    Apart d k (p ++ listClause s groups) ↔ Apart d k p ∧ ∀ g ∈ groups, Apart d k g := by
  unfold listClause
  cases groups with
  | nil => simp
  | cons g rest => exact (apart_link h).trans (and_congr_right' (apart_separated (by decide)))

theorem apart_clause (h : Separates s) {o : Option Expr} :
    Apart d k (p ++ Expr.clause [.text s] o) ↔ Apart d k p ∧ ∀ e ∈ o, Apart d k e.pieces := by
  cases o with
  | none => simp [Expr.clause]
  | some e => simpa [Expr.clause] using apart_link h

theorem apart_require_append (c : Construct) :
    Apart d k (p ++ .require c :: q) ↔ Apart d k (p ++ q) := by
  simp [Apart, glyphs]

theorem apart_requiredClause (c : Construct) (h : Separates s) {o : Option Expr} :
    Apart d k (p ++ Expr.clause [.require c, .text s] o) ↔
      Apart d k p ∧ ∀ e ∈ o, Apart d k e.pieces := by
  cases o with
  | none => simp [Expr.clause]
  | some e => simpa [Expr.clause, apart_require_append] using apart_link h

theorem apart_nameList (names : List String) : Apart d k (nameList names) := by
  rw [nameList, apart_separated (by decide), List.forall_mem_map]
  exact fun s _ => (apart_name s).mpr apart_nil

theorem apart_columnList (columns : List String) :
    Apart d k (p ++ columnList columns) ↔ Apart d k p := by
  rw [columnList]
  simp only [List.cons_append]
  rw [apart_link (by decide), apart_closed (by decide), and_iff_left (apart_nameList columns)]

theorem apart_table (t : Table) : Apart d k t.pieces := by
  rcases t with ⟨_ | schema, name⟩
  · exact (apart_name name).mpr apart_nil
  · refine (apart_name schema).mpr ((apart_text (by decide)).mpr ?_)
    exact (apart_name name).mpr apart_nil

theorem apart_qualifier (t : Option Table) : Apart d k (Table.qualifier t ++ p) ↔ Apart d k p := by
  cases t with
  | none => exact Iff.rfl
  | some t =>
    rw [Table.qualifier, List.append_assoc, List.singleton_append, apart_link (by decide),
      and_iff_right (apart_table t)]

theorem apart_operand (e : Expr) : Apart d k (operand e p) ↔ Apart d k p := by
  unfold operand
  split
  · exact apart_parenthesized
  · exact Iff.rfl

end Piece

/-! ## Expressions and selects -/

open Piece

/-- A dialect whose texts have no characters of comments in them. -/
structure Dialect.Uncommented (d : Dialect) : Prop where
  placeholder : ∀ n, Separates (d.placeholder n)
  defaultMarker : SqlWeave.ClearOf commentChars d.defaultMarker
  ignoreKeyword : SqlWeave.ClearOf commentChars d.ignoreKeyword
  format : ∀ s, SqlWeave.ClearOf commentChars s →
    SqlWeave.ClearOf commentChars (d.explainFormat s)

namespace Expr

/-- No comment begins with a minus sign that is the operator of the expression. -/
def OpensNone (d : Dialect) (k : CommentKind) : Expr → Prop
  | .unary .negate e => ¬(k.first = '-' ∧ Opens d k.second (operand e e.pieces))
  | _ => True

end Expr

def Subtree.pieces : Subtree → List Piece
  | .expr e => e.pieces
  | .select s => s.pieces

section

variable {d : Dialect} {k : CommentKind} {Fn : String → Prop} {Neg : List Piece → Prop}
  {p : List Piece}

namespace Piece

theorem apart_minus :
    Apart d k (.text "-" :: p) ↔ ¬(k.first = '-' ∧ Opens d k.second p) ∧ Apart d k p := by
  have hcons : Apart d k (.text "-" :: p) ↔
      (some '-' :: p.flatMap (glyphs d)).IsChain k.Allows := Iff.rfl
  rw [hcons, List.isChain_cons]
  refine and_congr_left' ⟨fun h hopens => ?_, fun h y hy hxy => h ?_⟩
  · exact h _ hopens.2 ⟨congrArg some hopens.1.symm, rfl⟩
  · rw [hxy.2] at hy
    exact ⟨(Option.some.inj hxy.1).symm, hy⟩

theorem apart_defaultMarker (hd : d.Uncommented) :
    Apart d k (.defaultMarker :: p) ↔ Apart d k p :=
  isChain_append_left (not_mem_of_clear hd.defaultMarker k.first_mem)

theorem apart_ignoreKeyword (hd : d.Uncommented) :
    Apart d k (.ignoreKeyword :: p) ↔ Apart d k p :=
  isChain_append_left (not_mem_of_clear hd.ignoreKeyword k.first_mem)

theorem apart_explainFormat (hd : d.Uncommented) {s : String} (h : ClearOf commentChars s) :
    Apart d k (.explainFormat s :: p) ↔ Apart d k p :=
  isChain_append_left (not_mem_of_clear (hd.format s h) k.first_mem)

theorem apart_binaryOp (op : BinaryOp) : Apart d k [.text op.sql] := by
  cases op with
  | sub | mul | div => exact List.isChain_singleton _
  | _ => exact (apart_text (by decide)).mpr apart_nil

theorem apart_binary (op : BinaryOp) {q : List Piece} :
    Apart d k (p ++ [Piece.text " ", Piece.text op.sql, Piece.text " "] ++ q) ↔
      Apart d k p ∧ Apart d k q := by
  have hop : Apart d k ([Piece.text op.sql] ++ Piece.text " " :: q) ↔ Apart d k q :=
    (apart_link (by decide)).trans (and_iff_right (apart_binaryOp op))
  rw [List.append_assoc]
  exact (apart_link (by decide)).trans (and_congr_right' hop)

theorem apart_rightPieces (op : BinaryOp) (right : Expr) :
    Apart d k (if isKeywordNull op right then [.text "NULL"]
      else if op.isLogical then right.pieces else operand right right.pieces) ↔
        Apart d k right.pieces := by
  by_cases hnull : isKeywordNull op right = true
  · obtain ⟨-, rfl⟩ := (isKeywordNull_iff op right).mp hnull
    rw [if_pos hnull, Expr.pieces]
    exact iff_of_true ((apart_text (by decide)).mpr apart_nil)
      ((apart_param .null).mpr apart_nil)
  · rw [if_neg hnull]
    split
    · exact Iff.rfl
    · exact apart_operand right

end Piece

theorem Subtree.apart_map_expr {es : List Expr} :
    (∀ t ∈ es.map Subtree.expr, Apart d k t.pieces) ↔ ∀ e ∈ es, Apart d k e.pieces :=
  List.forall_mem_map

theorem Expr.apart_pieces_iff (hFn : ∀ s, Fn s → ClearOf commentChars s) (hd : d.Uncommented)
    {e : Expr} (h : e.Everywhere (Expr.Plain Fn Neg)) :
    Apart d k e.pieces ↔ e.OpensNone d k ∧ ∀ t ∈ e.parts, Apart d k t.pieces := by
  cases e with
  | reference table column =>
    rw [Expr.pieces]
    refine iff_of_true ?_ ⟨trivial, List.forall_mem_nil _⟩
    exact (apart_qualifier table).mpr ((apart_name column).mpr apart_nil)
  | value v =>
    rw [Expr.pieces]
    exact iff_of_true ((apart_param v).mpr apart_nil) ⟨trivial, List.forall_mem_nil _⟩
  | raw fragments params =>
    rw [Everywhere] at h
    exact h.1.elim
  | binary left op right =>
    have hright := apart_rightPieces (d := d) (k := k) op right
    rw [Expr.pieces]
    generalize (if isKeywordNull op right = true then [Piece.text "NULL"] else _) = written
      at hright ⊢
    simp only [parts, OpensNone, List.forall_mem_cons, List.not_mem_nil, Subtree.pieces, ← hright,
      IsEmpty.forall_iff, implies_true, and_true, true_and]
    refine (apart_require _).trans ?_
    split
    · rw [apart_parenthesized, apart_binary]
    · rw [apart_binary, apart_operand]
  | unary op e =>
    rw [Expr.pieces]
    simp only [parts, List.forall_mem_singleton, Subtree.pieces]
    refine (apart_require _).trans ?_
    cases op with
    | negate =>
      rw [UnaryOp.sql, apart_minus, apart_operand]
      rfl
    | _ =>
      rw [UnaryOp.sql, apart_text (by decide), apart_operand]
      exact (and_iff_right trivial).symm
  | call f args =>
    rw [Everywhere] at h
    rw [Expr.pieces, Expr.piecesOfList_eq_map]
    refine (apart_require _).trans ?_
    rw [apart_text (hFn f h.1), apart_parenthesized, apart_separated (by decide),
      List.forall_mem_map, ← Subtree.apart_map_expr]
    exact (and_iff_right trivial).symm
  | aliased e label =>
    rw [Expr.pieces, List.cons_append, apart_require, apart_link (by decide)]
    simp only [parts, List.forall_mem_singleton, Subtree.pieces]
    refine and_comm.trans (and_congr_left' (iff_of_true ?_ trivial))
    exact (apart_name label).mpr apart_nil
  | list items =>
    rw [Expr.pieces, Expr.piecesOfList_eq_map]
    refine (apart_require _).trans ?_
    rw [apart_parenthesized, apart_separated (by decide), List.forall_mem_map,
      ← Subtree.apart_map_expr]
    exact (and_iff_right trivial).symm
  | subquery s =>
    rw [Expr.pieces, apart_parenthesized]
    simp only [parts, List.forall_mem_singleton, Subtree.pieces]
    exact (and_iff_right trivial).symm
  | star table =>
    rw [Expr.pieces]
    refine iff_of_true ((apart_qualifier table).mpr ?_) ⟨trivial, List.forall_mem_nil _⟩
    exact List.isChain_singleton _
  | defaultMarker =>
    rw [Expr.pieces]
    refine iff_of_true ?_ ⟨trivial, List.forall_mem_nil _⟩
    exact (apart_defaultMarker hd).mpr apart_nil

/-! ### Selects -/

namespace Source

theorem apart_pieces_iff (x : Source) : Apart d k x.pieces ↔ ∀ t ∈ x.parts, Apart d k t.pieces := by
  cases x with
  | table t label =>
    refine iff_of_true ?_ (List.forall_mem_nil _)
    cases label with
    | none =>
      rw [pieces, List.append_nil, apart_require]
      exact apart_table t
    | some label =>
      rw [pieces, List.cons_append, apart_require, apart_link (by decide)]
      exact ⟨apart_table t, (apart_name label).mpr apart_nil⟩
  | subquery s label =>
    rw [pieces, List.cons_append, apart_text (by decide), apart_link (by decide), parts,
      List.forall_mem_singleton]
    exact and_iff_left ((apart_name label).mpr apart_nil)

end Source

theorem Join.apart_pieces_iff (j : Join) :
    Apart d k j.pieces ↔ Apart d k j.source.pieces ∧ Apart d k j.on.pieces := by
  have hkind : ClearOf commentChars j.kind.sql := by cases j.kind <;> decide
  rw [j.pieces_eq]
  simp only [List.cons_append]
  rw [apart_require, apart_text hkind, apart_text (by decide), apart_link (by decide)]

theorem OrderItem.apart_pieces_iff (i : OrderItem) :
    Apart d k i.pieces ↔ Apart d k i.expr.pieces := by
  rw [i.pieces_eq, List.cons_append, apart_require]
  rcases i.direction with _ | _ | _
  · rw [Direction.sql, List.append_nil]
  · exact apart_closed (by decide)
  · exact apart_closed (by decide)

theorem Piece.apart_joins {js : List Join} :
    Apart d k (p ++ js.flatMap fun j => .text " " :: j.pieces) ↔
      Apart d k p ∧ ∀ j ∈ js, Apart d k j.source.pieces ∧ Apart d k j.on.pieces := by
  induction js generalizing p with
  | nil => simp
  | cons j rest ih =>
    rw [List.flatMap_cons, ← List.append_assoc, ih, apart_link (by decide), j.apart_pieces_iff,
      List.forall_mem_cons, and_assoc]

theorem Piece.apart_selections (distinct : Bool) (selections : List Expr) :
    Apart d k (Piece.require .select :: Piece.text "SELECT " ::
        (if distinct then [Piece.text "DISTINCT "] else []) ++
        (if selections.isEmpty then [Piece.text "*"]
          else separated ", " (selections.map Expr.pieces))) ↔
      ∀ e ∈ selections, Apart d k e.pieces := by
  have hlist : Apart d k (if selections.isEmpty then [.text "*"]
      else separated ", " (selections.map Expr.pieces)) ↔ ∀ e ∈ selections, Apart d k e.pieces := by
    cases selections with
    | nil => exact iff_of_true (List.isChain_singleton _) (List.forall_mem_nil _)
    | cons e rest =>
      rw [← List.forall_mem_map]
      exact apart_separated (by decide)
  rw [← hlist]
  simp only [List.cons_append]
  rw [apart_require, apart_text (by decide)]
  cases distinct with
  | false => exact Iff.rfl
  | true => exact apart_text (by decide)

theorem Select.apart_pieces_iff (s : Select) :
    Apart d k s.pieces ↔ ∀ t ∈ s.parts, Apart d k t.pieces := by
  rw [s.forall_parts]
  cases s
  rw [Select.pieces]
  simp only [Expr.piecesOfList_eq_map, Source.piecesOfList_eq_map,
    OrderItem.piecesOfList_eq_map, Join.piecesOfList_eq_flatMap]
  rw [apart_requiredClause _ (by decide), apart_requiredClause _ (by decide),
    apart_listClause (by decide), apart_clause (by decide), apart_listClause (by decide),
    apart_clause (by decide), apart_joins, apart_listClause (by decide), apart_selections]
  simp only [List.forall_mem_map, Source.apart_pieces_iff, OrderItem.apart_pieces_iff,
    Subtree.pieces, and_assoc]
  exact and_left_comm

namespace Subtree

/-- The expressions keep minus signs apart. -/
def OpensNone (d : Dialect) (k : CommentKind) : Subtree → Prop
  | .expr e => e.OpensNone d k
  | .select _ => True

-- A comment begins in a tree only at a minus sign that is written in it.
theorem apart_pieces_iff (hFn : ∀ s, Fn s → ClearOf commentChars s) (hd : d.Uncommented)
    {t : Subtree} (h : t.Everywhere (Expr.Plain Fn Neg)) :
    Apart d k t.pieces ↔ ∀ e, t.Has (.expr e) → e.OpensNone d k := by
  have hstep : ∀ t : Subtree, t.Everywhere (Expr.Plain Fn Neg) →
      (Apart d k t.pieces ↔ t.OpensNone d k ∧ ∀ u ∈ t.parts, Apart d k u.pieces) := by
    intro t ht
    cases t with
    | expr e => exact e.apart_pieces_iff hFn hd ht
    | select s => exact s.apart_pieces_iff.trans (and_iff_right trivial).symm
  rw [iff_forall_has (fun t => everywhere_parts) hstep t h]
  refine ⟨fun hall e he => hall _ he, fun hall u hu => ?_⟩
  cases u with
  | expr e => exact hall e hu
  | select s => trivial

end Subtree

/-! ### Statements -/

namespace Piece

theorem apart_updateList {updates : List ColumnUpdate} :
    Apart d k (updateList updates) ↔ ∀ u ∈ updates, Apart d k u.value.pieces := by
  rw [updateList, apart_separated (by decide), List.forall_mem_map]
  refine forall₂_congr fun u _ => ?_
  rw [ColumnUpdate.pieces, apart_name, apart_text (by decide)]

theorem apart_exprs {selections : List Expr} :
    Apart d k (separated ", " (Expr.piecesOfList selections)) ↔
      ∀ e ∈ selections, Apart d k e.pieces := by
  rw [Expr.piecesOfList_eq_map, apart_separated (by decide), List.forall_mem_map]

theorem apart_returningClause {returning : Option (List Expr)} :
    Apart d k (p ++ returningClause returning) ↔
      Apart d k p ∧ ∀ e ∈ returning.getD [], Apart d k e.pieces := by
  cases returning with
  | none => simp [returningClause]
  | some selections =>
    rw [returningClause, apart_require_append, apart_link (by decide), apart_exprs]
    rfl

theorem apart_conflictTarget {target : ConflictTarget} :
    Apart d k (p ++ target.pieces) ↔ Apart d k p ∧ ∀ e ∈ target.exprs, Apart d k e.pieces := by
  cases target with
  | unspecified => simp [ConflictTarget.pieces, ConflictTarget.exprs]
  | columns names =>
    simpa [ConflictTarget.pieces, ConflictTarget.exprs] using apart_columnList names
  | constraint s =>
    rw [ConflictTarget.pieces, apart_link (by decide)]
    simp [ConflictTarget.exprs]
  | expr e =>
    rw [ConflictTarget.pieces, List.cons_append, apart_link (by decide), apart_closed (by decide)]
    simp [ConflictTarget.exprs]

theorem apart_conflictAction {action : ConflictAction} :
    Apart d k (p ++ action.pieces) ↔ Apart d k p ∧ ∀ e ∈ action.exprs, Apart d k e.pieces := by
  cases action with
  | nothing => simpa [ConflictAction.pieces, ConflictAction.exprs] using apart_closed (by decide)
  | update updates filter =>
    rw [ConflictAction.pieces, ← List.append_assoc, apart_clause (by decide),
      apart_link (by decide), apart_updateList, and_assoc]
    simp [ConflictAction.exprs, or_imp, forall_and]

theorem apart_conflict (c : Conflict) :
    Apart d k (p ++ c.pieces) ↔ Apart d k p ∧ ∀ e ∈ c.exprs, Apart d k e.pieces := by
  have hsplit : p ++ c.pieces = p ++ [Piece.require .onConflict] ++ [Piece.text " ON CONFLICT"] ++
      c.target.pieces ++ Expr.clause [Piece.text " WHERE "] c.indexFilter ++ c.action.pieces := by
    simp [Conflict.pieces]
  rw [hsplit, apart_conflictAction, apart_clause (by decide), apart_conflictTarget,
    apart_closed (by decide), apart_require_append, List.append_nil]
  simp [Conflict.exprs, or_imp, forall_and, and_assoc]

theorem apart_rows (rows : List (List Expr)) :
    Apart d k (rowsPieces rows) ↔ ∀ e ∈ rows.flatten, Apart d k e.pieces := by
  rw [rowsPieces]
  simp only [List.cons_append]
  rw [apart_require, apart_text (by decide), apart_closed (by decide),
    apart_separated (by decide), List.forall_mem_map]
  simp only [apart_exprs, List.forall_mem_flatten]

theorem apart_sourceExpr (e : Expr) :
    Apart d k (Insert.sourceExpr e) ↔ Apart d k e.pieces := by
  cases e with
  | subquery s => rw [Insert.sourceExpr, Expr.pieces, apart_parenthesized]
  | _ => exact Iff.rfl

theorem apart_insertSource (i : Insert) :
    Apart d k (p ++ i.sourcePieces) ↔
      Apart d k p ∧ ∀ e ∈ i.writtenSource.toList.flatMap InsertSource.exprs,
        Apart d k e.pieces := by
  have hdefaults : Apart d k (p ++ Insert.defaultsClause) ↔ Apart d k p := by
    rw [Insert.defaultsClause, apart_require_append]
    exact apart_closed (by decide)
  have hrefused : Apart d k (p ++ [Piece.refuse (.noSource i.into.name)]) ↔ Apart d k p := by
    simp [Apart, glyphs]
  have hempty : ∀ exprs : List Expr, exprs = [] →
      (Apart d k p ↔ Apart d k p ∧ ∀ e ∈ exprs, Apart d k e.pieces) := by
    rintro _ rfl
    exact (and_iff_left (List.forall_mem_nil _)).symm
  unfold Insert.sourcePieces Insert.writtenSource
  rcases i.source with _ | rows | e | _ <;> rcases i.writtenColumns with _ | ⟨column, columns⟩
  · exact hdefaults.trans (hempty _ rfl)
  · exact hrefused.trans (hempty _ rfl)
  · exact hdefaults.trans (hempty _ rfl)
  · rw [← List.append_assoc, apart_link (by decide), apart_columnList, apart_rows]
    simp [InsertSource.exprs]
  · rw [apart_link (by decide), apart_sourceExpr]
    simp [InsertSource.exprs]
  · rw [← List.append_assoc, apart_link (by decide), apart_columnList, apart_sourceExpr]
    simp [InsertSource.exprs]
  · exact hdefaults.trans (hempty _ rfl)
  · exact hdefaults.trans (hempty _ rfl)

theorem apart_conflictClause (o : Option Conflict) :
    Apart d k (p ++ match o with
      | some c => c.pieces
      | none => []) ↔
        Apart d k p ∧ ∀ e ∈ o.toList.flatMap Conflict.exprs, Apart d k e.pieces := by
  cases o with
  | none => simp
  | some c => simpa using apart_conflict c

theorem apart_duplicateClause (o : Option (List ColumnUpdate)) :
    Apart d k (p ++ match o with
      | some updates =>
        .require .onDuplicateKey :: .text " ON DUPLICATE KEY UPDATE " :: updateList updates
      | none => []) ↔
        Apart d k p ∧ ∀ e ∈ (o.getD []).map ColumnUpdate.value, Apart d k e.pieces := by
  cases o with
  | none => simp
  | some updates =>
    rw [List.forall_mem_map]
    exact (apart_require_append _).trans ((apart_link (by decide)).trans
      (and_congr_right' apart_updateList))

end Piece

theorem Insert.apart_pieces_iff (hd : d.Uncommented) (i : Insert) :
    Apart d k i.pieces ↔ ∀ e ∈ i.written, Apart d k e.pieces := by
  have hverb : Apart d k (Piece.require .insert ::
      (if i.replace then [Piece.require .replace, Piece.text "REPLACE"]
        else [Piece.text "INSERT"]) ++
      (if i.ignore then [Piece.require .insertIgnore, Piece.text " ", Piece.ignoreKeyword]
        else [])) := by
    rw [List.cons_append, apart_require]
    have hword (s : String) (h : ClearOf commentChars s) : Apart d k [.text s] :=
      (apart_text h).mpr apart_nil
    have hkeyword : ∀ p, Apart d k p →
        Apart d k (p ++ [Piece.require .insertIgnore, Piece.text " ", Piece.ignoreKeyword]) :=
      fun p hp =>
        (apart_require_append _).mpr ((apart_link (by decide)).mpr
          ⟨hp, (apart_ignoreKeyword hd).mpr apart_nil⟩)
    cases i.replace <;> cases i.ignore
    · exact hword _ (by decide)
    · exact hkeyword _ (hword _ (by decide))
    · exact hword _ (by decide)
    · exact hkeyword [Piece.require .replace, Piece.text "REPLACE"] (hword _ (by decide))
  have hinto := (apart_link (by decide : Separates " INTO ")).mpr ⟨hverb, apart_table i.into⟩
  have hsource := (apart_insertSource i).trans (and_iff_right hinto)
  have hconflict := (apart_conflictClause i.onConflict).trans (and_congr_left' hsource)
  have hduplicate := (apart_duplicateClause i.onDuplicateKey).trans (and_congr_left' hconflict)
  refine (apart_returningClause.trans (and_congr_left' hduplicate)).trans ?_
  simp only [written, exprs, List.forall_mem_append]

theorem Update.apart_pieces_iff (u : Update) :
    Apart d k u.pieces ↔ ∀ e ∈ u.written, Apart d k e.pieces := by
  rw [pieces, apart_require, written]
  split
  · exact iff_of_true (List.isChain_nil) (List.forall_mem_nil _)
  · simp only [List.cons_append]
    rw [apart_text (by decide), apart_returningClause, apart_clause (by decide),
      apart_link (by decide), apart_updateList]
    simp [exprs, or_imp, forall_and, apart_table, and_assoc]

theorem Delete.apart_pieces_iff (x : Delete) :
    Apart d k x.pieces ↔ ∀ e ∈ x.exprs, Apart d k e.pieces := by
  rw [pieces]
  simp only [List.cons_append]
  rw [apart_require, apart_text (by decide), apart_returningClause, apart_clause (by decide)]
  simp [exprs, or_imp, forall_and, apart_table]

theorem Explain.apart_pieces_iff (hd : d.Uncommented) {x : Explain}
    (hformat : ∀ s ∈ x.format, ClearOf commentChars s) :
    Apart d k (x.pieces ++ p) ↔ (∀ e ∈ x.options, Apart d k e.pieces) ∧ Apart d k p := by
  obtain ⟨format, options⟩ := x
  rw [pieces, List.append_assoc, List.cons_append, List.cons_append, apart_require,
    apart_text (by decide)]
  generalize hrest : (_ : List Piece) ++ p = rest
  have hformatted : Apart d k rest ↔ Apart d k p := by
    rw [← hrest]
    cases format with
    | none => exact Iff.rfl
    | some s => exact (apart_explainFormat hd (hformat s rfl)).trans (apart_text (by decide))
  rw [← hformatted]
  cases options with
  | none => exact (and_iff_right (by simp)).symm
  | some options =>
    rw [List.append_assoc, List.singleton_append, apart_link (by decide)]
    exact and_congr_left' ⟨fun h e he => Option.some.inj he ▸ h, fun h => h options rfl⟩

theorem Query.apart_ownParts_iff (hd : d.Uncommented) (q : Query) :
    Apart d k q.pieces ↔ ∀ t ∈ q.ownParts, Apart d k t.pieces := by
  cases q with
  | select s =>
    rw [ownParts, List.forall_mem_singleton]
    rfl
  | insert i => exact (i.apart_pieces_iff hd).trans Subtree.apart_map_expr.symm
  | update u => exact u.apart_pieces_iff.trans Subtree.apart_map_expr.symm
  | delete x => exact x.apart_pieces_iff.trans Subtree.apart_map_expr.symm

theorem Query.apart_rootPieces_iff (hd : d.Uncommented) {q : Query}
    (hformat : ∀ x ∈ q.explain, ∀ s ∈ x.format, ClearOf commentChars s) :
    Apart d k q.rootPieces ↔ ∀ t ∈ q.parts, Apart d k t.pieces := by
  rw [Query.parts, List.forall_mem_append, List.forall_mem_map, ← q.apart_ownParts_iff hd]
  unfold rootPieces
  cases hx : q.explain with
  | none => simp
  | some x =>
    rw [Explain.apart_pieces_iff hd (hformat x hx)]
    simp [Subtree.pieces]

end

end SqlWeave
