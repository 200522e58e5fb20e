import SqlWeave.Proofs.Tree

/-!
# The grammar of what is written without raw SQL

Expressions and selects without raw SQL are put together from names, values and a few fixed texts.
`Phrase` is the grammar of their pieces.  What texts like these can and cannot contain is shown by
induction on the grammar, once for all kinds of trees.
-/

namespace SqlWeave

open Piece (separated parenthesized)

namespace Phrase

/-- The fixed texts that stand where an operand could stand. -/
def words : List String :=
  ["=", "<>", "<", "<=", ">", ">=", "LIKE", "NOT LIKE", "ILIKE", "IN", "NOT IN", "IS", "IS NOT",
    "AND", "+", "-", "*", "/", "||", "NULL", "INNER JOIN", "LEFT JOIN", "RIGHT JOIN", "FULL JOIN"]

/-- The fixed texts before a phrase. -/
def openings : List String :=
  ["NOT ", "EXISTS ", "NOT EXISTS ", "DISTINCT "]

/-- The fixed texts between two phrases. -/
def links : List String :=
  [" ", ", ", ".", " AS ", " ON ", " FROM ", " WHERE ", " GROUP BY ", " HAVING ", " ORDER BY ",
    " LIMIT ", " OFFSET "]

/-- The fixed texts after a phrase. -/
def closings : List String :=
  [" ASC", " DESC"]

end Phrase

open Phrase (words openings links closings)

/-- What is written without raw SQL, when names of functions satisfy `Fn` and what follows a minus
sign satisfies `Neg`.  A disjunction or a select outside parentheses makes a phrase loose. -/
inductive Phrase (Fn : String → Prop) (Neg : List Piece → Prop) : Bool → List Piece → Prop
  | empty {loose} : Phrase Fn Neg loose []
  | name {loose} (s : String) : Phrase Fn Neg loose [.name s]
  | param {loose} (v : Value) : Phrase Fn Neg loose [.param v]
  | defaultMarker {loose} : Phrase Fn Neg loose [.defaultMarker]
  | word {loose s} (hs : s ∈ words) : Phrase Fn Neg loose [.text s]
  | disjunction : Phrase Fn Neg true [.text "OR"]
  | select {p} (hp : Phrase Fn Neg true p) : Phrase Fn Neg true (.text "SELECT " :: p)
  | require {loose p} (c : Construct) (hp : Phrase Fn Neg loose p) :
      Phrase Fn Neg loose (.require c :: p)
  | required {loose p} (hp : Phrase Fn Neg loose p) (c : Construct) :
      Phrase Fn Neg loose (p ++ [.require c])
  | opening {loose s p} (hs : s ∈ openings) (hp : Phrase Fn Neg loose p) :
      Phrase Fn Neg loose (.text s :: p)
  | negation {loose p} (hn : Neg p) (hp : Phrase Fn Neg loose p) :
      Phrase Fn Neg loose (.text "-" :: p)
  | closing {loose s p} (hp : Phrase Fn Neg loose p) (hs : s ∈ closings) :
      Phrase Fn Neg loose (p ++ [.text s])
  | link {loose s a b} (ha : Phrase Fn Neg loose a) (hs : s ∈ links) (hb : Phrase Fn Neg loose b) :
      Phrase Fn Neg loose (a ++ .text s :: b)
  | group {loose p} (hp : Phrase Fn Neg true p) : Phrase Fn Neg loose (parenthesized p)
  | call {loose s p} (hs : Fn s) (hp : Phrase Fn Neg true p) :
      Phrase Fn Neg loose (.text s :: parenthesized p)
  | derived {loose p} (hp : Phrase Fn Neg true p) (s : String) :
      Phrase Fn Neg loose (.text "(" :: p ++ [.text ") AS ", .name s])

/-- The part of the grammar that an expression has to satisfy itself. -/
def Expr.Plain (Fn : String → Prop) (Neg : List Piece → Prop) : Expr → Prop
  | .raw _ _ => False
  | .call name _ => Fn name
  | .unary .negate e => Neg (operand e e.pieces)
  | _ => True

section Phrase

variable {Fn : String → Prop} {Neg : List Piece → Prop} {loose : Bool}

namespace Phrase

theorem separated {groups : List (List Piece)} (h : ∀ g ∈ groups, Phrase Fn Neg loose g) :
    Phrase Fn Neg loose (separated ", " groups) := by
  induction groups with
  | nil => exact .empty
  | cons g rest ih =>
    have hg := h g List.mem_cons_self
    cases rest with
    | nil => exact hg
    | cons next rest => exact .link hg (by decide) (ih fun g hg => h g (List.mem_cons_of_mem _ hg))

theorem operand {e : Expr} (h : ∀ loose, Phrase Fn Neg loose e.pieces) :
    Phrase Fn Neg loose (operand e e.pieces) := by
  unfold SqlWeave.operand
  split
  · exact .group (h true)
  · exact h loose

theorem table (t : Table) : Phrase Fn Neg loose t.pieces := by
  rcases t with ⟨_ | schema, name⟩
  · exact .name name
  · exact .link (.name schema) (by decide) (.name name)

theorem qualified (t : Option Table) {p : List Piece} (hp : Phrase Fn Neg loose p) :
    Phrase Fn Neg loose (Table.qualifier t ++ p) := by
  cases t with
  | none => exact hp
  | some t =>
    rw [Table.qualifier, List.append_assoc]
    exact .link (table t) (by decide) hp

theorem listClause {a : List Piece} {keyword : String} {groups : List (List Piece)}
    (ha : Phrase Fn Neg loose a) (hk : keyword ∈ links)
    (h : ∀ g ∈ groups, Phrase Fn Neg loose g) :
    Phrase Fn Neg loose (a ++ listClause keyword groups) := by
  unfold SqlWeave.listClause
  split
  · rw [List.append_nil]
    exact ha
  · exact .link ha hk (separated h)

theorem clause {a : List Piece} {keyword : String} {o : Option Expr}
    (ha : Phrase Fn Neg loose a) (hk : keyword ∈ links)
    (h : ∀ e ∈ o, Phrase Fn Neg loose e.pieces) :
    Phrase Fn Neg loose (a ++ Expr.clause [.text keyword] o) := by
  cases o with
  | none =>
    rw [Expr.clause, List.append_nil]
    exact ha
  | some e => exact .link ha hk (h e rfl)

theorem requiredClause {a : List Piece} {keyword : String} {o : Option Expr} (c : Construct)
    (ha : Phrase Fn Neg loose a) (hk : keyword ∈ links)
    (h : ∀ e ∈ o, Phrase Fn Neg loose e.pieces) :
    Phrase Fn Neg loose (a ++ Expr.clause [.require c, .text keyword] o) := by
  cases o with
  | none =>
    rw [Expr.clause, List.append_nil]
    exact ha
  | some e =>
    have hsplit : a ++ Expr.clause [.require c, .text keyword] (some e) =
        a ++ [.require c] ++ .text keyword :: e.pieces := by
      rw [Expr.clause, List.append_assoc]
      rfl
    rw [hsplit]
    exact .link (.required ha c) hk (h e rfl)

theorem joins {a : List Piece} {js : List Join} (ha : Phrase Fn Neg loose a)
    (h : ∀ j ∈ js, Phrase Fn Neg loose j.pieces) :
    Phrase Fn Neg loose (a ++ js.flatMap fun j => .text " " :: j.pieces) := by
  induction js generalizing a with
  | nil =>
    rw [List.flatMap_nil, List.append_nil]
    exact ha
  | cons j rest ih =>
    rw [List.flatMap_cons, ← List.append_assoc]
    refine ih ?_ fun j hj => h j (List.mem_cons_of_mem _ hj)
    exact .link ha (by decide) (h j List.mem_cons_self)

theorem rightOperand {op : BinaryOp} {right : Expr}
    (h : ∀ loose, Phrase Fn Neg loose right.pieces) :
    Phrase Fn Neg loose
      (if isKeywordNull op right then [.text "NULL"]
        else if op.isLogical then right.pieces
        else SqlWeave.operand right right.pieces) := by
  split
  · exact .word (by decide)
  · split
    · exact h loose
    · exact operand h

theorem operator {op : BinaryOp} (hop : op = .or → loose = true) :
    Phrase Fn Neg loose [.text op.sql] := by
  cases op with
  | or =>
    rw [hop rfl]
    exact .disjunction
  | _ => exact .word (by decide)

theorem binary {op : BinaryOp} {a b : List Piece} (hop : op = .or → loose = true)
    (ha : Phrase Fn Neg loose a) (hb : Phrase Fn Neg loose b) :
    Phrase Fn Neg loose (a ++ [.text " ", .text op.sql, .text " "] ++ b) := by
  have h : Phrase Fn Neg loose (a ++ .text " " :: ([.text op.sql] ++ .text " " :: b)) :=
    .link ha (by decide) (.link (operator hop) (by decide) hb)
  rw [List.append_assoc]
  exact h

theorem hereditary :
    Hereditary
      (fun e => e.Everywhere (Expr.Plain Fn Neg) → ∀ loose, Phrase Fn Neg loose e.pieces)
      (fun x => x.Everywhere (Expr.Plain Fn Neg) → Phrase Fn Neg true x.pieces)
      (fun s => s.Everywhere (Expr.Plain Fn Neg) → Phrase Fn Neg true s.pieces) where
  reference table column := by
    intro _ loose
    rw [Expr.pieces]
    exact .require _ (qualified table (.name column))
  value v := by
    intro _ loose
    rw [Expr.pieces]
    exact .require _ (.param v)
  raw fragments params _ := by
    intro h
    rw [Expr.Everywhere] at h
    exact h.1.elim
  binary left op right hl hr := by
    intro h loose
    rw [Expr.Everywhere] at h
    obtain ⟨-, hleft, hright⟩ := h
    have hright' : ∀ loose, Phrase Fn Neg loose right.pieces := hr hright
    rw [Expr.pieces]
    refine .require _ ?_
    -- A conjunction or disjunction brings its own parentheses, so that it may be loose inside.
    by_cases hop : op.isLogical
    · rw [if_pos hop]
      exact .group (binary (fun _ => rfl) (hl hleft true) (rightOperand hright'))
    · rw [if_neg hop]
      refine binary (fun hor => ?_) (operand (hl hleft)) (rightOperand hright')
      rw [hor] at hop
      exact absurd rfl hop
  unary op e he := by
    intro h loose
    rw [Expr.Everywhere] at h
    rw [Expr.pieces]
    refine .require _ ?_
    -- Nothing but a minus sign is written without a blank before its operand.
    cases op with
    | negate => exact .negation h.1 (operand (he h.2))
    | _ => exact .opening (by decide) (operand (he h.2))
  call name args ha := by
    intro h loose
    rw [Expr.Everywhere, Expr.everywhereList_iff] at h
    rw [Expr.pieces, Expr.piecesOfList_eq_map]
    refine .require _ (.call h.1 (separated ?_))
    exact List.forall_mem_map.mpr fun e he => ha e he (h.2 e he) true
  aliased e label he := by
    intro h loose
    rw [Expr.Everywhere] at h
    rw [Expr.pieces]
    exact .require _ (.link (he h.2 loose) (by decide) (.name label))
  list items hi := by
    intro h loose
    rw [Expr.Everywhere, Expr.everywhereList_iff] at h
    rw [Expr.pieces, Expr.piecesOfList_eq_map]
    refine .require _ (.group (separated ?_))
    exact List.forall_mem_map.mpr fun e he => hi e he (h.2 e he) true
  subquery s hs := by
    intro h loose
    rw [Expr.Everywhere] at h
    rw [Expr.pieces]
    exact .group (hs h.2)
  star table := by
    intro _ loose
    rw [Expr.pieces]
    exact qualified table (.word (by decide))
  defaultMarker := by
    intro _ loose
    rw [Expr.pieces]
    exact .require _ .defaultMarker
  table t label := by
    intro _
    cases label with
    | none =>
      rw [Source.pieces, List.append_nil]
      exact .require _ (Phrase.table t)
    | some label =>
      rw [Source.pieces]
      exact .require _ (.link (Phrase.table t) (by decide) (.name label))
  derived s label hs := by
    intro h
    rw [Source.Everywhere] at h
    rw [Source.pieces]
    exact .derived (hs h) label
  select s h := by
    intro hs
    rw [Select.everywhere_iff] at hs
    obtain ⟨sources, selections, distinct, joins, filter, groupBy, having, orderBy, limit, offset,
      explain⟩ := s
    have hselections : Phrase Fn Neg true (if selections.isEmpty then [.text "*"]
        else Piece.separated ", " (selections.map Expr.pieces)) := by
      split
      · exact .word (by decide)
      · exact separated (List.forall_mem_map.mpr fun e he =>
          h.selections e he (hs.selections e he) true)
    have hhead : Phrase Fn Neg true
        (.require .select :: .text "SELECT " :: ((if distinct then [.text "DISTINCT "] else []) ++
          (if selections.isEmpty then [.text "*"]
            else Piece.separated ", " (selections.map Expr.pieces)))) := by
      refine .require _ (.select ?_)
      split
      · exact .opening (by decide) hselections
      · exact hselections
    have hjoins : ∀ j ∈ joins, Phrase Fn Neg true j.pieces := by
      intro j hj
      rw [j.pieces_eq]
      have hkind : Phrase Fn Neg true [.text j.kind.sql] := by
        cases j.kind <;> exact .word (by decide)
      have hon := (h.joins j hj).2 (hs.joins j hj).2 true
      have hsource := (h.joins j hj).1 (hs.joins j hj).1
      exact .require _ (.link (.link hkind (by decide) hsource) (by decide) hon)
    have horderBy : ∀ i ∈ orderBy, Phrase Fn Neg true i.pieces := by
      intro i hi
      have hexpr := h.orderBy i hi (hs.orderBy i hi) true
      rw [i.pieces_eq]
      rcases i.direction with _ | _ | _
      · rw [Direction.sql, List.append_nil]
        exact .require _ hexpr
      · exact .require _ (.closing hexpr (by decide))
      · exact .require _ (.closing hexpr (by decide))
    rw [Select.pieces]
    simp only [Expr.piecesOfList_eq_map, Source.piecesOfList_eq_map,
      OrderItem.piecesOfList_eq_map, Join.piecesOfList_eq_flatMap]
    refine requiredClause _ (requiredClause _ (listClause (clause (listClause (clause
      (Phrase.joins (listClause hhead ?_ ?_) hjoins) ?_ ?_) ?_ ?_) ?_ ?_) ?_ ?_) ?_ ?_) ?_ ?_
    all_goals first | decide | skip
    · exact List.forall_mem_map.mpr fun x hx => h.sources x hx (hs.sources x hx)
    · exact fun e he => h.filter e he (hs.filter e he) true
    · exact List.forall_mem_map.mpr fun e he => h.groupBy e he (hs.groupBy e he) true
    · exact fun e he => h.having e he (hs.having e he) true
    · exact List.forall_mem_map.mpr horderBy
    · exact fun e he => h.limit e he (hs.limit e he) true
    · exact fun e he => h.offset e he (hs.offset e he) true

end Phrase

-- Expressions without raw SQL follow the grammar, with no disjunction outside parentheses.
theorem Expr.phrase {e : Expr} (h : e.Everywhere (Expr.Plain Fn Neg)) :
    Phrase Fn Neg loose e.pieces :=
  Phrase.hereditary.expr e h loose

theorem Select.phrase {s : Select} (h : s.Everywhere (Expr.Plain Fn Neg)) :
    Phrase Fn Neg true s.pieces :=
  Phrase.hereditary.ofSelect s h

end Phrase

end SqlWeave
