import SqlWeave.Proofs.Firm

/-!
# Narrowing by several predicates

Predicates that are added to a statement one after the other are joined by `AND`.  Written out, the
result means their conjunction as long as each of them stands firm next to an `AND`, which every
condition without `OR` outside brackets does.  A condition with such an `OR` does only if it is
never true.
-/

namespace SqlWeave

open Reading (Node Reads Mode isOr isStatement isSettled isCondition holds run)
open SqlWeave.Symbol (ofString)

variable {d : Dialect} {ρ : List Node → Bool}

namespace Expr

variable (d : Dialect) (ρ : List Node → Bool) (e : Expr)

/-- The text of an expression, with its parameters in place. -/
def symbols : List Symbol := e.pieces.flatMap (Piece.symbols d)

/-- The text of an expression, read alone as a condition. -/
def condition : Option (List Node) := (Reading.read (e.symbols d)).filter isCondition

/-- The truth of the text of an expression that is read alone, if it is a condition. -/
def meaning : Option Bool := (e.condition d).map (holds ρ)

def isTrue : Bool := e.meaning d ρ == some true

/-- The text of an expression is a condition that does not end in a comment. -/
structure Stands (nodes : List Node) : Prop where
  reads : Reads (e.symbols d) nodes
  condition : isCondition nodes = true

/-- The text of an expression is a condition without `OR` outside brackets. -/
def Firm : Prop := ∃ nodes, e.Stands d nodes ∧ ∀ n ∈ nodes, isOr n = false

/-- What stands before an `OR` outside brackets is true. -/
def TrueBeforeOr : Prop := ∃ nodes ∈ e.condition d, Reading.TrueBeforeOr ρ nodes

/-- What stands after an `OR` outside brackets is true. -/
def TrueAfterOr : Prop := ∃ nodes ∈ e.condition d, Reading.TrueAfterOr ρ nodes

/-- The text of an expression is a condition that no truth of its atomic conditions makes true. -/
def NeverTrue : Prop := ∃ nodes, e.Stands d nodes ∧ ∀ ρ, holds ρ nodes = false

end Expr

/-- The truth of the condition of a statement, which has none if it takes all rows. -/
def filterMeaning (d : Dialect) (ρ : List Node → Bool) : Option Expr → Option Bool
  | some e => e.meaning d ρ
  | none => some true

/-- The condition of a statement is true exactly when every predicate is. -/
def Narrows (d : Dialect) (filter : Option Expr) (predicates : List Expr) : Prop :=
  ∀ ρ, filterMeaning d ρ filter = some (predicates.all (Expr.isTrue d ρ))

/-- Whether no predicate is true by what stands after one of its `OR`s while the predicates after it
are true and those before it, whose truth is given, are not. -/
def Guarded (d : Dialect) (ρ : List Node → Bool) : Bool → List Expr → Prop
  | _, [] => True
  | before, p :: rest =>
    (p.TrueAfterOr d ρ → rest.all (Expr.isTrue d ρ) = true → before = true) ∧
      Guarded d ρ (before && p.isTrue d ρ) rest

/-- Whether the first predicate is not true by what stands before one of its `OR`s while the second
one is false and the others are true. -/
def FirstGuarded (d : Dialect) (ρ : List Node → Bool) : List Expr → Prop
  | p :: q :: rest =>
    p.TrueBeforeOr d ρ → rest.all (Expr.isTrue d ρ) = true → q.isTrue d ρ = true
  | _ => True

namespace Expr

variable {a b e : Expr} {m n nodes : List Node}

namespace Stands

theorem condition_eq (h : e.Stands d nodes) : e.condition d = some nodes := by
  rw [Expr.condition, h.reads.read_eq, Option.filter_some, if_pos h.condition]

theorem meaning_eq (h : e.Stands d nodes) : e.meaning d ρ = some (holds ρ nodes) := by
  rw [Expr.meaning, h.condition_eq, Option.map_some]

theorem isTrue_eq (h : e.Stands d nodes) : e.isTrue d ρ = holds ρ nodes := by
  rw [Expr.isTrue, h.meaning_eq]
  cases holds ρ nodes <;> rfl

theorem settled (h : e.Stands d nodes) : isSettled false nodes = true :=
  (Bool.and_eq_true_iff.mp h.condition).2

theorem not_statement (h : e.Stands d nodes) : isStatement nodes = false := by
  have hstatement := (Bool.and_eq_true_iff.mp h.condition).1
  rwa [Bool.not_eq_true'] at hstatement

end Stands

theorem Stands.of_condition (h : e.condition d = some nodes)
    (hclosed : (run .between (e.symbols d)).2.isClosed = true) : e.Stands d nodes := by
  obtain ⟨hread, hcondition⟩ := Option.filter_eq_some_iff.mp h
  refine ⟨⟨hclosed, ?_⟩, hcondition⟩
  unfold Reading.read at hread
  split at hread
  · exact hread
  · exact nomatch hread

/-! ## Conjunctions -/

theorem symbols_and (a b : Expr) :
    (a.and b).symbols d =
      .char '(' :: (a.symbols d ++ (ofString " AND " ++ b.symbols d)) ++ [.char ')'] := by
  have hnull : isKeywordNull .and b = false := by
    unfold isKeywordNull
    split <;> rfl
  have hpieces : (a.and b).pieces =
      .require .binaryOperation ::
        Piece.parenthesized (a.pieces ++ [.text " ", .text "AND", .text " "] ++ b.pieces) := by
    rw [Expr.and, Expr.pieces, hnull]
    rfl
  rw [symbols, hpieces, Piece.parenthesized]
  simp [symbols, Piece.symbols, ofString]

/-- The nodes of a conjunction, without its parentheses. -/
def joined (m n : List Node) : List Node := m ++ .word "AND".toList :: n

theorem Stands.and (ha : a.Stands d m) (hb : b.Stands d n) :
    (a.and b).Stands d [.group .round (joined m n)] := by
  have hand : Reads (ofString " AND ") [.word "AND".toList] := ⟨rfl, rfl⟩
  have hsecond : Reads (ofString " AND " ++ b.symbols d) ([.word "AND".toList] ++ n) :=
    hand.after rfl hb.reads
  refine ⟨?_, rfl⟩
  rw [symbols_and]
  exact (ha.reads.before (by decide) hsecond).group

theorem Stands.isTrue_and (ha : a.Stands d m) (hb : b.Stands d n) :
    (a.and b).isTrue d ρ = holds ρ (joined m n) := by
  have hstatement : isStatement (joined m n) = false := by
    cases m with
    | nil => rfl
    | cons first rest => exact ha.not_statement
  rw [(ha.and hb).isTrue_eq, Reading.holds_group hstatement]

/-! ## Exactness -/

theorem Stands.trueBeforeOr_iff (h : e.Stands d nodes) :
    e.TrueBeforeOr d ρ ↔ Reading.TrueBeforeOr ρ nodes := by
  rw [Expr.TrueBeforeOr, h.condition_eq]
  simp

theorem Stands.trueAfterOr_iff (h : e.Stands d nodes) :
    e.TrueAfterOr d ρ ↔ Reading.TrueAfterOr ρ nodes := by
  rw [Expr.TrueAfterOr, h.condition_eq]
  simp

theorem Stands.trueBeforeOr_isTrue (h : e.Stands d nodes) (htrue : e.TrueBeforeOr d ρ) :
    e.isTrue d ρ = true := by
  rw [h.isTrue_eq]
  exact (h.trueBeforeOr_iff.mp htrue).holds

theorem Stands.trueAfterOr_isTrue (h : e.Stands d nodes) (htrue : e.TrueAfterOr d ρ) :
    e.isTrue d ρ = true := by
  rw [h.isTrue_eq]
  exact (h.trueAfterOr_iff.mp htrue).holds

-- A conjunction is true when both sides are, or what the `AND` between them does not reach.
theorem Stands.isTrue_and_iff (ha : a.Stands d m) (hb : b.Stands d n) :
    (a.and b).isTrue d ρ = true ↔
      a.TrueBeforeOr d ρ ∨ b.TrueAfterOr d ρ ∨ a.isTrue d ρ = true ∧ b.isTrue d ρ = true := by
  rw [ha.isTrue_and hb, ha.trueBeforeOr_iff, hb.trueAfterOr_iff, ha.isTrue_eq, hb.isTrue_eq]
  exact Reading.holds_joined_iff ha.settled rfl

theorem Firm.not_trueBeforeOr (h : e.Firm d) : ¬e.TrueBeforeOr d ρ := by
  obtain ⟨nodes, hstands, hor⟩ := h
  rw [hstands.trueBeforeOr_iff]
  exact Reading.not_trueBeforeOr hor

theorem Stands.firm_and (ha : a.Stands d m) (hb : b.Stands d n) : (a.and b).Firm d := by
  refine ⟨_, ha.and hb, fun node hnode => ?_⟩
  rw [List.mem_singleton.mp hnode]
  rfl

theorem Firm.meaning_eq (h : e.Firm d) : e.meaning d ρ = some (e.isTrue d ρ) := by
  obtain ⟨nodes, hstands, -⟩ := h
  rw [hstands.meaning_eq, hstands.isTrue_eq]

-- One more predicate `p` turns the truth `m` of a condition into `m'`, and the truth `t` that it
-- should have into `t && p`.  They agree again as far as `r` allows if they agreed before.
theorem agree_iff {m m' p t r : Bool} {after : Prop} (hm' : m' = true ↔ after ∨ m = true ∧ p = true)
    (hafter : after → p = true) (ht : t = true → m = true) :
    (r = true → m' = (t && p)) ↔ (p = true ∧ r = true → m = t) ∧ (after → r = true → t = true) := by
  cases p with
  | false =>
    have hnot : ¬after := fun h => nomatch hafter h
    have hm'' : m' = false := by
      rw [← Bool.not_eq_true, hm']
      simp [hnot]
    simp [hm'', hnot]
  | true => grind

-- What the predicates of a list mean once they are joined to a condition that stands firm.  `t` is
-- the truth of the predicates that went into the condition.
theorem Firm.foldl_conjoin {predicates : List Expr}
    (hp : ∀ p ∈ predicates, ∃ nodes, p.Stands d nodes) (he : e.Firm d) {t : Bool}
    (ht : t = true → e.isTrue d ρ = true) :
    ∃ f, predicates.foldl conjoin (some e) = some f ∧ f.Firm d ∧
      (f.isTrue d ρ = (t && predicates.all (Expr.isTrue d ρ)) ↔
        (predicates.all (Expr.isTrue d ρ) = true → e.isTrue d ρ = t) ∧
          Guarded d ρ t predicates) := by
  induction predicates generalizing e t with
  | nil =>
    refine ⟨e, rfl, he, ?_⟩
    rw [List.all_nil, Bool.and_true]
    exact ⟨fun h => ⟨fun _ => h, trivial⟩, fun h => h.1 rfl⟩
  | cons p rest ih =>
    -- What is conjoined first stands firm, so only the new predicate can escape the `AND`.
    obtain ⟨n, hn⟩ := hp p List.mem_cons_self
    obtain ⟨m, hm, -⟩ := id he
    have hstep : (e.and p).isTrue d ρ = true ↔
        p.TrueAfterOr d ρ ∨ e.isTrue d ρ = true ∧ p.isTrue d ρ = true :=
      (hm.isTrue_and_iff hn).trans (or_iff_right he.not_trueBeforeOr)
    have hlater : p.TrueAfterOr d ρ → p.isTrue d ρ = true := hn.trueAfterOr_isTrue
    have ht' : (t && p.isTrue d ρ) = true → (e.and p).isTrue d ρ = true := by
      intro h
      rw [Bool.and_eq_true] at h
      exact hstep.mpr (.inr ⟨ht h.1, h.2⟩)
    obtain ⟨f, hf, hfirm, htrue⟩ :=
      ih (fun q hq => hp q (List.mem_cons_of_mem _ hq)) (hm.firm_and hn) ht'
    refine ⟨f, hf, hfirm, ?_⟩
    rw [List.all_cons, ← Bool.and_assoc, htrue, Guarded, ← and_assoc]
    refine and_congr_left fun _ => ?_
    rw [Bool.and_eq_true]
    exact agree_iff hstep hlater ht

-- Predicates that are conditions narrow a statement exactly when each `AND` reaches what it has to.
theorem narrows_iff {predicates : List Expr} (hp : ∀ p ∈ predicates, ∃ nodes, p.Stands d nodes) :
    Narrows d (predicates.foldl conjoin none) predicates ↔
      ∀ ρ, Guarded d ρ true predicates ∧ FirstGuarded d ρ predicates := by
  refine forall_congr' fun ρ => ?_
  -- A single predicate stands alone; the first `AND` has a raw text on both sides, and every later
  -- one has the parentheses of a conjunction on its left.
  match predicates with
  | [] => exact ⟨fun _ => ⟨trivial, trivial⟩, fun _ => rfl⟩
  | [p] =>
    obtain ⟨nodes, hstands⟩ := hp p List.mem_cons_self
    have hmeaning : p.meaning d ρ = some ([p].all (Expr.isTrue d ρ)) := by
      rw [hstands.meaning_eq, ← hstands.isTrue_eq, List.all_cons, List.all_nil, Bool.and_true]
    exact ⟨fun _ => ⟨⟨fun _ _ => rfl, trivial⟩, trivial⟩, fun _ => hmeaning⟩
  | p :: q :: rest =>
    obtain ⟨m, hm⟩ := hp p List.mem_cons_self
    obtain ⟨n, hn⟩ := hp q (List.mem_cons_of_mem _ List.mem_cons_self)
    have hstep := hm.isTrue_and_iff (ρ := ρ) hn
    have hafter : q.TrueAfterOr d ρ → q.isTrue d ρ = true := hn.trueAfterOr_isTrue
    have hbefore : p.TrueBeforeOr d ρ → p.isTrue d ρ = true := hm.trueBeforeOr_isTrue
    have ht : (p.isTrue d ρ && q.isTrue d ρ) = true → (p.and q).isTrue d ρ = true := by
      intro h
      rw [Bool.and_eq_true] at h
      exact hstep.mpr (.inr (.inr h))
    obtain ⟨f, hf, hfirm, htrue⟩ := Firm.foldl_conjoin
      (fun r hr => hp r (List.mem_cons_of_mem _ (List.mem_cons_of_mem _ hr))) (hm.firm_and hn) ht
    have hfold : (p :: q :: rest).foldl conjoin none = some f := hf
    rw [hfold, filterMeaning, hfirm.meaning_eq, Option.some.injEq, List.all_cons, List.all_cons,
      ← Bool.and_assoc, htrue, Guarded, Guarded, FirstGuarded, Bool.true_and]
    have hpair : (rest.all (Expr.isTrue d ρ) = true →
          (p.and q).isTrue d ρ = (p.isTrue d ρ && q.isTrue d ρ)) ↔
        (q.TrueAfterOr d ρ → rest.all (Expr.isTrue d ρ) = true → p.isTrue d ρ = true) ∧
          (p.TrueBeforeOr d ρ → rest.all (Expr.isTrue d ρ) = true → q.isTrue d ρ = true) := by
      grind
    rw [hpair]
    constructor
    · rintro ⟨⟨hsecond, hfirst⟩, hrest⟩
      exact ⟨⟨fun _ _ => rfl, hsecond, hrest⟩, hfirst⟩
    · rintro ⟨⟨-, hsecond, hrest⟩, hfirst⟩
      exact ⟨⟨hsecond, hfirst⟩, hrest⟩

/-! ## Predicates that keep their meaning -/

theorem exists_stands (h : e.Firm d ∨ e.NeverTrue d) : ∃ nodes, e.Stands d nodes := by
  rcases h with ⟨nodes, hstands, -⟩ | ⟨nodes, hstands, -⟩
  · exact ⟨nodes, hstands⟩
  · exact ⟨nodes, hstands⟩

theorem NeverTrue.isTrue_eq (h : e.NeverTrue d) : e.isTrue d ρ = false := by
  obtain ⟨nodes, hstands, hfalse⟩ := h
  rw [hstands.isTrue_eq, hfalse]

theorem not_trueBeforeOr (h : e.Firm d ∨ e.NeverTrue d) : ¬e.TrueBeforeOr d ρ := by
  obtain ⟨nodes, hstands⟩ := exists_stands h
  intro htrue
  rcases h with hfirm | hnever
  · exact hfirm.not_trueBeforeOr htrue
  · have h := hstands.trueBeforeOr_isTrue htrue
    rw [hnever.isTrue_eq] at h
    exact nomatch h

theorem not_trueAfterOr (h : e.Firm d ∨ e.NeverTrue d) : ¬e.TrueAfterOr d ρ := by
  obtain ⟨nodes, hstands⟩ := exists_stands h
  intro htrue
  rcases h with ⟨nodes', hstands', hor⟩ | hnever
  · exact Reading.not_trueAfterOr hor (hstands'.trueAfterOr_iff.mp htrue)
  · have h := hstands.trueAfterOr_isTrue htrue
    rw [hnever.isTrue_eq] at h
    exact nomatch h

theorem guarded_of_not_trueAfterOr {predicates : List Expr}
    (h : ∀ p ∈ predicates, ¬p.TrueAfterOr d ρ) (before : Bool) : Guarded d ρ before predicates := by
  induction predicates generalizing before with
  | nil => exact trivial
  | cons p rest ih =>
    refine ⟨fun htrue => absurd htrue (h p List.mem_cons_self), ?_⟩
    exact ih (fun q hq => h q (List.mem_cons_of_mem _ hq)) _

theorem narrows_of_firm_or_neverTrue {predicates : List Expr}
    (hp : ∀ p ∈ predicates, p.Firm d ∨ p.NeverTrue d) :
    Narrows d (predicates.foldl conjoin none) predicates := by
  rw [narrows_iff fun p h => exists_stands (hp p h)]
  intro ρ
  refine ⟨guarded_of_not_trueAfterOr (fun p h => not_trueAfterOr (hp p h)) true, ?_⟩
  match predicates with
  | [] => exact trivial
  | [p] => exact trivial
  | p :: q :: rest => exact fun htrue => absurd htrue (not_trueBeforeOr (hp p List.mem_cons_self))

-- Every predicate without raw SQL stands firm, because disjunctions bring their parentheses.
theorem firm_of_plain (hd : d ∈ Dialect.builtIn)
    (h : e.Everywhere (Expr.Plain ReadsAs.PlainName (ReadsAs.NoMinus d))) : e.Firm d := by
  have hphrase : Phrase ReadsAs.PlainName (ReadsAs.NoMinus d) false e.pieces := Expr.phrase h
  obtain ⟨nodes, hreads, hplain⟩ := ReadsAs.of_phrase hd hphrase
  have hplain' : Reading.IsPlain nodes := hplain rfl
  exact ⟨nodes, ⟨hreads, hplain'.condition⟩, hplain'.not_or⟩

/-! ## Necessity -/

/-- A condition that is never true. -/
def contradiction : Expr := .raw ["x AND NOT x"] []

def contradictionNodes : List Node :=
  [.word ['x'], .word "AND".toList, .word "NOT".toList, .word ['x']]

theorem stands_contradiction : contradiction.Stands d contradictionNodes := ⟨⟨rfl, rfl⟩, rfl⟩

theorem firm_contradiction : contradiction.Firm d :=
  ⟨contradictionNodes, stands_contradiction, by decide⟩

theorem holds_contradiction : holds ρ contradictionNodes = false := by
  show (((ρ [.word ['x']]) && (!(ρ [.word ['x']]) && true)) || false) = false
  cases ρ [.word ['x']] <;> rfl

-- A comment that does not end takes in the parenthesis that would close a conjunction.
theorem condition_and_eq_none (h : e.condition d = some nodes)
    (hopen : (run .between (e.symbols d)).2.isClosed = false) :
    (e.and contradiction).condition d = none := by
  obtain ⟨hread, -⟩ := Option.filter_eq_some_iff.mp h
  unfold Reading.read at hread
  have hend : (run .between (e.symbols d)).2.canEnd = true := by
    by_contra hend
    rw [if_neg hend] at hread
    exact nomatch hread
  rw [if_pos hend] at hread
  have hmode : (run .between (e.symbols d)).2 = .lineComment := by
    cases hm : (run .between (e.symbols d)).2 with
    | lineComment => rfl
    | _ =>
      rw [hm] at hend hopen
      exact absurd (hend.symm.trans hopen) (by decide)
  have hpending : Mode.lineComment.pending = [] := rfl
  rw [hmode, hpending, List.append_nil] at hread
  have htail : run .lineComment (ofString " AND " ++ contradiction.symbols d ++ [.char ')']) =
      ([], .lineComment) := rfl
  have hrun : run .between ((e.and contradiction).symbols d) =
      (.opening .round :: (run .between (e.symbols d)).1, .lineComment) := by
    rw [symbols_and, List.cons_append, List.append_assoc, run]
    show (.opening .round :: (run .between _).1, (run .between _).2) = _
    rw [Reading.run_append, hmode, htail, List.append_nil]
  have hnest := Reading.nest_append hread [(.round, [])] [] []
  rw [List.append_nil] at hnest
  have hnone : Reading.read ((e.and contradiction).symbols d) = none := by
    unfold Reading.read
    rw [hrun]
    show Reading.nest [] [] (.opening .round :: (run .between (e.symbols d)).1 ++ []) = none
    rw [List.append_nil, Reading.nest, hnest]
    rfl
  rw [Expr.condition, hnone]
  rfl

theorem exists_condition_of_narrows {predicates : List Expr} (h : Narrows d (some e) predicates) :
    ∃ nodes, e.condition d = some nodes := by
  obtain ⟨nodes, hnodes, -⟩ := Option.map_eq_some_iff.mp (h fun _ => false)
  exact ⟨nodes, hnodes⟩

-- A predicate that narrows alone and on both sides of a contradiction keeps its meaning.
theorem firm_or_neverTrue_of_narrows (hself : Narrows d (some e) [e])
    (hbefore : Narrows d (some (e.and contradiction)) [e, contradiction])
    (hafter : Narrows d (some (contradiction.and e)) [contradiction, e]) :
    e.Firm d ∨ e.NeverTrue d := by
  obtain ⟨nodes, hcondition⟩ := exists_condition_of_narrows hself
  have hclosed : (run .between (e.symbols d)).2.isClosed = true := by
    by_contra hopen
    obtain ⟨_, hnodes⟩ := exists_condition_of_narrows hbefore
    rw [condition_and_eq_none hcondition (Bool.not_eq_true _ ▸ hopen)] at hnodes
    exact nomatch hnodes
  have hstands : e.Stands d nodes := .of_condition hcondition hclosed
  by_cases hor : ∀ n ∈ nodes, isOr n = false
  · exact .inl ⟨nodes, hstands, hor⟩
  · refine .inr ⟨nodes, hstands, fun ρ => ?_⟩
    have hcontradiction : contradiction.isTrue d ρ = false := by
      rw [stands_contradiction.isTrue_eq, holds_contradiction]
    have hstandsBoth : ∀ p ∈ [e, contradiction], ∃ nodes, p.Stands d nodes :=
      List.forall_mem_cons.mpr ⟨⟨nodes, hstands⟩, List.forall_mem_singleton.mpr
        ⟨_, stands_contradiction⟩⟩
    have hnotBefore : ¬Reading.TrueBeforeOr ρ nodes := by
      intro htrue
      have h : FirstGuarded d ρ [e, contradiction] := ((narrows_iff hstandsBoth).mp hbefore ρ).2
      have h' := h (hstands.trueBeforeOr_iff.mpr htrue) rfl
      rw [hcontradiction] at h'
      exact nomatch h'
    have hnotAfter : ¬Reading.TrueAfterOr ρ nodes := by
      intro htrue
      have hreversed : ∀ p ∈ [contradiction, e], ∃ nodes, p.Stands d nodes :=
        fun p hp => hstandsBoth p (by simpa [or_comm] using hp)
      have h : Guarded d ρ true [contradiction, e] := ((narrows_iff hreversed).mp hafter ρ).1
      have h' := h.2.1 (hstands.trueAfterOr_iff.mpr htrue) rfl
      rw [Bool.true_and, hcontradiction] at h'
      exact nomatch h'
    obtain ⟨a, o, b, rfl, ho, -⟩ := Reading.exists_first_or hor
    have ha : holds ρ a = false := by
      rw [← Bool.not_eq_true]
      exact fun htrue => hnotBefore ⟨a, o, b, rfl, ho, htrue⟩
    have hb : holds ρ b = false := by
      rw [← Bool.not_eq_true]
      exact fun htrue => hnotAfter ⟨a, o, b, rfl, ho, htrue⟩
    rw [Reading.holds_or a ho, ha, hb]
    rfl

end Expr

end SqlWeave
