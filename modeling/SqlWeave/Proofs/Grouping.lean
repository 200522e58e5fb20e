import SqlWeave.Proofs.Parsing

/-!
# The grouping of operations

Parentheses are written around an operand that is a comparison or an arithmetic operation, and
around every conjunction and disjunction, but never around a `NOT`.  So a `NOT` to the left of a
comparison reaches over the whole comparison when the text is read, and after an `IS` it is taken
for a part of `IS NOT`.  This file says which tree is read for each tree (`Expr.reread`), and that
it is the same tree exactly when nothing of the kind occurs in it.
-/

namespace SqlWeave

namespace Expr

/-- Columns, values, binary operators, `NOT` and the minus sign.  A minus sign right after another
one would begin a comment. -/
inductive Basic : Expr → Prop
  | reference (table : Option Table) (column : String) : Basic (.reference table column)
  | value (v : Value) : Basic (.value v)
  | not {e : Expr} (he : Basic e) : Basic (.unary .not e)
  | negate {e : Expr} (he : Basic e) (hne : ∀ x, e ≠ .unary .negate x) : Basic (.unary .negate e)
  | binary {left right : Expr} (op : BinaryOp) (hleft : Basic left) (hright : Basic right) :
    Basic (.binary left op right)

def opensWithNot : Expr → Bool
  | .unary .not _ => true
  | .unary .negate e => e.opensWithNot
  | _ => false

/-- The operation that is read where a binary operator and its right side follow an operand.  The
operand is given as it was written and as it is read; a `NOT` in front of it takes the operation for
its own operand. -/
def extended (op : BinaryOp) (right : Expr) : (written read : Expr) → Expr
  | .unary u e, .unary _ e' =>
    if (Expr.unary u e).opensWithNot then .unary u (extended op right e e')
    else .binary (.unary u e') op right
  | _, e' => .binary e' op right

/-- The expression that is read for the text of a basic expression. -/
def reread : Expr → Expr
  | .unary u e => .unary u e.reread
  | .binary left .is (.unary .not e) => extended .isNot e.reread left left.reread
  | .binary left op right =>
    if op.isLogical then .binary left.reread op right.reread
    else extended op right.reread left left.reread
  | e => e

/-- An operation that is read as it was written, provided that its operands are. -/
def KeepsGrouping : Expr → Prop
  | .binary left op right =>
    op.isLogical = true ∨ left.opensWithNot = false ∧ ∀ e, op = .is → right ≠ .unary .not e
  | _ => True

/-! ## What is read -/

theorem reread_binary_of_isLogical {op : BinaryOp} (hop : op.isLogical = true)
    (left right : Expr) :
    (binary left op right).reread = .binary left.reread op right.reread := by
  rw [reread]
  · exact if_pos hop
  · rintro e rfl
    exact Bool.noConfusion hop

theorem reread_binary {op : BinaryOp} (hop : op.isLogical = false) {left right : Expr}
    (hright : ∀ e, op = .is → right ≠ .unary .not e) :
    (binary left op right).reread = extended op right.reread left left.reread := by
  rw [reread]
  · rw [hop]
    rfl
  · exact fun e hop he => hright e hop he

theorem reread_is_not (left e : Expr) :
    (binary left .is (.unary .not e)).reread = extended .isNot e.reread left left.reread := by
  rw [reread]

theorem extended_unary {u : UnaryOp} {e : Expr} (h : (unary u e).opensWithNot = true)
    (op : BinaryOp) (right : Expr) :
    extended op right (.unary u e) (unary u e).reread =
      .unary u (extended op right e e.reread) := by
  rw [reread, extended]
  exact if_pos h

theorem extended_eq_binary {left : Expr} (h : left.opensWithNot = false) (op : BinaryOp)
    (right : Expr) : extended op right left left.reread = .binary left.reread op right := by
  cases left with
  | unary u e =>
    rw [reread, extended, h]
    rfl
  | _ => rfl

theorem extended_ne_binary {left : Expr} (h : left.opensWithNot = true) (op op' : BinaryOp)
    (right a b : Expr) : extended op right left left.reread ≠ .binary a op' b := by
  cases left with
  | unary u e =>
    rw [extended_unary h]
    exact nofun
  | _ => exact Bool.noConfusion h

theorem extended_eq_iff (op op' : BinaryOp) (left left' right right' : Expr) :
    extended op right left left.reread = .binary left' op' right' ↔
      left.opensWithNot = false ∧ left.reread = left' ∧ op = op' ∧ right = right' := by
  cases hleft : left.opensWithNot with
  | false => rw [extended_eq_binary hleft]; simp
  | true => simp [extended_ne_binary hleft]

-- A basic expression is read as it was written exactly when all of its operations are.
theorem reread_eq_iff {e : Expr} (h : e.Basic) : e.reread = e ↔ e.Everywhere KeepsGrouping := by
  induction h with
  | reference table column => simp [reread, Everywhere, KeepsGrouping]
  | value v => simp [reread, Everywhere, KeepsGrouping]
  | not _ ih => simp [reread, Everywhere, KeepsGrouping, ih]
  | negate _ _ ih => simp [reread, Everywhere, KeepsGrouping, ih]
  | @binary left right op _ _ ihl ihr =>
    rw [Everywhere, ← ihl, ← ihr, KeepsGrouping]
    by_cases hop : op.isLogical = true
    · rw [reread_binary_of_isLogical hop]
      simp [hop]
    · have hop' : op.isLogical = false := Bool.not_eq_true _ ▸ hop
      by_cases hright : ∀ e, op = .is → right ≠ .unary .not e
      · rw [reread_binary hop' hright, extended_eq_iff]
        constructor
        · rintro ⟨hnot, hl, -, hr⟩
          exact ⟨.inr ⟨hnot, hright⟩, hl, hr⟩
        · rintro ⟨hkeeps, hl, hr⟩
          exact ⟨(hkeeps.resolve_left hop).1, hl, rfl, hr⟩
      · -- After `IS`, the `NOT` is taken for a part of the operator.
        simp only [not_forall, not_not] at hright
        obtain ⟨e, rfl, rfl⟩ := hright
        rw [reread_is_not, extended_eq_iff]
        simp [hop']

end Expr

/-! ## Stacks -/

section Stack

variable (p : Precedence)

theorem Precedence.not_lt_rank {op : BinaryOp} (hop : op.isLogical = false) :
    p.not < p.rank op := by
  by_cases h : op.isComparison = true
  · exact p.not_lt_comparison op h
  · have hnot := p.not_lt_comparison .eq rfl
    have hcomparison := p.comparison_lt_arithmetic .eq op rfl
    have harithmetic : op.isArithmetic = true := by
      cases op <;> first | rfl | exact absurd rfl h | exact Bool.noConfusion hop
    exact hnot.trans (hcomparison harithmetic)

theorem Precedence.rank_lt_minus {op : BinaryOp} (hop : op.isLogical = false) :
    p.rank op < p.minus := by
  by_cases h : op.isArithmetic = true
  · exact p.arithmetic_lt_minus op h
  · have hcomparison : op.isComparison = true := by
      cases op <;> first | rfl | exact absurd rfl h | exact Bool.noConfusion hop
    have hadd := p.comparison_lt_arithmetic op .add hcomparison rfl
    exact hadd.trans (p.arithmetic_lt_minus .add rfl)

theorem Precedence.rank_lt_not {op : BinaryOp} (hop : op.isLogical = true) :
    p.rank op < p.not := by
  cases op with
  | and => exact p.and_lt_not
  | or => exact p.or_lt_and.trans p.and_lt_not
  | _ => exact Bool.noConfusion hop

variable {p}

theorem close_of_le {k : Nat} {f : Frame} (h : k ≤ f.rank p) (frames : List Frame) (e : Expr) :
    close p k (f :: frames) e = close p k frames (f.apply e) :=
  if_pos h

theorem close_of_lt {k : Nat} {f : Frame} (h : f.rank p < k) (frames : List Frame) (e : Expr) :
    close p k (f :: frames) e = (f :: frames, e) :=
  if_neg h.not_ge

namespace Expr

/-- The operators that wait once those in front of an operand are read, after others. -/
def waiting : Expr → List Frame → List Frame
  | .unary .not e, frames => e.waiting (.not :: frames)
  | .unary .negate e, frames => e.waiting (.minus :: frames)
  | _, frames => frames

/-- What is read of an operand after the operators in front of it. -/
def core : Expr → Expr
  | .unary .not e => e.core
  | .unary .negate e => e.core
  | e => e.reread

variable {e left : Expr} {frames : List Frame} {k : Nat}

-- Closing gives an operand back with the operators in front of it, unless it stops at a `NOT`.
theorem close_waiting (h : e.Basic) (hminus : k ≤ p.minus)
    (hnot : k ≤ p.not ∨ e.opensWithNot = false) :
    close p k (e.waiting frames) e.core = close p k frames e.reread := by
  induction h generalizing frames with
  | reference table column => rfl
  | value v => rfl
  | @not e he ih =>
    have hk : k ≤ p.not := hnot.resolve_right fun h => Bool.noConfusion h
    show close p k (e.waiting (.not :: frames)) e.core = _
    rw [ih (.inl hk), close_of_le hk, reread]
    rfl
  | @negate e he _ ih =>
    show close p k (e.waiting (.minus :: frames)) e.core = _
    rw [ih hnot, close_of_le hminus, reread]
    rfl
  | binary op => rfl

variable {op : BinaryOp}

/-- Whether a binary operator stops at the waiting operators. -/
def Stops (p : Precedence) (op : BinaryOp) (frames : List Frame) : Prop :=
  ∀ e, close p (p.rank op) frames e = (frames, e)

theorem pushOp_of_stops (h : Stops p op frames) (e : Expr) :
    pushOp p op frames e = .binary e op :: frames := by
  rw [pushOp, h]

-- A binary operator takes the operand before it, up to a `NOT` in front of the operand.
theorem close_pushOp (h : left.Basic) (hop : op.isLogical = false) (hk : k ≤ p.not) (right : Expr)
    (hframes : left.opensWithNot = true ∨ Stops p op frames) :
    close p k (pushOp p op (left.waiting frames) left.core) right =
      close p k frames (extended op right left left.reread) := by
  have hrank : p.not < p.rank op := p.not_lt_rank hop
  have hminus : p.rank op < p.minus := p.rank_lt_minus hop
  have hbinary : ∀ {frames : List Frame} {e : Expr}, Stops p op frames →
      close p k (pushOp p op frames e) right = close p k frames (.binary e op right) := by
    intro frames e hstops
    have hle : k ≤ (Frame.binary e op).rank p := hk.trans hrank.le
    rw [pushOp_of_stops hstops, close_of_le hle]
    rfl
  induction h generalizing frames with
  | reference table column => exact hbinary (hframes.resolve_left nofun)
  | value v => exact hbinary (hframes.resolve_left nofun)
  | binary op' => exact hbinary (hframes.resolve_left nofun)
  | @not e he ih =>
    have hstops : Stops p op (.not :: frames) := close_of_lt hrank frames
    show close p k (pushOp p op (e.waiting (.not :: frames)) e.core) right = _
    rw [ih (.inr hstops), close_of_le hk, extended_unary rfl]
    rfl
  | @negate e he hne ih =>
    have hle : k ≤ p.minus := hk.trans (hrank.trans hminus).le
    cases hnot : e.opensWithNot with
    | true =>
      have hopens : (unary .negate e).opensWithNot = true := hnot
      show close p k (pushOp p op (e.waiting (.minus :: frames)) e.core) right = _
      rw [ih (.inl hnot), close_of_le hle, extended_unary hopens]
      rfl
    | false =>
      -- The minus signs bind more tightly than the operator.
      have hopens : (unary .negate e).opensWithNot = false := hnot
      have hstops : Stops p op frames := hframes.resolve_left (by rw [hopens]; decide)
      have hclose : close p (p.rank op) ((unary .negate e).waiting frames) (unary .negate e).core =
          (frames, (unary .negate e).reread) := by
        rw [close_waiting (.negate he hne) hminus.le (.inr hopens), hstops]
      rw [pushOp, hclose, ← pushOp_of_stops hstops, hbinary hstops, extended_eq_binary hopens]

end Expr

end Stack

/-! ## Items -/

/-- Items that begin as an operand does. -/
inductive Opens : List Item → Prop
  | operand (e : Expr) (rest : List Item) : Opens (.operand e :: rest)
  | column (table : Option Table) (name : String) (rest : List Item) :
    Opens (.column table name :: rest)
  | not (rest : List Item) : Opens (.not :: rest)
  | minus (rest : List Item) : Opens (.op .sub :: rest)

theorem Item.before_op {op : BinaryOp} {items : List Item} (h : Opens items)
    (hnot : ∀ rest, op = .is → items ≠ .not :: rest) :
    (Item.op op).before items = .op op :: items := by
  cases h with
  | not rest =>
    cases op with
    | is => exact absurd rfl (hnot rest rfl)
    | _ => rfl
  | _ => cases op <;> rfl

namespace Expr

/-- The items of an operand, which are those of the expression unless it is put in parentheses. -/
def operandBefore (e : Expr) (own items : List Item) : List Item :=
  if e.isBareOperation then .operand e.reread :: items else own

/-- The items of a basic expression, before others. -/
def itemsBefore : Expr → List Item → List Item
  | .reference table column, items => .column table column :: items
  | .value v, items => .operand (.value v) :: items
  | .unary .negate e, items => .op .sub :: operandBefore e (e.itemsBefore items) items
  | .unary _ e, items => .not :: operandBefore e (e.itemsBefore items) items
  | .binary left op right, items =>
    if op.isLogical then .operand (binary left op right).reread :: items
    else
      let following := (Item.op op).before (operandBefore right (right.itemsBefore items) items)
      operandBefore left (left.itemsBefore following) following
  | _, items => items

section Items

variable {p : Precedence} {e left right : Expr} {op : BinaryOp} {own items : List Item}

theorem opens_operandBefore (h : Opens own) : Opens (operandBefore e own items) := by
  unfold operandBefore
  split
  · exact .operand _ _
  · exact h

theorem opens_itemsBefore (h : e.Basic) (items : List Item) : Opens (e.itemsBefore items) := by
  induction h generalizing items with
  | reference table column => exact .column table column items
  | value v => exact .operand _ items
  | not _ _ => exact .not _
  | negate _ _ _ => exact .minus _
  | binary op _ _ ihl ihr =>
    rw [itemsBefore]
    split
    · exact .operand _ items
    · exact opens_operandBefore (ihl _)

-- Only a `NOT` begins with the item of a `NOT`.
theorem eq_not_of_operandBefore (h : e.Basic) {rest : List Item}
    (hitems : operandBefore e (e.itemsBefore items) items = .not :: rest) :
    ∃ x, e = .unary .not x := by
  cases h with
  | not _ => exact ⟨_, rfl⟩
  | @binary left right op _ _ =>
    unfold operandBefore isBareOperation at hitems
    cases hop : op.isLogical <;> simp [hop, itemsBefore] at hitems
  | _ => exact nomatch hitems

-- A binary operator before its right side, and what both are read as after a left side.
theorem exists_right (hop : op.isLogical = false) (hright : right.Basic) (left : Expr) :
    ∃ op' right', op'.isLogical = false ∧ right'.Basic ∧
      (binary left op right).reread = extended op' right'.reread left left.reread ∧
      ∀ items, (Item.op op).before (operandBefore right (right.itemsBefore items) items) =
        .op op' :: operandBefore right' (right'.itemsBefore items) items := by
  by_cases hnot : ∀ e, op = .is → right ≠ .unary .not e
  · refine ⟨op, right, hop, hright, reread_binary hop hnot, fun items => ?_⟩
    apply Item.before_op (opens_operandBefore (opens_itemsBefore hright items))
    intro rest his hitems
    obtain ⟨x, hx⟩ := eq_not_of_operandBefore hright hitems
    exact hnot x his hx
  · simp only [not_forall, not_not] at hnot
    obtain ⟨e, rfl, rfl⟩ := hnot
    cases hright with
    | not he => exact ⟨.isNot, e, rfl, he, reread_is_not left e, fun items => rfl⟩

theorem run_operandBefore (h : e.Basic) (frames : List Frame) (items : List Item) :
    Stack.run p ⟨frames, none⟩ (operandBefore e (e.itemsBefore items) items) =
      Stack.run p ⟨e.waiting frames, some e.core⟩ items := by
  induction h generalizing frames with
  | reference table column => rfl
  | value v => rfl
  | not _ ih => exact ih (.not :: frames)
  | negate _ _ ih => exact ih (.minus :: frames)
  | @binary left right op _ _ _ _ =>
    have hoperand : operandBefore (binary left op right)
        ((binary left op right).itemsBefore items) items =
          .operand (binary left op right).reread :: items := by
      unfold operandBefore isBareOperation
      cases hop : op.isLogical <;> simp [hop, itemsBefore]
    rw [hoperand]
    rfl

-- After the items of an expression, closing gives what the expression is read as.
theorem run_itemsBefore (h : e.Basic) {frames : List Frame}
    (hstops : ∀ op, op.isLogical = false → Stops p op frames) :
    ∃ frames' last,
      (∀ items, Stack.run p ⟨frames, none⟩ (e.itemsBefore items) =
        Stack.run p ⟨frames', some last⟩ items) ∧
      ∀ k ≤ p.not, close p k frames' last = close p k frames e.reread := by
  have heq : BinaryOp.eq.isLogical = false := rfl
  have hminus : p.not ≤ p.minus := ((p.not_lt_rank heq).trans (p.rank_lt_minus heq)).le
  cases hbare : e.isBareOperation with
  | false =>
    refine ⟨e.waiting frames, e.core, fun items => ?_, fun k hk => ?_⟩
    · rw [← run_operandBefore h, operandBefore, hbare]
      rfl
    · exact close_waiting h (hk.trans hminus) (.inl hk)
  | true =>
    cases h with
    | @binary left right op hleft hright =>
      have hop : op.isLogical = false := by simpa [isBareOperation] using hbare
      obtain ⟨op', right', hop', hright', hreread, hbefore⟩ := exists_right hop hright left
      refine ⟨right'.waiting (pushOp p op' (left.waiting frames) left.core), right'.core,
        fun items => ?_, fun k hk => ?_⟩
      · rw [itemsBefore, hop]
        show Stack.run p ⟨frames, none⟩ (operandBefore left _ _) = _
        rw [run_operandBefore hleft, hbefore, ← run_operandBefore hright']
        rfl
      · rw [close_waiting hright' (hk.trans hminus) (.inl hk),
          close_pushOp hleft hop' hk _ (.inr (hstops op' hop')), hreread]
    | _ => exact Bool.noConfusion hbare

theorem tree?_itemsBefore (p : Precedence) (h : e.Basic) :
    Item.tree? p (e.itemsBefore []) = some e.reread := by
  have hempty : ∀ op, op.isLogical = false → Stops p op [] := fun _ _ _ => rfl
  obtain ⟨frames, last, hrun, hclose⟩ := run_itemsBefore h hempty
  have hread : (close p 0 frames last).2 = e.reread := by
    rw [hclose 0 (Nat.zero_le _)]
    rfl
  rw [Item.tree?, hrun]
  exact congrArg some hread

-- A conjunction or disjunction, inside its parentheses.
theorem tree?_logical (p : Precedence) (hleft : left.Basic) (hright : right.Basic)
    (hop : op.isLogical = true) :
    Item.tree? p (left.itemsBefore (.op op :: right.itemsBefore [])) =
      some (.binary left.reread op right.reread) := by
  have hempty : ∀ op, op.isLogical = false → Stops p op [] := fun _ _ _ => rfl
  obtain ⟨frames, last, hrun, hclose⟩ := run_itemsBefore hleft hempty
  have hrank : p.rank op ≤ p.not := (p.rank_lt_not hop).le
  have hpush : pushOp p op frames last = [.binary left.reread op] := by
    rw [pushOp, hclose _ hrank]
    rfl
  have hstops : ∀ op', op'.isLogical = false → Stops p op' [.binary left.reread op] :=
    fun op' hop' => close_of_lt ((p.rank_lt_not hop).trans (p.not_lt_rank hop')) []
  obtain ⟨frames', last', hrun', hclose'⟩ := run_itemsBefore hright hstops
  have hread : (close p 0 frames' last').2 = .binary left.reread op right.reread := by
    rw [hclose' 0 (Nat.zero_le _)]
    rfl
  rw [Item.tree?, hrun]
  show (Stack.run p ⟨pushOp p op frames last, none⟩ (right.itemsBefore [])).bind _ = _
  rw [hpush, hrun']
  exact congrArg some hread

end Items

end Expr

end SqlWeave
