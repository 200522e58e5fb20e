import SqlWeave.Proofs.Reading

/-!
# The truth of a condition

A condition is read with the precedence of SQL: parentheses bind tightest, then comparisons, then
`NOT`, `AND` and `OR`.  What is left between them is an atomic condition, whose truth is given.  The
`AND` that belongs to a `BETWEEN` joins nothing.
-/

namespace SqlWeave.Reading

/-- Whether nodes are a statement rather than a condition. -/
def isStatement : List Node → Bool
  | n :: _ => ["SELECT", "VALUES", "TABLE", "WITH"].any n.isKeyword
  | [] => false

def isOr (n : Node) : Bool := n.isKeyword "OR"

/-- Whether a `BETWEEN` waits for its `AND` after the node, given whether one did before it. -/
def Node.waits (waiting : Bool) (n : Node) : Bool :=
  if n.isKeyword "AND" then false else waiting || n.isKeyword "BETWEEN"

/-- Whether the node joins what stands before and after it. -/
def Node.joins (waiting : Bool) (n : Node) : Bool := n.isKeyword "AND" && !waiting

/-- Whether no `BETWEEN` is left without its `AND`, neither at an `OR` nor at the end. -/
def isSettled : Bool → List Node → Bool
  | waiting, [] => !waiting
  | waiting, n :: rest =>
    if isOr n then !waiting && isSettled false rest else isSettled (n.waits waiting) rest

/-! ## Definition -/

/-- The parts of a list between the nodes that join. -/
def conjuncts : Bool → List (Node × Bool) → List (List (Node × Bool))
  | _, [] => [[]]
  | waiting, x :: rest =>
    if x.1.joins waiting then [] :: conjuncts false rest
    else (conjuncts (x.1.waits waiting) rest).modifyHead (x :: ·)

variable (ρ : List Node → Bool)

/-- The truth of nodes without `AND` and `OR`, each given with its truth when it stands alone. -/
def clause : List (Node × Bool) → Bool
  | [] => ρ []
  | (n, b) :: rest =>
    if n.isKeyword "NOT" then !clause rest
    else if rest.isEmpty then b
    else ρ (n :: rest.map Prod.fst)

/-- The truth of nodes, each given with its truth when it stands alone. -/
def verdict (nodes : List (Node × Bool)) : Bool :=
  (nodes.splitOnP fun x => isOr x.1).any fun part => (conjuncts false part).all (clause ρ)

mutual

/-- The truth of a node that stands alone. -/
def Node.truth : Node → Bool
  | .group .round inner =>
    if isStatement inner then ρ [.group .round inner] else verdict ρ (Node.truths inner)
  | n => ρ [n]

def Node.truths : List Node → List (Node × Bool)
  | [] => []
  | n :: rest => (n, n.truth) :: Node.truths rest

end

/-- The truth of a condition, when `ρ` gives the truth of atomic conditions. -/
def holds (nodes : List Node) : Bool := verdict ρ (Node.truths ρ nodes)

/-! ## Laws -/

variable {ρ}

-- A node is one keyword at most.
theorem Node.isKeyword_of_ne {n : Node} {keyword other : String} (h : n.isKeyword keyword = true)
    (hne : keyword.toList ≠ other.toList) : n.isKeyword other = false := by
  cases n with
  | word s =>
    have hs : s.map Char.toUpper = keyword.toList := beq_iff_eq.mp h
    show (s.map Char.toUpper == other.toList) = false
    rw [hs]
    exact beq_eq_false_iff_ne.mpr hne
  | _ => rfl

theorem truths_eq_map (nodes : List Node) :
    Node.truths ρ nodes = nodes.map fun n => (n, n.truth ρ) := by
  induction nodes with
  | nil => rfl
  | cons n rest ih => rw [Node.truths, ih, List.map_cons]

theorem conjuncts_ne_nil (waiting : Bool) (l : List (Node × Bool)) : conjuncts waiting l ≠ [] := by
  induction l generalizing waiting with
  | nil => exact List.cons_ne_nil _ _
  | cons x rest ih =>
    rw [conjuncts]
    split
    · exact List.cons_ne_nil _ _
    · intro h
      exact ih _ (List.modifyHead_eq_nil_iff.mp h)

-- A settled list keeps its parts when more is joined to it.
theorem conjuncts_append {waiting : Bool} {a : List (Node × Bool)}
    (hor : ∀ x ∈ a, isOr x.1 = false) (ha : isSettled waiting (a.map Prod.fst) = true)
    {x : Node × Bool} (hx : x.1.isKeyword "AND" = true) (b : List (Node × Bool)) :
    conjuncts waiting (a ++ x :: b) = conjuncts waiting a ++ conjuncts false b := by
  induction a generalizing waiting with
  | nil =>
    have hwaiting : waiting = false := by
      rw [List.map_nil, isSettled, Bool.not_eq_true'] at ha
      exact ha
    have hjoins : x.1.joins waiting = true := by
      rw [Node.joins, hx, hwaiting]
      rfl
    rw [List.nil_append, conjuncts.eq_2, if_pos hjoins]
    rfl
  | cons y rest ih =>
    have hy : isOr y.1 = false := hor y List.mem_cons_self
    rw [List.map_cons, isSettled, hy] at ha
    have ha' : isSettled (y.1.waits waiting) (rest.map Prod.fst) = true := ha
    have hih := ih (fun z hz => hor z (List.mem_cons_of_mem _ hz)) ha'
    rw [List.cons_append, conjuncts, conjuncts]
    split
    · next hjoins =>
      -- The node itself ends the wait of a `BETWEEN`, or there was none.
      have hwaits : y.1.waits waiting = false := by
        rw [Node.joins, Bool.and_eq_true] at hjoins
        exact if_pos hjoins.1
      rw [hwaits] at hih
      rw [hih, List.cons_append]
    · obtain ⟨part, parts, hparts⟩ :=
        List.exists_cons_of_ne_nil (conjuncts_ne_nil (y.1.waits waiting) rest)
      rw [hih, hparts]
      rfl

theorem truths_append (a b : List Node) :
    Node.truths ρ (a ++ b) = Node.truths ρ a ++ Node.truths ρ b := by
  rw [truths_eq_map, truths_eq_map, truths_eq_map, List.map_append]

theorem map_fst_truths (a : List Node) : (Node.truths ρ a).map Prod.fst = a := by
  rw [truths_eq_map, List.map_map]
  exact List.map_id a

theorem verdict_of_no_or {l : List (Node × Bool)} (h : ∀ x ∈ l, isOr x.1 = false) :
    verdict ρ l = (conjuncts false l).all (clause ρ) := by
  rw [verdict, List.splitOnP_eq_singleton h, List.any_cons, List.any_nil, Bool.or_false]

-- A disjunction holds when one of its sides does.
theorem holds_or (a : List Node) {o : Node} (ho : isOr o = true) (b : List Node) :
    holds ρ (a ++ o :: b) = (holds ρ a || holds ρ b) := by
  unfold holds verdict
  rw [truths_append, Node.truths,
    List.splitOnP_append_cons (p := fun x : Node × Bool => isOr x.1) _ _ ho, List.any_append]

-- A conjunction of conditions without `OR` holds when both of its sides do.
theorem holds_and {a b : List Node} (ha : ∀ n ∈ a, isOr n = false) (hb : ∀ n ∈ b, isOr n = false)
    (hsettled : isSettled false a = true) {n : Node} (hn : n.isKeyword "AND" = true) :
    holds ρ (a ++ n :: b) = (holds ρ a && holds ρ b) := by
  have htruths : ∀ {l : List Node}, (∀ n ∈ l, isOr n = false) →
      ∀ x ∈ Node.truths ρ l, isOr x.1 = false := by
    intro l hl x hx
    rw [truths_eq_map] at hx
    obtain ⟨n, hn, rfl⟩ := List.mem_map.mp hx
    exact hl n hn
  have hor : isOr n = false := Node.isKeyword_of_ne hn (by decide)
  have hall : ∀ m ∈ a ++ n :: b, isOr m = false := by
    intro m hm
    rcases List.mem_append.mp hm with hm | hm
    · exact ha m hm
    · rcases List.mem_cons.mp hm with rfl | hm
      · exact hor
      · exact hb m hm
  unfold holds
  rw [verdict_of_no_or (htruths hall), verdict_of_no_or (htruths ha), verdict_of_no_or (htruths hb),
    truths_append, Node.truths, conjuncts_append (htruths ha) ?_ hn, List.all_append]
  rw [map_fst_truths]
  exact hsettled

-- Parentheses around a condition do not change its truth.
theorem holds_group {inner : List Node} (h : isStatement inner = false) :
    holds ρ [.group .round inner] = holds ρ inner := by
  have hor : ∀ x ∈ Node.truths ρ [.group .round inner], isOr x.1 = false := by
    intro x hx
    rw [truths_eq_map] at hx
    obtain ⟨n, hn, rfl⟩ := List.mem_map.mp hx
    rw [List.mem_singleton.mp hn]
    rfl
  unfold holds
  rw [verdict_of_no_or hor, Node.truths, Node.truths, Node.truth, h]
  exact Bool.and_true _

/-! ## Conditions next to an AND -/

theorem isSettled_of_append {waiting : Bool} {a b : List Node} {o : Node} (ho : isOr o = true)
    (h : isSettled waiting (a ++ o :: b) = true) : isSettled false b = true := by
  induction a generalizing waiting with
  | nil =>
    rw [List.nil_append, isSettled, if_pos ho, Bool.and_eq_true] at h
    exact h.2
  | cons n rest ih =>
    rw [List.cons_append, isSettled] at h
    by_cases hn : isOr n = true
    · rw [if_pos hn, Bool.and_eq_true] at h
      exact ih h.2
    · rw [if_neg hn] at h
      exact ih h

-- A list with an `OR`, cut at the first one.
theorem exists_first_or {l : List Node} (h : ¬∀ n ∈ l, isOr n = false) :
    ∃ a o b, l = a ++ o :: b ∧ isOr o = true ∧ ∀ n ∈ a, isOr n = false := by
  induction l with
  | nil => exact absurd (fun n hn => nomatch hn) h
  | cons n rest ih =>
    by_cases hn : isOr n = true
    · exact ⟨[], n, rest, rfl, hn, fun m hm => nomatch hm⟩
    · have hn' : isOr n = false := Bool.not_eq_true _ ▸ hn
      obtain ⟨a, o, b, hrest, ho, ha⟩ := ih fun hall => h (List.forall_mem_cons.mpr ⟨hn', hall⟩)
      exact ⟨n :: a, o, b, by rw [hrest, List.cons_append], ho, List.forall_mem_cons.mpr ⟨hn', ha⟩⟩

-- Every `OR` is the first one or comes after it.
theorem eq_or_of_first_or {a b x y : List Node} {o o' : Node} (ha : ∀ n ∈ a, isOr n = false)
    (ho' : isOr o' = true) (h : a ++ o :: b = x ++ o' :: y) :
    x = a ∧ y = b ∨ ∃ z, x = a ++ o :: z ∧ b = z ++ o' :: y := by
  rcases List.append_eq_append_iff.mp h with ⟨z, hx, hz⟩ | ⟨z, hx, hz⟩
  · cases z with
    | nil =>
      rw [List.nil_append, List.cons.injEq] at hz
      exact .inl ⟨by rw [hx, List.append_nil], hz.2.symm⟩
    | cons n z =>
      rw [List.cons_append, List.cons.injEq] at hz
      exact .inr ⟨z, by rw [hx, hz.1], hz.2⟩
  · cases z with
    | nil =>
      rw [List.nil_append, List.cons.injEq] at hz
      exact .inl ⟨by rw [hx, List.append_nil], hz.2⟩
    | cons n z =>
      rw [List.cons_append, List.cons.injEq] at hz
      have hmem : o' ∈ a := by
        rw [hx, hz.1]
        exact List.mem_append_right _ List.mem_cons_self
      exact absurd ho' (Bool.not_eq_true _ ▸ ha o' hmem)

variable (ρ) in
/-- What stands before an `OR` is true. -/
def TrueBeforeOr (nodes : List Node) : Prop :=
  ∃ a o b, nodes = a ++ o :: b ∧ isOr o = true ∧ holds ρ a = true

variable (ρ) in
/-- What stands after an `OR` is true. -/
def TrueAfterOr (nodes : List Node) : Prop :=
  ∃ a o b, nodes = a ++ o :: b ∧ isOr o = true ∧ holds ρ b = true

variable {a b nodes : List Node}

theorem TrueBeforeOr.holds (h : TrueBeforeOr ρ nodes) : holds ρ nodes = true := by
  obtain ⟨a, o, b, rfl, ho, ha⟩ := h
  rw [holds_or a ho, ha, Bool.true_or]

theorem TrueAfterOr.holds (h : TrueAfterOr ρ nodes) : holds ρ nodes = true := by
  obtain ⟨a, o, b, rfl, ho, hb⟩ := h
  rw [holds_or a ho, hb, Bool.or_true]

theorem trueBeforeOr_iff {o : Node} (ha : ∀ n ∈ a, isOr n = false) (ho : isOr o = true) :
    TrueBeforeOr ρ (a ++ o :: b) ↔ Reading.holds ρ a = true ∨ TrueBeforeOr ρ b := by
  constructor
  · rintro ⟨x, o', y, hxy, ho', hx⟩
    rcases eq_or_of_first_or ha ho' hxy with ⟨rfl, rfl⟩ | ⟨z, rfl, rfl⟩
    · exact .inl hx
    · rw [holds_or a ho, Bool.or_eq_true] at hx
      exact hx.imp_right fun hz => ⟨z, o', y, rfl, ho', hz⟩
  · rintro (htrue | ⟨x, o', y, rfl, ho', hx⟩)
    · exact ⟨a, o, b, rfl, ho, htrue⟩
    · refine ⟨a ++ o :: x, o', y, ?_, ho', ?_⟩
      · rw [List.append_assoc, List.cons_append]
      · rw [holds_or a ho, hx, Bool.or_true]

theorem trueAfterOr_iff {o : Node} (ha : ∀ n ∈ a, isOr n = false) (ho : isOr o = true) :
    TrueAfterOr ρ (a ++ o :: b) ↔ Reading.holds ρ b = true := by
  constructor
  · rintro ⟨x, o', y, hxy, ho', hy⟩
    rcases eq_or_of_first_or ha ho' hxy with ⟨rfl, rfl⟩ | ⟨z, rfl, rfl⟩
    · exact hy
    · rw [holds_or z ho', hy, Bool.or_true]
  · intro hb
    exact ⟨a, o, b, rfl, ho, hb⟩

theorem not_trueBeforeOr (h : ∀ n ∈ nodes, isOr n = false) : ¬TrueBeforeOr ρ nodes := by
  rintro ⟨a, o, b, rfl, ho, -⟩
  exact absurd ho (Bool.not_eq_true _ ▸ h o (by simp))

theorem not_trueAfterOr (h : ∀ n ∈ nodes, isOr n = false) : ¬TrueAfterOr ρ nodes := by
  rintro ⟨a, o, b, rfl, ho, -⟩
  exact absurd ho (Bool.not_eq_true _ ▸ h o (by simp))

-- An `AND` with nothing but conjuncts before it.
theorem holds_and_iff (ha : ∀ n ∈ a, isOr n = false) (hsettled : isSettled false a = true)
    {n : Node} (hn : n.isKeyword "AND" = true) :
    holds ρ (a ++ n :: b) = true ↔ TrueAfterOr ρ b ∨ holds ρ a = true ∧ holds ρ b = true := by
  by_cases hor : ∀ m ∈ b, isOr m = false
  · rw [holds_and ha hor hsettled hn, Bool.and_eq_true]
    exact (or_iff_right (not_trueAfterOr hor)).symm
  · obtain ⟨b₁, o, b₂, rfl, ho, hb₁⟩ := exists_first_or hor
    rw [trueAfterOr_iff hb₁ ho, ← List.cons_append, ← List.append_assoc, holds_or _ ho,
      holds_and ha hb₁ hsettled hn, holds_or _ ho, Bool.or_eq_true, Bool.and_eq_true,
      Bool.or_eq_true]
    tauto

-- What two conditions mean when nothing but an `AND` stands between them: their conjunction, or
-- what the `AND` does not reach.
theorem holds_joined_iff (hsettled : isSettled false a = true) {n : Node}
    (hn : n.isKeyword "AND" = true) :
    holds ρ (a ++ n :: b) = true ↔
      TrueBeforeOr ρ a ∨ TrueAfterOr ρ b ∨ holds ρ a = true ∧ holds ρ b = true := by
  -- The induction takes the disjuncts of the left side away, from the first one on.
  induction hlen : a.length using Nat.strongRecOn generalizing a with
  | _ len ih =>
  by_cases hor : ∀ m ∈ a, isOr m = false
  · rw [holds_and_iff hor hsettled hn]
    exact (or_iff_right (not_trueBeforeOr hor)).symm
  · obtain ⟨a₁, o, a₂, rfl, ho, ha₁⟩ := exists_first_or hor
    have hlt : a₂.length < len := by
      rw [← hlen, List.length_append, List.length_cons]
      omega
    have hrest := ih a₂.length hlt (isSettled_of_append ho hsettled) rfl
    rw [trueBeforeOr_iff ha₁ ho, List.append_assoc, List.cons_append, holds_or _ ho,
      holds_or _ ho, Bool.or_eq_true, Bool.or_eq_true, hrest]
    -- The conjunction with a first disjunct is one of the cases in which that disjunct is true.
    tauto

end SqlWeave.Reading
