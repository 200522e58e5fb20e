import SqlWeave.Builder.Select
import SqlWeave.Builder.Update
import SqlWeave.Proofs.Narrowing

/-!
# What the calls of a builder do to its condition

Selects, updates and deletes are narrowed by calls that stand anywhere among the others.  Whatever
else a builder is asked for, these calls add up to one condition, in their order, and the compiled
statement has it at a place that depends on the other calls only.
-/

namespace SqlWeave

open SqlWeave.Symbol (ofString)

/-! ## Calls that narrow -/

def SelectEdit.predicate? : SelectEdit → Option Expr
  | .filter call => some call.predicate
  | _ => none

def UpdateEdit.predicate? : UpdateEdit → Option Expr
  | .filter call => some call.predicate
  | _ => none

def DeleteEdit.predicate? : DeleteEdit → Option Expr
  | .filter call => some call.predicate
  | _ => none

namespace Query

/-- The condition of a statement. -/
def filter : Query → Option Expr
  | .select s => s.filter
  | .insert _ => none
  | .update u => u.filter
  | .delete d => d.filter

/-- The statement with another condition; inserts have none. -/
def withFilter (q : Query) (f : Option Expr) : Query :=
  match q with
  | .select s => .select { s with filter := f }
  | .insert i => .insert i
  | .update u => .update { u with filter := f }
  | .delete d => .delete { d with filter := f }

end Query

/-- A statement that is narrowed, from its start on: the calls that were made to build it. -/
inductive Building where
  | select (sources : List Source) (calls : List SelectEdit)
  | update (table : Table) (calls : List UpdateEdit)
  | delete (table : Table) (calls : List DeleteEdit)

namespace Building

/-- The statement that was built. -/
def query : Building → Query
  | .select sources calls => .select ((Select.ofSources sources).run calls)
  | .update table calls => .update ((Update.ofTable table).run calls)
  | .delete table calls => .delete ((Delete.ofTable table).run calls)

/-- The predicates of the calls that narrow, in order. -/
def predicates : Building → List Expr
  | .select _ calls => calls.filterMap SelectEdit.predicate?
  | .update _ calls => calls.filterMap UpdateEdit.predicate?
  | .delete _ calls => calls.filterMap DeleteEdit.predicate?

/-- The statement that the other calls build. -/
def bare : Building → Query
  | .select sources calls =>
    .select ((Select.ofSources sources).run (calls.filter (·.predicate?.isNone)))
  | .update table calls =>
    .update ((Update.ofTable table).run (calls.filter (·.predicate?.isNone)))
  | .delete table calls =>
    .delete ((Delete.ofTable table).run (calls.filter (·.predicate?.isNone)))

end Building

section Calls

variable {σ ε : Type} (step : σ → ε → σ) (withFilter : σ → Option Expr → σ)
  (predicate? : ε → Option Expr)

-- Calls that narrow and calls that do not leave each other alone.
theorem foldl_withFilter
    (hsome : ∀ s f e p, predicate? e = some p →
      step (withFilter s f) e = withFilter s (conjoin f p))
    (hnone : ∀ s f e, predicate? e = none → step (withFilter s f) e = withFilter (step s e) f)
    (s : σ) (f : Option Expr) (calls : List ε) :
    calls.foldl step (withFilter s f) =
      withFilter ((calls.filter fun e => (predicate? e).isNone).foldl step s)
        ((calls.filterMap predicate?).foldl conjoin f) := by
  induction calls generalizing s f with
  | nil => rfl
  | cons e rest ih =>
    rw [List.foldl_cons]
    cases he : predicate? e with
    | some p =>
      rw [hsome s f e p he, ih, List.filterMap_cons_some he, List.foldl_cons,
        List.filter_cons_of_neg (by simp [he])]
    | none =>
      rw [hnone s f e he, ih, List.filterMap_cons_none he, List.filter_cons_of_pos (by simp [he]),
        List.foldl_cons]

end Calls

namespace Building

-- A statement is what the other calls build, with the conjunction of the predicates.
theorem query_eq (b : Building) :
    b.query = b.bare.withFilter (b.predicates.foldl conjoin none) := by
  cases b with
  | select sources calls =>
    have hsome : ∀ (s : Select) f e p, SelectEdit.predicate? e = some p →
        Select.edit { s with filter := f } e = { s with filter := conjoin f p } := by
      intro s f e p hp
      cases e <;> cases hp
      rfl
    have hnone : ∀ (s : Select) f e, SelectEdit.predicate? e = none →
        Select.edit { s with filter := f } e = { s.edit e with filter := f } := by
      intro s f e he
      cases e <;> first | rfl | exact nomatch he
    exact congrArg Query.select (foldl_withFilter Select.edit (fun s f => { s with filter := f })
      SelectEdit.predicate? hsome hnone (Select.ofSources sources) none calls)
  | update table calls =>
    have hsome : ∀ (u : Update) f e p, UpdateEdit.predicate? e = some p →
        (Update.edit { u with filter := f } e).toOption.getD { u with filter := f } =
          { u with filter := conjoin f p } := by
      intro u f e p hp
      cases e <;> cases hp
      rfl
    have hnone : ∀ (u : Update) f e, UpdateEdit.predicate? e = none →
        (Update.edit { u with filter := f } e).toOption.getD { u with filter := f } =
          { (u.edit e).toOption.getD u with filter := f } := by
      intro u f e he
      cases e with
      | set updates =>
        -- A call that is to set nothing fails, whatever the condition.
        rw [Update.edit, Update.edit]
        cases updates.updates <;> rfl
      | filter call => exact nomatch he
      | returning call => rfl
      | explain request => rfl
    exact congrArg Query.update (foldl_withFilter (fun u e => (Update.edit u e).toOption.getD u)
      (fun u f => { u with filter := f }) UpdateEdit.predicate? hsome hnone (Update.ofTable table)
      none calls)
  | delete table calls =>
    have hsome : ∀ (d : Delete) f e p, DeleteEdit.predicate? e = some p →
        Delete.edit { d with filter := f } e = { d with filter := conjoin f p } := by
      intro d f e p hp
      cases e <;> cases hp
      rfl
    have hnone : ∀ (d : Delete) f e, DeleteEdit.predicate? e = none →
        Delete.edit { d with filter := f } e = { d.edit e with filter := f } := by
      intro d f e he
      cases e <;> first | rfl | exact nomatch he
    exact congrArg Query.delete (foldl_withFilter Delete.edit (fun d f => { d with filter := f })
      DeleteEdit.predicate? hsome hnone (Delete.ofTable table) none calls)

theorem filter_query (b : Building) : b.query.filter = b.predicates.foldl conjoin none := by
  rw [query_eq]
  cases b <;> rfl

end Building

/-! ## The place of the condition -/

variable {d : Dialect}

/-- The clause with the condition. -/
def whereSymbols (d : Dialect) : Option Expr → List Symbol
  | some e => ofString " WHERE " ++ e.symbols d
  | none => []

theorem flatMap_symbols_clause (f : Option Expr) :
    (Expr.clause [.text " WHERE "] f).flatMap (Piece.symbols d) = whereSymbols d f := by
  cases f <;> rfl

namespace Query

theorem explain_withFilter (q : Query) (f : Option Expr) :
    (q.withFilter f).explain = q.explain := by
  cases q <;> rfl

-- A request to explain a statement comes before it and does not depend on its condition.
theorem exists_compile {q : Query}
    (h : ∃ front back, ∀ f,
      (q.withFilter f).pieces = front ++ (Expr.clause [.text " WHERE "] f ++ back)) :
    ∃ front back, ∀ f sql, (q.withFilter f).compile d = .ok sql →
      sql = Sql.ofSymbols d (front ++ whereSymbols d f ++ back) := by
  obtain ⟨front, back, hpieces⟩ := h
  have hroot : ∃ opening : List Piece, ∀ f, (q.withFilter f).rootPieces =
      opening ++ (Expr.clause [.text " WHERE "] f ++ back) := by
    cases hq : q.explain with
    | none =>
      refine ⟨front, fun f => ?_⟩
      rw [Query.rootPieces, explain_withFilter, hq]
      exact hpieces f
    | some x =>
      refine ⟨x.pieces ++ front, fun f => ?_⟩
      rw [Query.rootPieces, explain_withFilter, hq, List.append_assoc, ← hpieces f]
  obtain ⟨opening, hroot⟩ := hroot
  refine ⟨opening.flatMap (Piece.symbols d), back.flatMap (Piece.symbols d), fun f sql h => ?_⟩
  rw [eq_ofSymbols_of_compile h, Query.symbols, hroot, List.flatMap_append, List.flatMap_append,
    flatMap_symbols_clause, List.append_assoc]

-- An update that sets nothing is not compiled.
theorem compile_of_no_updates {u : Update} (hu : u.updates = []) (sql : Sql) :
    (Query.update u).compile d ≠ .ok sql := by
  intro h
  have hmem : Piece.refuse (.noUpdates u.table.name) ∈ (Query.update u).pieces := by
    rw [Query.pieces, Update.pieces, hu]
    exact List.mem_cons_of_mem _ List.mem_cons_self
  apply not_refused_of_compile h (.noUpdates u.table.name)
  unfold Query.rootPieces
  split
  · exact List.mem_append_right _ hmem
  · exact hmem

end Query

-- The condition of a statement is written at a place that does not depend on it.
theorem Building.exists_compile (b : Building) : ∃ front back, ∀ f sql,
    (b.bare.withFilter f).compile d = .ok sql →
      sql = Sql.ofSymbols d (front ++ whereSymbols d f ++ back) := by
  cases b with
  | select sources calls =>
    rw [Building.bare]
    obtain ⟨sources, selections, distinct, joins, filter, groupBy, having, orderBy, limit, offset,
      explain⟩ := (Select.ofSources sources).run (calls.filter (·.predicate?.isNone))
    apply Query.exists_compile
    refine ⟨.require .select :: .text "SELECT " ::
        (if distinct then [.text "DISTINCT "] else []) ++
        (if selections.isEmpty then [.text "*"]
          else Piece.separated ", " (Expr.piecesOfList selections)) ++
        listClause " FROM " (Source.piecesOfList sources) ++
        Join.piecesOfList joins,
      listClause " GROUP BY " (Expr.piecesOfList groupBy) ++
        Expr.clause [.text " HAVING "] having ++
        listClause " ORDER BY " (OrderItem.piecesOfList orderBy) ++
        Expr.clause [.require .limit, .text " LIMIT "] limit ++
        Expr.clause [.require .offset, .text " OFFSET "] offset, fun f => ?_⟩
    simp only [Query.withFilter, Query.pieces, Select.pieces, List.append_assoc, List.cons_append]
  | update table calls =>
    rw [Building.bare]
    generalize (Update.ofTable table).run (calls.filter (·.predicate?.isNone)) = u
    by_cases hu : u.updates = []
    · refine ⟨[], [], fun f sql h => ?_⟩
      have hupdates : ({ u with filter := f } : Update).updates = [] := hu
      exact absurd h (Query.compile_of_no_updates hupdates sql)
    · have hne : u.updates.isEmpty = false := List.isEmpty_eq_false_iff.mpr hu
      apply Query.exists_compile
      refine ⟨.require .update :: .text "UPDATE " :: u.table.pieces ++ .text " SET " ::
        updateList u.updates, returningClause u.returning, fun f => ?_⟩
      simp [Query.withFilter, Query.pieces, Update.pieces, hne]
  | delete table calls =>
    rw [Building.bare]
    generalize (Delete.ofTable table).run (calls.filter (·.predicate?.isNone)) = t
    apply Query.exists_compile
    refine ⟨.require .delete :: .text "DELETE FROM " :: t.source.pieces,
      returningClause t.returning, fun f => ?_⟩
    simp [Query.withFilter, Query.pieces, Delete.pieces]

/-! ## Main statements -/

-- A column that is given by its shorthand brings no raw SQL.
theorem Shorthand.plain_reference {Fn : String → Prop} {Neg : List Piece → Prop} (s : String) :
    (Shorthand.reference s).Everywhere (Expr.Plain Fn Neg) := by
  have hcolumn : ∀ table name,
      (Shorthand.column table name).Everywhere (Expr.Plain Fn Neg) := by
    intro table name
    unfold Shorthand.column
    split <;> simp [Expr.Everywhere, Expr.Plain]
  unfold Shorthand.reference Shorthand.referenceOfChars
  split
  · exact hcolumn _ _
  · exact hcolumn _ _

-- The statements that are narrowed by given predicates in any way that is possible.
theorem Building.exists_of_predicates (ps : List Expr) : ∃ b : Building, b.predicates = ps := by
  refine ⟨.delete ⟨none, "t"⟩ (ps.map fun p => .filter (.expr p)), ?_⟩
  rw [Building.predicates, List.filterMap_map]
  exact List.filterMap_some

/-- Predicates narrow a statement, whatever else it is asked for, exactly when each `AND` between
them reaches what it has to.  The predicates for which this never fails are those that stand firm or
are never true, and every predicate without raw SQL stands firm. -/
theorem where_calls_narrow (hd : d ∈ Dialect.builtIn) :
    (∀ b : Building, b.query = b.bare.withFilter b.query.filter ∧
      ∃ front back, ∀ f sql, (b.bare.withFilter f).compile d = .ok sql →
        sql = Sql.ofSymbols d (front ++ whereSymbols d f ++ back)) ∧
    (∀ b : Building, (∀ p ∈ b.predicates, ∃ nodes, p.Stands d nodes) →
      (Narrows d b.query.filter b.predicates ↔
        ∀ ρ, Guarded d ρ true b.predicates ∧ FirstGuarded d ρ b.predicates)) ∧
    (∀ S : Expr → Prop,
      (∀ b : Building, (∀ p ∈ b.predicates, S p ∨ p.Firm d) →
        Narrows d b.query.filter b.predicates) ↔
      ∀ p, S p → p.Firm d ∨ p.NeverTrue d) ∧
    ∀ p : Expr, p.Everywhere (Expr.Plain ReadsAs.PlainName (ReadsAs.NoMinus d)) → p.Firm d := by
  refine ⟨fun b => ⟨?_, b.exists_compile⟩, fun b hp => ?_, fun S => ⟨fun h p hp => ?_, ?_⟩,
    fun p hp => Expr.firm_of_plain hd hp⟩
  · rw [b.filter_query]
    exact b.query_eq
  · rw [b.filter_query]
    exact Expr.narrows_iff hp
  · have hnarrows : ∀ ps : List Expr, (∀ q ∈ ps, S q ∨ q.Firm d) →
        Narrows d (ps.foldl conjoin none) ps := by
      intro ps hps
      obtain ⟨b, rfl⟩ := Building.exists_of_predicates ps
      rw [← b.filter_query]
      exact h b hps
    have hc : S Expr.contradiction ∨ Expr.contradiction.Firm d := .inr Expr.firm_contradiction
    apply Expr.firm_or_neverTrue_of_narrows
    · exact hnarrows [p] (List.forall_mem_singleton.mpr (.inl hp))
    · exact hnarrows [p, Expr.contradiction]
        (List.forall_mem_cons.mpr ⟨.inl hp, List.forall_mem_singleton.mpr hc⟩)
    · exact hnarrows [Expr.contradiction, p]
        (List.forall_mem_cons.mpr ⟨hc, List.forall_mem_singleton.mpr (.inl hp)⟩)
  · intro h b hps
    rw [b.filter_query]
    refine Expr.narrows_of_firm_or_neverTrue fun p hp => ?_
    rcases hps p hp with hS | hfirm
    · exact h p hS
    · exact .inl hfirm

theorem where_calls_narrow_delete :
    let b : Building := .delete (.ofName "person")
      [.filter (.expr (.or (.value (.bool true)) (.unary .not (.reference none "a")))),
        .filter (.compare "id" .eq (.value (.int 1)))]
    Narrows .postgres b.query.filter b.predicates := by
  intro b
  have hbuiltIn : Dialect.postgres ∈ Dialect.builtIn := List.mem_cons_self
  obtain ⟨-, -, hexact, hfirm⟩ := where_calls_narrow hbuiltIn
  refine (hexact fun _ => False).mpr (fun _ h => h.elim) b fun p hp => .inr (hfirm p ?_)
  revert p
  simp [b, Building.predicates, DeleteEdit.predicate?, Narrowing.predicate, Predicate.compare,
    Expr.or, Expr.Everywhere, Expr.Plain, Shorthand.plain_reference]

-- A raw disjunction takes the rows of its first side past every other predicate.
theorem raw_disjunction_widens :
    let b : Building := .delete (.ofName "person")
      [.filter (.expr (.raw ["a OR b"] [])), .filter (.equal "id" (.value (.int 1)))]
    (b.query.compile .postgres).map Sql.text =
        .ok "DELETE FROM \"person\" WHERE (a OR b AND \"id\" = $1)" ∧
      ¬Narrows .postgres b.query.filter b.predicates := by
  intro b
  refine ⟨rfl, fun h => ?_⟩
  -- The first side of the raw text is true, and nothing else is.
  have htrue : some true = some false := h fun nodes => nodes.any (·.isKeyword "A")
  simp at htrue

end SqlWeave
