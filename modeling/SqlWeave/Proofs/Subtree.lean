import SqlWeave.Proofs.Tree

/-!
# What is written of a tree

One step leads from an expression or a select to the parts that are written with it, and any number
of steps lead to whatever is written somewhere inside.  Requests to explain that stand on selects
inside a statement are not written, and neither are the rows of an insert without columns.
-/

namespace SqlWeave

/-- An expression or a select inside a statement. -/
inductive Subtree where
  | expr (e : Expr)
  | select (s : Select)

def Source.parts : Source → List Subtree
  | .table _ _ => []
  | .subquery s _ => [.select s]

/-- The parts that an expression is written with.  Parameters beyond the last fragment of raw SQL
are not among them. -/
def Expr.parts : Expr → List Subtree
  | .raw fragments params => (params.take fragments.length).map .expr
  | .binary left _ right => [.expr left, .expr right]
  | .unary _ e => [.expr e]
  | .call _ args => args.map .expr
  | .aliased e _ => [.expr e]
  | .list items => items.map .expr
  | .subquery s => [.select s]
  | .reference _ _ | .value _ | .star _ | .defaultMarker => []

/-- The parts that a select is written with, which leave out its request to explain. -/
def Select.parts (s : Select) : List Subtree :=
  s.sources.flatMap Source.parts ++ s.selections.map .expr ++
    s.joins.flatMap (fun j => j.source.parts ++ [.expr j.on]) ++ s.filter.toList.map .expr ++
    s.groupBy.map .expr ++ s.having.toList.map .expr ++
    s.orderBy.map (fun i => .expr i.expr) ++ s.limit.toList.map .expr ++ s.offset.toList.map .expr

namespace Subtree

def parts : Subtree → List Subtree
  | .expr e => e.parts
  | .select s => s.parts

/-- The second is the first, or is written somewhere inside it. -/
def Has (t u : Subtree) : Prop := Relation.ReflTransGen (fun t u => u ∈ t.parts) t u

def Everywhere (p : Expr → Prop) : Subtree → Prop
  | .expr e => e.Everywhere p
  | .select s => s.Everywhere p

end Subtree

/-- The source of an insert, if it is written: rows without columns are not. -/
def Insert.writtenSource (i : Insert) : Option InsertSource :=
  match i.source, i.writtenColumns with
  | some (.rows _), [] => none
  | source, _ => source

def Insert.written (i : Insert) : List Expr := { i with source := i.writtenSource }.exprs

/-- Nothing is written of an update that sets nothing. -/
def Update.written (u : Update) : List Expr := if u.updates.isEmpty then [] else u.exprs

/-- The parts that a statement is written with, apart from its request to explain. -/
def Query.ownParts : Query → List Subtree
  | .select s => [.select s]
  | .insert i => i.written.map .expr
  | .update u => u.written.map .expr
  | .delete d => d.exprs.map .expr

def Query.parts (q : Query) : List Subtree :=
  (q.explain.toList.flatMap fun x => x.options.toList).map .expr ++ q.ownParts

/-- The expression is written somewhere in the statement. -/
def Query.Writes (q : Query) (e : Expr) : Prop := ∃ t ∈ q.parts, t.Has (.expr e)

namespace Select

theorem forall_parts {p : Subtree → Prop} (s : Select) :
    (∀ t ∈ s.parts, p t) ↔
      (∀ x ∈ s.sources, ∀ t ∈ x.parts, p t) ∧ (∀ e ∈ s.selections, p (.expr e)) ∧
      (∀ j ∈ s.joins, (∀ t ∈ j.source.parts, p t) ∧ p (.expr j.on)) ∧
      (∀ e ∈ s.filter, p (.expr e)) ∧ (∀ e ∈ s.groupBy, p (.expr e)) ∧
      (∀ e ∈ s.having, p (.expr e)) ∧ (∀ i ∈ s.orderBy, p (.expr i.expr)) ∧
      (∀ e ∈ s.limit, p (.expr e)) ∧ ∀ e ∈ s.offset, p (.expr e) := by
  simp only [parts, List.forall_mem_append, List.forall_mem_flatMap, List.forall_mem_map,
    List.forall_mem_singleton, Option.mem_toList, Option.mem_def, and_assoc]

end Select

theorem Expr.Everywhere.self {p : Expr → Prop} {e : Expr} (h : e.Everywhere p) : p e := by
  cases e with
  | raw | binary | unary | call | aliased | list | subquery =>
    rw [Everywhere] at h
    exact h.1
  | reference | value | star | defaultMarker =>
    rw [Everywhere] at h
    exact h

namespace Subtree

variable {P : Subtree → Prop}

-- A property that passes from the parts of a tree to the tree holds everywhere.
theorem induction (h : ∀ t : Subtree, (∀ u ∈ t.parts, P u) → P t) (t : Subtree) : P t := by
  have hleaf : ∀ e : Expr, e.parts = [] → P (.expr e) := fun e he =>
    h (.expr e) fun u hu => absurd (he ▸ hu : u ∈ []) List.not_mem_nil
  have htree : Hereditary (fun e => P (.expr e)) (fun x => ∀ u ∈ x.parts, P u)
      (fun s => P (.select s)) :=
    { reference := fun table column => hleaf _ rfl
      value := fun v => hleaf _ rfl
      raw := fun fragments params hparams => h _ (List.forall_mem_map.mpr fun e he =>
        hparams e (List.mem_of_mem_take he))
      binary := fun left op right hl hr => h _ (by simp [parts, Expr.parts, hl, hr])
      unary := fun op e he => h _ (by simp [parts, Expr.parts, he])
      call := fun name args hargs => h _ (List.forall_mem_map.mpr hargs)
      aliased := fun e label he => h _ (by simp [parts, Expr.parts, he])
      list := fun items hitems => h _ (List.forall_mem_map.mpr hitems)
      subquery := fun s hs => h _ (by simp [parts, Expr.parts, hs])
      star := fun table => hleaf _ rfl
      defaultMarker := hleaf _ rfl
      table := fun t label => List.forall_mem_nil _
      derived := fun s label hs => by simp [Source.parts, hs]
      select := fun s hs => h (.select s) (s.forall_parts.mpr ⟨hs.sources, hs.selections, hs.joins,
        hs.filter, hs.groupBy, hs.having, hs.orderBy, hs.limit, hs.offset⟩) }
  cases t with
  | expr e => exact htree.expr e
  | select s => exact htree.ofSelect s

theorem everywhere_map_expr {p : Expr → Prop} {es : List Expr} (h : ∀ e ∈ es, e.Everywhere p) :
    ∀ u ∈ es.map Subtree.expr, u.Everywhere p :=
  List.forall_mem_map.mpr h

theorem everywhere_parts {p : Expr → Prop} {t : Subtree} (h : t.Everywhere p) :
    ∀ u ∈ t.parts, u.Everywhere p := by
  cases t with
  | select s =>
    have hparts := (Select.everywhere_iff s).mp h
    have hsource : ∀ x : Source, x.Everywhere p → ∀ u ∈ x.parts, u.Everywhere p := by
      intro x hx
      cases x with
      | table t label => exact List.forall_mem_nil _
      | subquery s label => exact (List.forall_mem_singleton).mpr hx
    exact s.forall_parts.mpr ⟨fun x hx => hsource x (hparts.sources x hx), hparts.selections,
      fun j hj => ⟨hsource _ (hparts.joins j hj).1, (hparts.joins j hj).2⟩, hparts.filter,
      hparts.groupBy, hparts.having, hparts.orderBy, hparts.limit, hparts.offset⟩
  | expr e =>
    cases e with
    | raw fragments params =>
      rw [Everywhere, Expr.Everywhere, Expr.everywhereList_iff] at h
      exact everywhere_map_expr fun e he => h.2 e (List.mem_of_mem_take he)
    | call name args =>
      rw [Everywhere, Expr.Everywhere, Expr.everywhereList_iff] at h
      exact everywhere_map_expr h.2
    | list items =>
      rw [Everywhere, Expr.Everywhere, Expr.everywhereList_iff] at h
      exact everywhere_map_expr h.2
    | _ =>
      simp only [Everywhere, Expr.Everywhere] at h
      simp [parts, Expr.parts, Everywhere, h]

theorem Has.everywhere {p : Expr → Prop} {t u : Subtree} (h : t.Has u) (ht : t.Everywhere p) :
    u.Everywhere p := by
  induction h with
  | refl => exact ht
  | tail _ hu ih => exact everywhere_parts ih _ hu

-- What a tree and its parts have to satisfy, one step at a time, all that is written in it has to.
theorem iff_forall_has {ok G K : Subtree → Prop} (hok : ∀ t, ok t → ∀ u ∈ t.parts, ok u)
    (h : ∀ t, ok t → (G t ↔ K t ∧ ∀ u ∈ t.parts, G u)) (t : Subtree) (ht : ok t) :
    G t ↔ ∀ u, t.Has u → K u := by
  induction t using induction with
  | h t ih =>
    rw [h t ht]
    constructor
    · rintro ⟨hK, hG⟩ u hu
      rcases hu.cases_head with rfl | ⟨v, hv, hvu⟩
      · exact hK
      · exact (ih v hv (hok t ht v hv)).mp (hG v hv) u hvu
    · intro hall
      refine ⟨hall t .refl, fun v hv => (ih v hv (hok t ht v hv)).mpr fun u hvu => ?_⟩
      exact hall u (.head hv hvu)

end Subtree

theorem Insert.mem_exprs_of_written {i : Insert} {e : Expr} (h : e ∈ i.written) :
    e ∈ i.exprs := by
  have hsource : ∀ e ∈ i.writtenSource.toList.flatMap InsertSource.exprs,
      e ∈ i.source.toList.flatMap InsertSource.exprs := by
    unfold writtenSource
    split
    · exact fun _ h => absurd h List.not_mem_nil
    · exact fun _ h => h
  simp only [written, exprs, List.mem_append] at h ⊢
  exact h.imp_left (·.imp_left (·.imp_left (hsource e)))

theorem Update.mem_exprs_of_written {u : Update} {e : Expr} (h : e ∈ u.written) :
    e ∈ u.exprs := by
  unfold written at h
  split at h
  · exact absurd h List.not_mem_nil
  · exact h

namespace Query

variable {p : Expr → Prop} {q : Query}

theorem everywhere_parts (h : q.Everywhere p) : ∀ t ∈ q.parts, t.Everywhere p := by
  obtain ⟨hexplain, hown⟩ := h
  rw [parts, List.forall_mem_append]
  refine ⟨Subtree.everywhere_map_expr ?_, ?_⟩
  · rw [List.forall_mem_flatMap]
    simpa using hexplain
  · cases q with
    | select s => exact List.forall_mem_singleton.mpr hown
    | insert i =>
      exact Subtree.everywhere_map_expr fun e he => hown e (Insert.mem_exprs_of_written he)
    | update u =>
      exact Subtree.everywhere_map_expr fun e he => hown e (Update.mem_exprs_of_written he)
    | delete d => exact Subtree.everywhere_map_expr hown

theorem Writes.everywhere {e : Expr} (hq : q.Everywhere p) (h : q.Writes e) : e.Everywhere p := by
  obtain ⟨t, ht, hhas⟩ := h
  exact hhas.everywhere (everywhere_parts hq t ht)

end Query

end SqlWeave
