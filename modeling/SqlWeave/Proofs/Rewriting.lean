import SqlWeave.Proofs.Tree
import SqlWeave.Rewrite

/-!
# Rewritings one after the other

Rewriting a tree twice is rewriting it once, and a rewriting that changes no name changes no tree.
So a chain of rewritings can be taken for a single one.
-/

namespace SqlWeave

variable (r r' : Rewrite)

/-! ## Lists and parts as maps -/

@[simp] theorem Expr.rewriteList_eq_map (es : List Expr) :
    Expr.rewriteList r es = es.map (Expr.rewrite r) := by
  induction es with
  | nil => rfl
  | cons e rest ih => exact congrArg (e.rewrite r :: ·) ih

@[simp] theorem Expr.rewriteOption_eq_map (o : Option Expr) :
    Expr.rewriteOption r o = o.map (Expr.rewrite r) := by
  cases o <;> rfl

@[simp] theorem Source.rewriteList_eq_map (xs : List Source) :
    Source.rewriteList r xs = xs.map (Source.rewrite r) := by
  induction xs with
  | nil => rfl
  | cons x rest ih => exact congrArg (x.rewrite r :: ·) ih

theorem Join.rewrite_eq (j : Join) :
    j.rewrite r = ⟨j.kind, j.source.rewrite r, j.on.rewrite r⟩ := by
  cases j
  rfl

@[simp] theorem Join.rewriteList_eq_map (js : List Join) :
    Join.rewriteList r js = js.map (Join.rewrite r) := by
  induction js with
  | nil => rfl
  | cons j rest ih => exact congrArg (j.rewrite r :: ·) ih

theorem OrderItem.rewrite_eq (i : OrderItem) : i.rewrite r = ⟨i.expr.rewrite r, i.direction⟩ := by
  cases i
  rfl

@[simp] theorem OrderItem.rewriteList_eq_map (is : List OrderItem) :
    OrderItem.rewriteList r is = is.map (OrderItem.rewrite r) := by
  induction is with
  | nil => rfl
  | cons i rest ih => exact congrArg (i.rewrite r :: ·) ih

theorem Select.rewrite_eq (s : Select) :
    s.rewrite r =
      { s with
        sources := s.sources.map (Source.rewrite r)
        selections := s.selections.map (Expr.rewrite r)
        joins := s.joins.map (Join.rewrite r)
        filter := s.filter.map (Expr.rewrite r)
        groupBy := s.groupBy.map (Expr.rewrite r)
        having := s.having.map (Expr.rewrite r)
        orderBy := s.orderBy.map (OrderItem.rewrite r)
        limit := s.limit.map (Expr.rewrite r)
        offset := s.offset.map (Expr.rewrite r) } := by
  cases s
  rw [Select.rewrite]
  simp only [Expr.rewriteList_eq_map, Expr.rewriteOption_eq_map, Source.rewriteList_eq_map,
    Join.rewriteList_eq_map, OrderItem.rewriteList_eq_map]

@[simp] theorem Query.explain_rewrite (q : Query) : (q.rewrite r).explain = q.explain := by
  cases q with
  | select s =>
    show (s.rewrite r).explain = s.explain
    rw [Select.rewrite_eq]
  | _ => rfl

theorem Select.rewrite_withoutExplain (s : Select) :
    { s.rewrite r with explain := none : Select } = ({ s with explain := none }).rewrite r := by
  rw [Select.rewrite_eq, Select.rewrite_eq]

theorem Insert.writtenColumns_rewrite (i : Insert) :
    (i.rewrite r).writtenColumns = i.writtenColumns.map r.identifier := by
  unfold writtenColumns Insert.rewrite
  cases i.columns <;> rfl

/-! ## One rewriting after another -/

namespace Rewrite

/-- The rewriting that does first `r` and then `r'`. -/
def andThen : Rewrite where
  table := r'.table ∘ r.table
  qualifier := r'.qualifier ∘ r.qualifier
  identifier := r'.identifier ∘ r.identifier

end Rewrite

theorem Table.mapNames_mapNames (f g : String → String) (t : Table) :
    (t.mapNames f).mapNames g = t.mapNames (g ∘ f) := by
  rcases t with ⟨_ | schema, name⟩ <;> rfl

@[simp] theorem Table.mapNames_id (t : Table) : t.mapNames id = t := by
  rcases t with ⟨_ | schema, name⟩ <;> rfl

theorem map_map_congr {α β γ : Type} {f : α → β} {g : β → γ} {h : α → γ} {xs : List α}
    (hx : ∀ x ∈ xs, g (f x) = h x) : (xs.map f).map g = xs.map h := by
  rw [List.map_map]
  exact List.map_congr_left hx

theorem option_map_map_congr {α β γ : Type} {f : α → β} {g : β → γ} {h : α → γ} {o : Option α}
    (hx : ∀ x ∈ o, g (f x) = h x) : (o.map f).map g = o.map h := by
  rw [Option.map_map]
  exact Option.map_congr hx

theorem Rewrite.andThen_hereditary :
    Hereditary (fun e => (e.rewrite r).rewrite r' = e.rewrite (r.andThen r'))
      (fun x => (x.rewrite r).rewrite r' = x.rewrite (r.andThen r'))
      (fun s => (s.rewrite r).rewrite r' = s.rewrite (r.andThen r')) where
  reference table column := by
    simp only [Expr.rewrite, Option.map_map]
    rfl
  value v := by simp only [Expr.rewrite]
  raw fragments params h := by
    simp only [Expr.rewrite, Expr.rewriteList_eq_map, map_map_congr h]
  binary left op right hl hr := by simp only [Expr.rewrite, hl, hr]
  unary op e h := by simp only [Expr.rewrite, h]
  call name args h := by simp only [Expr.rewrite, Expr.rewriteList_eq_map, map_map_congr h]
  aliased e label h := by
    simp only [Expr.rewrite, h]
    rfl
  list items h := by simp only [Expr.rewrite, Expr.rewriteList_eq_map, map_map_congr h]
  subquery s h := by simp only [Expr.rewrite, h]
  star table := by
    simp only [Expr.rewrite, Option.map_map]
    rfl
  defaultMarker := by simp only [Expr.rewrite]
  table t label := by
    simp only [Source.rewrite, Option.map_map]
    rfl
  derived s label h := by
    simp only [Source.rewrite, h]
    rfl
  select s h := by
    have hjoins : ∀ j ∈ s.joins, (j.rewrite r).rewrite r' = j.rewrite (r.andThen r') := by
      intro j hj
      simp only [Join.rewrite_eq, h.joins j hj]
    have horderBy : ∀ i ∈ s.orderBy, (i.rewrite r).rewrite r' = i.rewrite (r.andThen r') := by
      intro i hi
      simp only [OrderItem.rewrite_eq, h.orderBy i hi]
    simp only [Select.rewrite_eq, map_map_congr h.sources, map_map_congr h.selections,
      map_map_congr hjoins, map_map_congr h.groupBy, map_map_congr horderBy,
      option_map_map_congr h.filter, option_map_map_congr h.having, option_map_map_congr h.limit,
      option_map_map_congr h.offset]

theorem Expr.rewrite_rewrite (e : Expr) : (e.rewrite r).rewrite r' = e.rewrite (r.andThen r') :=
  (Rewrite.andThen_hereditary r r').expr e

theorem Expr.rewriteList_rewriteList (es : List Expr) :
    Expr.rewriteList r' (Expr.rewriteList r es) = Expr.rewriteList (r.andThen r') es := by
  simp only [Expr.rewriteList_eq_map]
  exact map_map_congr fun e _ => e.rewrite_rewrite r r'

theorem Expr.rewriteOption_rewriteOption (o : Option Expr) :
    Expr.rewriteOption r' (Expr.rewriteOption r o) = Expr.rewriteOption (r.andThen r') o := by
  simp only [Expr.rewriteOption_eq_map]
  exact option_map_map_congr fun e _ => e.rewrite_rewrite r r'

theorem rewriteUpdates_rewriteUpdates (updates : List ColumnUpdate) :
    rewriteUpdates r' (rewriteUpdates r updates) = rewriteUpdates (r.andThen r') updates := by
  unfold rewriteUpdates
  refine map_map_congr fun u _ => ?_
  simp only [ColumnUpdate.rewrite, Expr.rewrite_rewrite]
  rfl

theorem InsertSource.rewrite_rewrite (source : InsertSource) :
    (source.rewrite r).rewrite r' = source.rewrite (r.andThen r') := by
  cases source with
  | rows cells =>
    simp only [InsertSource.rewrite]
    rw [map_map_congr fun row _ => Expr.rewriteList_rewriteList r r' row]
  | expr e => simp only [InsertSource.rewrite, Expr.rewrite_rewrite]
  | defaults => rfl

theorem Conflict.rewrite_rewrite (c : Conflict) :
    (c.rewrite r).rewrite r' = c.rewrite (r.andThen r') := by
  obtain ⟨target, indexFilter, action⟩ := c
  have htarget : (target.rewrite r).rewrite r' = target.rewrite (r.andThen r') := by
    cases target with
    | columns names =>
      simp only [ConflictTarget.rewrite, List.map_map]
      rfl
    | expr e => simp only [ConflictTarget.rewrite, Expr.rewrite_rewrite]
    | _ => rfl
  have haction : (action.rewrite r).rewrite r' = action.rewrite (r.andThen r') := by
    cases action with
    | nothing => rfl
    | update updates filter =>
      simp only [ConflictAction.rewrite, rewriteUpdates_rewriteUpdates,
        Expr.rewriteOption_rewriteOption]
  simp only [Conflict.rewrite, htarget, haction, Expr.rewriteOption_rewriteOption]

theorem Insert.rewrite_rewrite (i : Insert) :
    (i.rewrite r).rewrite r' = i.rewrite (r.andThen r') := by
  have hcolumns : (i.columns.map (List.map r.identifier)).map (List.map r'.identifier) =
      i.columns.map (List.map (r.andThen r').identifier) :=
    option_map_map_congr fun names _ => List.map_map
  simp only [Insert.rewrite, hcolumns,
    option_map_map_congr fun source _ => InsertSource.rewrite_rewrite r r' source,
    option_map_map_congr fun c _ => Conflict.rewrite_rewrite r r' c,
    option_map_map_congr fun updates _ => rewriteUpdates_rewriteUpdates r r' updates,
    option_map_map_congr fun es _ => Expr.rewriteList_rewriteList r r' es]
  rfl

theorem Update.rewrite_rewrite (u : Update) :
    (u.rewrite r).rewrite r' = u.rewrite (r.andThen r') := by
  simp only [Update.rewrite, rewriteUpdates_rewriteUpdates, Expr.rewriteOption_rewriteOption,
    option_map_map_congr fun es _ => Expr.rewriteList_rewriteList r r' es]
  rfl

theorem Delete.rewrite_rewrite (d : Delete) :
    (d.rewrite r).rewrite r' = d.rewrite (r.andThen r') := by
  simp only [Delete.rewrite, Expr.rewriteOption_rewriteOption,
    option_map_map_congr fun es _ => Expr.rewriteList_rewriteList r r' es]
  rfl

theorem Query.rewrite_rewrite (q : Query) :
    (q.rewrite r).rewrite r' = q.rewrite (r.andThen r') := by
  cases q with
  | select s => exact congrArg Query.select ((Rewrite.andThen_hereditary r r').ofSelect s)
  | insert i => exact congrArg Query.insert (i.rewrite_rewrite r r')
  | update u => exact congrArg Query.update (u.rewrite_rewrite r r')
  | delete d => exact congrArg Query.delete (d.rewrite_rewrite r r')

/-! ## No change -/

theorem map_eq_self {α : Type} {f : α → α} {xs : List α} (h : ∀ x ∈ xs, f x = x) :
    xs.map f = xs :=
  (List.map_congr_left h).trans (List.map_id xs)

theorem option_map_eq_self {α : Type} {f : α → α} {o : Option α} (h : ∀ x ∈ o, f x = x) :
    o.map f = o :=
  (Option.map_congr h).trans (congrFun Option.map_id o)

theorem Rewrite.identity_hereditary :
    Hereditary (fun e => e.rewrite .identity = e) (fun x => x.rewrite .identity = x)
      (fun s => s.rewrite .identity = s) where
  reference table column := by
    rw [Expr.rewrite, option_map_eq_self fun t _ => t.mapNames_id]
    rfl
  value v := by rw [Expr.rewrite]
  raw fragments params h := by rw [Expr.rewrite, Expr.rewriteList_eq_map, map_eq_self h]
  binary left op right hl hr := by rw [Expr.rewrite, hl, hr]
  unary op e h := by rw [Expr.rewrite, h]
  call name args h := by rw [Expr.rewrite, Expr.rewriteList_eq_map, map_eq_self h]
  aliased e label h := by
    rw [Expr.rewrite, h]
    rfl
  list items h := by rw [Expr.rewrite, Expr.rewriteList_eq_map, map_eq_self h]
  subquery s h := by rw [Expr.rewrite, h]
  star table := by rw [Expr.rewrite, option_map_eq_self fun t _ => t.mapNames_id]
  defaultMarker := by rw [Expr.rewrite]
  table t label := by
    have hlabel : label.map Rewrite.identity.identifier = label := congrFun Option.map_id label
    rw [Source.rewrite, hlabel]
    exact congrArg (Source.table · label) t.mapNames_id
  derived s label h := by
    rw [Source.rewrite, h]
    rfl
  select s h := by
    have hjoins : ∀ j ∈ s.joins, j.rewrite .identity = j := by
      intro j hj
      rw [Join.rewrite_eq, (h.joins j hj).1, (h.joins j hj).2]
      cases j
      rfl
    have horderBy : ∀ i ∈ s.orderBy, i.rewrite .identity = i := by
      intro i hi
      rw [OrderItem.rewrite_eq, h.orderBy i hi]
      cases i
      rfl
    rw [Select.rewrite_eq, map_eq_self h.sources, map_eq_self h.selections, map_eq_self hjoins,
      map_eq_self h.groupBy, map_eq_self horderBy, option_map_eq_self h.filter,
      option_map_eq_self h.having, option_map_eq_self h.limit, option_map_eq_self h.offset]
    cases s
    rfl

theorem Expr.rewrite_identity (e : Expr) : e.rewrite .identity = e :=
  Rewrite.identity_hereditary.expr e

theorem Expr.rewriteList_identity (es : List Expr) : Expr.rewriteList .identity es = es := by
  rw [Expr.rewriteList_eq_map]
  exact map_eq_self fun e _ => e.rewrite_identity

theorem Expr.rewriteOption_identity (o : Option Expr) : Expr.rewriteOption .identity o = o := by
  rw [Expr.rewriteOption_eq_map]
  exact option_map_eq_self fun e _ => e.rewrite_identity

theorem rewriteUpdates_identity (updates : List ColumnUpdate) :
    rewriteUpdates .identity updates = updates := by
  refine map_eq_self fun u _ => ?_
  show (⟨u.column, u.value.rewrite .identity⟩ : ColumnUpdate) = u
  rw [Expr.rewrite_identity]

theorem InsertSource.rewrite_identity (source : InsertSource) :
    source.rewrite .identity = source := by
  cases source with
  | rows cells => exact congrArg rows (map_eq_self fun row _ => Expr.rewriteList_identity row)
  | expr e => exact congrArg expr e.rewrite_identity
  | defaults => rfl

theorem Conflict.rewrite_identity (c : Conflict) : c.rewrite .identity = c := by
  have htarget : c.target.rewrite .identity = c.target := by
    cases c.target with
    | columns names => exact congrArg ConflictTarget.columns (List.map_id names)
    | expr e => exact congrArg ConflictTarget.expr e.rewrite_identity
    | _ => rfl
  have haction : c.action.rewrite .identity = c.action := by
    cases c.action with
    | nothing => rfl
    | update updates filter =>
      exact congrArg₂ ConflictAction.update (rewriteUpdates_identity updates)
        (Expr.rewriteOption_identity filter)
  show (⟨c.target.rewrite .identity, Expr.rewriteOption .identity c.indexFilter,
    c.action.rewrite .identity⟩ : Conflict) = c
  rw [htarget, haction, Expr.rewriteOption_identity]

theorem returning_identity (returning : Option (List Expr)) :
    returning.map (Expr.rewriteList .identity) = returning :=
  option_map_eq_self fun es _ => Expr.rewriteList_identity es

theorem Insert.rewrite_identity (i : Insert) : i.rewrite .identity = i := by
  have hinto : Rewrite.identity.table i.into = i.into := i.into.mapNames_id
  have hcolumns : i.columns.map (List.map Rewrite.identity.identifier) = i.columns :=
    option_map_eq_self fun names _ => List.map_id names
  have hsource : i.source.map (InsertSource.rewrite .identity) = i.source :=
    option_map_eq_self fun source _ => source.rewrite_identity
  have hconflict : i.onConflict.map (Conflict.rewrite .identity) = i.onConflict :=
    option_map_eq_self fun c _ => c.rewrite_identity
  have hduplicate : i.onDuplicateKey.map (rewriteUpdates .identity) = i.onDuplicateKey :=
    option_map_eq_self fun updates _ => rewriteUpdates_identity updates
  show ({ i with
    into := Rewrite.identity.table i.into
    columns := i.columns.map (List.map Rewrite.identity.identifier)
    source := i.source.map (InsertSource.rewrite .identity)
    onConflict := i.onConflict.map (Conflict.rewrite .identity)
    onDuplicateKey := i.onDuplicateKey.map (rewriteUpdates .identity)
    returning := i.returning.map (Expr.rewriteList .identity) } : Insert) = i
  rw [hinto, hcolumns, hsource, hconflict, hduplicate, returning_identity]

theorem Update.rewrite_identity (u : Update) : u.rewrite .identity = u := by
  have htable : Rewrite.identity.table u.table = u.table := u.table.mapNames_id
  show ({ u with
    table := Rewrite.identity.table u.table
    updates := rewriteUpdates .identity u.updates
    filter := Expr.rewriteOption .identity u.filter
    returning := u.returning.map (Expr.rewriteList .identity) } : Update) = u
  rw [htable, rewriteUpdates_identity, Expr.rewriteOption_identity, returning_identity]

theorem Delete.rewrite_identity (d : Delete) : d.rewrite .identity = d := by
  have hsource : Rewrite.identity.table d.source = d.source := d.source.mapNames_id
  show ({ d with
    source := Rewrite.identity.table d.source
    filter := Expr.rewriteOption .identity d.filter
    returning := d.returning.map (Expr.rewriteList .identity) } : Delete) = d
  rw [hsource, Expr.rewriteOption_identity, returning_identity]

theorem Query.rewrite_identity (q : Query) : q.rewrite .identity = q := by
  cases q with
  | select s => exact congrArg Query.select (Rewrite.identity_hereditary.ofSelect s)
  | insert i => exact congrArg Query.insert i.rewrite_identity
  | update u => exact congrArg Query.update u.rewrite_identity
  | delete d => exact congrArg Query.delete d.rewrite_identity

end SqlWeave
