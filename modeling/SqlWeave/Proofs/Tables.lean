import SqlWeave.Proofs.Rewriting

/-!
# The tables of a tree

Tables stand where a statement reads from, joins or writes, at any depth: a select can hide in any
expression of any clause.  This file lists these places in the order of their text, and says what a
rewriting does to them: it reaches all of them but those in requests to explain.
-/

namespace SqlWeave

/-- A place in a tree for a table that a statement reads or writes. -/
structure TablePlace where
  table : Table
  /-- Whether the place has text. -/
  written : Bool
  /-- Whether the place is in the options of a request to explain. -/
  explained : Bool

namespace TablePlace

def shown (t : Table) : TablePlace := ⟨t, true, false⟩

/-- The places of a part of a tree that has no text. -/
def hide (places : List TablePlace) : List TablePlace :=
  places.map fun p => { p with written := false }

/-- The places of the options of a request to explain. -/
def explain (places : List TablePlace) : List TablePlace :=
  places.map fun p => { p with explained := true }

def written? (p : TablePlace) : Option Table := if p.written then some p.table else none

/-- The tables of the places that have text. -/
def writtenTables (places : List TablePlace) : List Table := places.filterMap written?

/-- A place after a rewriting, which leaves requests to explain as they are. -/
def rewrite (r : Rewrite) (p : TablePlace) : TablePlace :=
  if p.explained then p else { p with table := r.table p.table }

@[simp] theorem writtenTables_nil : writtenTables [] = [] := rfl

@[simp] theorem writtenTables_append (a b : List TablePlace) :
    writtenTables (a ++ b) = writtenTables a ++ writtenTables b :=
  List.filterMap_append

@[simp] theorem writtenTables_flatMap {α : Type} (f : α → List TablePlace) (xs : List α) :
    writtenTables (xs.flatMap f) = xs.flatMap fun x => writtenTables (f x) :=
  List.filterMap_flatMap

@[simp] theorem writtenTables_shown (t : Table) (places : List TablePlace) :
    writtenTables (shown t :: places) = t :: writtenTables places := rfl

@[simp] theorem writtenTables_hide (places : List TablePlace) :
    writtenTables (hide places) = [] := by
  rw [writtenTables, hide, List.filterMap_map, List.filterMap_eq_nil_iff]
  intro p _
  rfl

theorem map_rewrite_hide (r : Rewrite) (places : List TablePlace) :
    (hide places).map (rewrite r) = hide (places.map (rewrite r)) := by
  rw [hide, hide, List.map_map, List.map_map]
  refine List.map_congr_left fun p _ => ?_
  rcases p with ⟨t, written, _ | _⟩ <;> rfl

theorem map_rewrite_explain (r : Rewrite) (places : List TablePlace) :
    (explain places).map (rewrite r) = explain places := by
  rw [explain, List.map_map]
  exact List.map_congr_left fun p _ => rfl

-- Members whose places are rewritten.
theorem flatMap_map_rewrite {α : Type} {r : Rewrite} {f : α → List TablePlace} {g : α → α}
    {xs : List α} (h : ∀ x ∈ xs, f (g x) = (f x).map (rewrite r)) :
    (xs.map g).flatMap f = (xs.flatMap f).map (rewrite r) := by
  rw [List.flatMap_map, List.map_flatMap]
  exact List.flatMap_congr h

end TablePlace

open TablePlace (shown hide)

mutual

/-- The places for tables in an expression.  Parameters of raw SQL beyond the last fragment have no
text. -/
def Expr.tables : Expr → List TablePlace
  | .raw fragments params =>
    let groups := Expr.tablesOfList params
    (groups.take fragments.length).flatten ++ hide (groups.drop fragments.length).flatten
  | .binary left _ right => left.tables ++ right.tables
  | .unary _ e => e.tables
  | .call _ args => (Expr.tablesOfList args).flatten
  | .aliased e _ => e.tables
  | .list items => (Expr.tablesOfList items).flatten
  | .subquery s => s.tables
  | .reference _ _ | .value _ | .star _ | .defaultMarker => []

def Expr.tablesOfList : List Expr → List (List TablePlace)
  | [] => []
  | e :: rest => e.tables :: Expr.tablesOfList rest

def Expr.tablesOfOption : Option Expr → List TablePlace
  | none => []
  | some e => e.tables

def Source.tables : Source → List TablePlace
  | .table t _ => [shown t]
  | .subquery s _ => s.tables

def Source.tablesOfList : List Source → List TablePlace
  | [] => []
  | x :: rest => x.tables ++ Source.tablesOfList rest

def Join.tablesOfList : List Join → List TablePlace
  | [] => []
  | ⟨_, x, e⟩ :: rest => x.tables ++ e.tables ++ Join.tablesOfList rest

def OrderItem.tablesOfList : List OrderItem → List TablePlace
  | [] => []
  | ⟨e, _⟩ :: rest => e.tables ++ OrderItem.tablesOfList rest

def Explain.tablesOfOption : Option Explain → List TablePlace
  | none => []
  | some ⟨_, options⟩ => TablePlace.explain (Expr.tablesOfOption options)

/-- The places for tables in a select.  Its own request to explain it is not written. -/
def Select.tables : Select → List TablePlace
  | ⟨sources, selections, _, joins, filter, groupBy, having, orderBy, limit, offset, explain⟩ =>
    hide (Explain.tablesOfOption explain) ++ (Expr.tablesOfList selections).flatten ++
      Source.tablesOfList sources ++ Join.tablesOfList joins ++ Expr.tablesOfOption filter ++
      (Expr.tablesOfList groupBy).flatten ++ Expr.tablesOfOption having ++
      OrderItem.tablesOfList orderBy ++ Expr.tablesOfOption limit ++ Expr.tablesOfOption offset

end

@[simp] theorem Expr.tablesOfList_eq_map (es : List Expr) :
    Expr.tablesOfList es = es.map Expr.tables := by
  induction es with
  | nil => rfl
  | cons e rest ih => exact congrArg (e.tables :: ·) ih

@[simp] theorem Source.tablesOfList_eq_flatMap (xs : List Source) :
    Source.tablesOfList xs = xs.flatMap Source.tables := by
  induction xs with
  | nil => rfl
  | cons x rest ih => exact congrArg (x.tables ++ ·) ih

@[simp] theorem Join.tablesOfList_eq_flatMap (js : List Join) :
    Join.tablesOfList js = js.flatMap fun j => j.source.tables ++ j.on.tables := by
  induction js with
  | nil => rfl
  | cons j rest ih =>
    cases j
    exact congrArg (_ ++ ·) ih

@[simp] theorem OrderItem.tablesOfList_eq_flatMap (is : List OrderItem) :
    OrderItem.tablesOfList is = is.flatMap fun i => i.expr.tables := by
  induction is with
  | nil => rfl
  | cons i rest ih =>
    cases i
    exact congrArg (_ ++ ·) ih

theorem Select.tables_eq (s : Select) :
    s.tables = hide (Explain.tablesOfOption s.explain) ++ s.selections.flatMap Expr.tables ++
      s.sources.flatMap Source.tables ++
      (s.joins.flatMap fun j => j.source.tables ++ j.on.tables) ++ Expr.tablesOfOption s.filter ++
      s.groupBy.flatMap Expr.tables ++ Expr.tablesOfOption s.having ++
      (s.orderBy.flatMap fun i => i.expr.tables) ++ Expr.tablesOfOption s.limit ++
      Expr.tablesOfOption s.offset := by
  cases s
  rw [Select.tables]
  simp only [Expr.tablesOfList_eq_map, Source.tablesOfList_eq_flatMap, Join.tablesOfList_eq_flatMap,
    OrderItem.tablesOfList_eq_flatMap, ← List.flatMap_def]

/-! ## Tables of statements -/

def updateTables (updates : List ColumnUpdate) : List TablePlace :=
  updates.flatMap fun u => u.value.tables

def returningTables : Option (List Expr) → List TablePlace
  | some selections => selections.flatMap Expr.tables
  | none => []

def ConflictTarget.tables : ConflictTarget → List TablePlace
  | .expr e => e.tables
  | _ => []

def ConflictAction.tables : ConflictAction → List TablePlace
  | .nothing => []
  | .update updates filter => updateTables updates ++ Expr.tablesOfOption filter

def Conflict.tables (c : Conflict) : List TablePlace :=
  c.target.tables ++ Expr.tablesOfOption c.indexFilter ++ c.action.tables

namespace Insert

/-- The places for tables in the source of rows.  Rows without columns have no text. -/
def sourceTables (i : Insert) : List TablePlace :=
  match i.source with
  | some (.rows rows) =>
    let cells := rows.flatMap fun row => row.flatMap Expr.tables
    if i.writtenColumns.isEmpty then hide cells else cells
  | some (.expr e) => e.tables
  | some .defaults => []
  | none => []

def tables (i : Insert) : List TablePlace :=
  shown i.into :: i.sourceTables ++ i.onConflict.toList.flatMap Conflict.tables ++
    i.onDuplicateKey.toList.flatMap updateTables ++ returningTables i.returning

end Insert

/-- The places for tables in an update.  One that sets nothing is refused and has no text. -/
def Update.tables (u : Update) : List TablePlace :=
  let places := shown u.table :: updateTables u.updates ++ Expr.tablesOfOption u.filter ++
    returningTables u.returning
  if u.updates.isEmpty then hide places else places

def Delete.tables (d : Delete) : List TablePlace :=
  shown d.source :: Expr.tablesOfOption d.filter ++ returningTables d.returning

namespace Query

/-- The places for tables in a statement without its own request to explain it. -/
def ownTables : Query → List TablePlace
  | .select s => { s with explain := none : Select }.tables
  | .insert i => i.tables
  | .update u => u.tables
  | .delete d => d.tables

/-- The places for tables in a statement at the root of a tree, where a request to explain it comes
first. -/
def tables (q : Query) : List TablePlace := Explain.tablesOfOption q.explain ++ q.ownTables

end Query

/-! ## Tables after a rewriting -/

section

variable (r : Rewrite)

open TablePlace (flatMap_map_rewrite map_rewrite_hide map_rewrite_explain)

theorem Expr.tablesOfOption_rewrite {o : Option Expr}
    (h : ∀ e ∈ o, (e.rewrite r).tables = e.tables.map (TablePlace.rewrite r)) :
    Expr.tablesOfOption (o.map (Expr.rewrite r)) =
      (Expr.tablesOfOption o).map (TablePlace.rewrite r) := by
  cases o with
  | none => rfl
  | some e => exact h e rfl

theorem Explain.map_rewrite_tablesOfOption (o : Option Explain) :
    (Explain.tablesOfOption o).map (TablePlace.rewrite r) = Explain.tablesOfOption o := by
  rcases o with _ | ⟨format, options⟩
  · rfl
  · exact map_rewrite_explain r _

theorem Expr.tables_hereditary :
    Hereditary (fun e => (e.rewrite r).tables = e.tables.map (TablePlace.rewrite r))
      (fun x => (x.rewrite r).tables = x.tables.map (TablePlace.rewrite r))
      (fun s => (s.rewrite r).tables = s.tables.map (TablePlace.rewrite r)) where
  reference table column := by
    rw [Expr.rewrite, Expr.tables, Expr.tables]
    rfl
  value v := by
    rw [Expr.rewrite, Expr.tables]
    rfl
  raw fragments params h := by
    simp only [Expr.rewrite, Expr.tables, Expr.rewriteList_eq_map, Expr.tablesOfList_eq_map,
      ← List.map_take, ← List.map_drop, ← List.flatMap_def, List.map_append, map_rewrite_hide]
    rw [flatMap_map_rewrite fun e he => h e (List.mem_of_mem_take he),
      flatMap_map_rewrite fun e he => h e (List.mem_of_mem_drop he)]
  binary left op right hl hr := by
    rw [Expr.rewrite, Expr.tables, Expr.tables, hl, hr, List.map_append]
  unary op e h := by rw [Expr.rewrite, Expr.tables, Expr.tables, h]
  call name args h := by
    simp only [Expr.rewrite, Expr.tables, Expr.rewriteList_eq_map, Expr.tablesOfList_eq_map,
      ← List.flatMap_def]
    exact flatMap_map_rewrite h
  aliased e label h := by rw [Expr.rewrite, Expr.tables, Expr.tables, h]
  list items h := by
    simp only [Expr.rewrite, Expr.tables, Expr.rewriteList_eq_map, Expr.tablesOfList_eq_map,
      ← List.flatMap_def]
    exact flatMap_map_rewrite h
  subquery s h := by rw [Expr.rewrite, Expr.tables, Expr.tables, h]
  star table := by
    rw [Expr.rewrite, Expr.tables, Expr.tables]
    rfl
  defaultMarker := by
    rw [Expr.rewrite, Expr.tables]
    rfl
  table t label := by
    rw [Source.rewrite, Source.tables, Source.tables]
    rfl
  derived s label h := by rw [Source.rewrite, Source.tables, Source.tables, h]
  select s h := by
    have hjoins : (s.joins.map (Join.rewrite r)).flatMap (fun j => j.source.tables ++ j.on.tables) =
        (s.joins.flatMap fun j => j.source.tables ++ j.on.tables).map (TablePlace.rewrite r) := by
      refine flatMap_map_rewrite fun j hj => ?_
      simp only [Join.rewrite_eq, h.joins j hj, List.map_append]
    have horderBy : (s.orderBy.map (OrderItem.rewrite r)).flatMap (fun i => i.expr.tables) =
        (s.orderBy.flatMap fun i => i.expr.tables).map (TablePlace.rewrite r) := by
      refine flatMap_map_rewrite fun i hi => ?_
      simp only [OrderItem.rewrite_eq, h.orderBy i hi]
    simp only [Select.tables_eq, Select.rewrite_eq, List.map_append, map_rewrite_hide,
      Explain.map_rewrite_tablesOfOption, hjoins, horderBy, flatMap_map_rewrite h.sources,
      flatMap_map_rewrite h.selections, flatMap_map_rewrite h.groupBy,
      Expr.tablesOfOption_rewrite r h.filter, Expr.tablesOfOption_rewrite r h.having,
      Expr.tablesOfOption_rewrite r h.limit, Expr.tablesOfOption_rewrite r h.offset]

@[simp] theorem Expr.tables_rewrite (e : Expr) :
    (e.rewrite r).tables = e.tables.map (TablePlace.rewrite r) :=
  (Expr.tables_hereditary r).expr e

theorem Expr.flatMap_tables_rewriteList (es : List Expr) :
    (Expr.rewriteList r es).flatMap Expr.tables =
      (es.flatMap Expr.tables).map (TablePlace.rewrite r) := by
  rw [Expr.rewriteList_eq_map]
  exact flatMap_map_rewrite fun e _ => e.tables_rewrite r

@[simp] theorem Expr.tablesOfOption_rewriteOption (o : Option Expr) :
    Expr.tablesOfOption (Expr.rewriteOption r o) =
      (Expr.tablesOfOption o).map (TablePlace.rewrite r) := by
  rw [Expr.rewriteOption_eq_map]
  exact Expr.tablesOfOption_rewrite r fun e _ => e.tables_rewrite r

@[simp] theorem updateTables_rewriteUpdates (updates : List ColumnUpdate) :
    updateTables (rewriteUpdates r updates) =
      (updateTables updates).map (TablePlace.rewrite r) :=
  flatMap_map_rewrite fun u _ => u.value.tables_rewrite r

@[simp] theorem returningTables_rewriteList (returning : Option (List Expr)) :
    returningTables (returning.map (Expr.rewriteList r)) =
      (returningTables returning).map (TablePlace.rewrite r) := by
  cases returning with
  | none => rfl
  | some selections => exact Expr.flatMap_tables_rewriteList r selections

theorem Conflict.tables_rewrite (c : Conflict) :
    (c.rewrite r).tables = c.tables.map (TablePlace.rewrite r) := by
  obtain ⟨target, indexFilter, action⟩ := c
  have htarget : (target.rewrite r).tables = target.tables.map (TablePlace.rewrite r) := by
    cases target with
    | expr e => exact e.tables_rewrite r
    | _ => rfl
  have haction : (action.rewrite r).tables = action.tables.map (TablePlace.rewrite r) := by
    cases action with
    | nothing => rfl
    | update updates filter =>
      simp only [ConflictAction.rewrite, ConflictAction.tables, updateTables_rewriteUpdates,
        Expr.tablesOfOption_rewriteOption, List.map_append]
  simp only [Conflict.rewrite, Conflict.tables, htarget, haction,
    Expr.tablesOfOption_rewriteOption, List.map_append]

namespace Insert

theorem sourceTables_rewrite (i : Insert) :
    (i.rewrite r).sourceTables = i.sourceTables.map (TablePlace.rewrite r) := by
  have hsource : (i.rewrite r).source = i.source.map (InsertSource.rewrite r) := rfl
  unfold sourceTables
  rw [hsource, writtenColumns_rewrite, List.isEmpty_map]
  rcases i.source with _ | rows | e | _
  · rfl
  · have hcells : (rows.map (Expr.rewriteList r)).flatMap (fun row => row.flatMap Expr.tables) =
        (rows.flatMap fun row => row.flatMap Expr.tables).map (TablePlace.rewrite r) :=
      flatMap_map_rewrite fun row _ => Expr.flatMap_tables_rewriteList r row
    simp only [Option.map_some, InsertSource.rewrite, hcells]
    split
    · rw [map_rewrite_hide]
    · rfl
  · exact e.tables_rewrite r
  · rfl

theorem tables_rewrite (i : Insert) :
    (i.rewrite r).tables = i.tables.map (TablePlace.rewrite r) := by
  have hconflict : (i.rewrite r).onConflict.toList.flatMap Conflict.tables =
      (i.onConflict.toList.flatMap Conflict.tables).map (TablePlace.rewrite r) := by
    show (i.onConflict.map (Conflict.rewrite r)).toList.flatMap Conflict.tables = _
    rw [Option.toList_map]
    exact flatMap_map_rewrite fun c _ => c.tables_rewrite r
  have hduplicate : (i.rewrite r).onDuplicateKey.toList.flatMap updateTables =
      (i.onDuplicateKey.toList.flatMap updateTables).map (TablePlace.rewrite r) := by
    show (i.onDuplicateKey.map (rewriteUpdates r)).toList.flatMap updateTables = _
    rw [Option.toList_map]
    exact flatMap_map_rewrite fun updates _ => updateTables_rewriteUpdates r updates
  have hreturning : returningTables (i.rewrite r).returning =
      (returningTables i.returning).map (TablePlace.rewrite r) :=
    returningTables_rewriteList r i.returning
  simp only [Insert.tables, List.map_append, List.map_cons, sourceTables_rewrite, hconflict,
    hduplicate, hreturning]
  rfl

end Insert

theorem Update.tables_rewrite (u : Update) :
    (u.rewrite r).tables = u.tables.map (TablePlace.rewrite r) := by
  have hempty : (rewriteUpdates r u.updates).isEmpty = u.updates.isEmpty := List.isEmpty_map
  unfold Update.tables
  simp only [Update.rewrite, hempty, updateTables_rewriteUpdates,
    Expr.tablesOfOption_rewriteOption, returningTables_rewriteList]
  split
  · simp only [map_rewrite_hide, List.map_append, List.map_cons]
    rfl
  · simp only [List.map_append, List.map_cons]
    rfl

theorem Delete.tables_rewrite (d : Delete) :
    (d.rewrite r).tables = d.tables.map (TablePlace.rewrite r) := by
  simp only [Delete.tables, Delete.rewrite, Expr.tablesOfOption_rewriteOption,
    returningTables_rewriteList, List.map_append, List.map_cons]
  rfl

-- A rewriting reaches the tables at all places but those in requests to explain.
theorem Query.tables_rewrite (q : Query) :
    (q.rewrite r).tables = q.tables.map (TablePlace.rewrite r) := by
  have hown : (q.rewrite r).ownTables = q.ownTables.map (TablePlace.rewrite r) := by
    cases q with
    | select s =>
      show ({ s.rewrite r with explain := none : Select }).tables = _
      rw [Select.rewrite_withoutExplain]
      exact (Expr.tables_hereditary r).ofSelect _
    | insert i => exact i.tables_rewrite r
    | update u => exact u.tables_rewrite r
    | delete d => exact d.tables_rewrite r
  rw [tables, explain_rewrite, hown, tables, List.map_append, Explain.map_rewrite_tablesOfOption]

end

end SqlWeave
