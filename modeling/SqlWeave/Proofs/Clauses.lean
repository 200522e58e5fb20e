import SqlWeave.Proofs.Filtering

/-!
# What a run of calls means, clause by clause

Every call of a builder adds to one clause of its statement.  A run of calls gives the statement
whose clauses are read off the calls for each clause, in their order, so how the clauses are
interleaved makes no difference.
-/

namespace SqlWeave

/-! ## Clauses and what calls add to them -/

inductive Clause where
  | selections
  | distinct
  | joins
  | filter
  | groupBy
  | having
  | orderBy
  | limit
  | offset
  | updates
  | returning
  | explain
  deriving DecidableEq

/-- What one call can add to a clause. -/
abbrev Clause.Content : Clause → Type
  | .selections | .groupBy | .returning => List Expr
  | .distinct => Unit
  | .joins => Join
  | .filter | .having => Expr
  | .orderBy => OrderItem
  | .limit | .offset => Int64
  | .updates => List ColumnUpdate
  | .explain => Explain

/-- What a call adds: a clause, and what it adds to the clause. -/
abbrev Addition := (c : Clause) × c.Content

/-- What an addition adds to a given clause. -/
def Addition.to (c : Clause) (a : Addition) : Option c.Content :=
  if h : a.1 = c then some (h ▸ a.2) else none

/-- What is added to each clause, in order. -/
def Addition.collect (as : List Addition) (c : Clause) : List c.Content :=
  as.filterMap (Addition.to c)

/-- The expressions that a call lists. -/
def Selecting.listed : Selecting → List Expr
  | .items texts => texts.map Shorthand.selection
  | .exprs es => es
  | .all => [.star none]

/-- The predicate that a call states. -/
def Narrowing.stated : Narrowing → Expr
  | .expr e => e
  | .compare column op value => .binary (Shorthand.reference column) op value
  | .compareColumns left op right =>
    .binary (Shorthand.reference left) op (Shorthand.reference right)
  | .equal column value => .binary (Shorthand.reference column) .eq value

def SelectEdit.addition : SelectEdit → Addition
  | .select call => ⟨.selections, call.listed⟩
  | .selectAllFrom table => ⟨.selections, [.star (some (.ofName table))]⟩
  | .distinct => ⟨.distinct, ()⟩
  | .joinOn kind table left right =>
    ⟨.joins, ⟨kind, Shorthand.source table,
      .binary (Shorthand.reference left) .eq (Shorthand.reference right)⟩⟩
  | .join j => ⟨.joins, j⟩
  | .filter call => ⟨.filter, call.stated⟩
  | .groupBy columns => ⟨.groupBy, columns.map Shorthand.reference⟩
  | .having predicate => ⟨.having, predicate⟩
  | .orderBy column direction => ⟨.orderBy, ⟨Shorthand.reference column, direction⟩⟩
  | .limit count => ⟨.limit, count⟩
  | .offset count => ⟨.offset, count⟩
  | .explain request => ⟨.explain, request⟩

/-- A call that is to set nothing fails and adds nothing. -/
def UpdateEdit.addition? : UpdateEdit → Option Addition
  | .set settings =>
    if settings.isEmpty then none
    else some ⟨.updates,
      settings.entries.map fun (column, value) => ⟨Shorthand.columnName column, value⟩⟩
  | .filter call => some ⟨.filter, call.stated⟩
  | .returning call => some ⟨.returning, call.listed⟩
  | .explain request => some ⟨.explain, request⟩

def DeleteEdit.addition : DeleteEdit → Addition
  | .filter call => ⟨.filter, call.stated⟩
  | .returning call => ⟨.returning, call.listed⟩
  | .explain request => ⟨.explain, request⟩

/-! ## The statement that has given clauses -/

/-- The predicates conjoined from the left, if there are any. -/
def conjunction : List Expr → Option Expr
  | [] => none
  | p :: rest => some (rest.foldl Expr.and p)

/-- The lists one after the other, if there are any. -/
def together {α : Type} : List (List α) → Option (List α)
  | [] => none
  | lists => some lists.flatten

section

variable (added : (c : Clause) → List c.Content)

def Select.ofClauses (sources : List Source) : Select where
  sources := sources
  selections := (added .selections).flatten
  distinct := !(added .distinct).isEmpty
  joins := added .joins
  filter := conjunction (added .filter)
  groupBy := (added .groupBy).flatten
  having := conjunction (added .having)
  orderBy := added .orderBy
  limit := (added .limit).getLast?.map fun count => .value (.int count)
  offset := (added .offset).getLast?.map fun count => .value (.int count)
  explain := (added .explain).getLast?

def Update.ofClauses (table : Table) : Update where
  table := table
  updates := (added .updates).flatten
  filter := conjunction (added .filter)
  returning := together (added .returning)
  explain := (added .explain).getLast?

def Delete.ofClauses (table : Table) : Delete where
  source := table
  filter := conjunction (added .filter)
  returning := together (added .returning)
  explain := (added .explain).getLast?

/-- What a statement is about, before any call. -/
inductive Start where
  | select (sources : List Source)
  | update (table : Table)
  | delete (table : Table)

/-- The statement that has the clauses which the additions to each of them make. -/
def Query.ofClauses : Start → Query
  | .select sources => .select (Select.ofClauses added sources)
  | .update table => .update (Update.ofClauses added table)
  | .delete table => .delete (Delete.ofClauses added table)

end

namespace Building

def start : Building → Start
  | .select sources _ => .select sources
  | .update table _ => .update table
  | .delete table _ => .delete table

/-- What the calls that succeed add to each clause, in order. -/
def added : Building → (c : Clause) → List c.Content
  | .select _ calls => Addition.collect (calls.map SelectEdit.addition)
  | .update _ calls => Addition.collect (calls.filterMap UpdateEdit.addition?)
  | .delete _ calls => Addition.collect (calls.map DeleteEdit.addition)

end Building

/-! ## One more call -/

theorem Addition.to_self (c : Clause) (x : c.Content) : Addition.to c ⟨c, x⟩ = some x :=
  dif_pos rfl

theorem Addition.to_of_ne {c c' : Clause} (h : c' ≠ c) (x : c'.Content) :
    Addition.to c ⟨c', x⟩ = none :=
  dif_neg h

theorem filterMap_concat {α β : Type} (f : α → Option β) (xs : List α) (x : α) :
    (xs ++ [x]).filterMap f = xs.filterMap f ++ (f x).toList := by
  rw [List.filterMap_append]
  cases h : f x <;> simp [h]

theorem Addition.collect_concat (as : List Addition) (a : Addition) (c : Clause) :
    collect (as ++ [a]) c = collect as c ++ (a.to c).toList :=
  filterMap_concat (Addition.to c) as a

theorem conjunction_concat (ps : List Expr) (p : Expr) :
    conjunction (ps ++ [p]) = conjoin (conjunction ps) p := by
  cases ps with
  | nil => rfl
  | cons first rest =>
    rw [List.cons_append, conjunction, List.foldl_concat]
    rfl

theorem together_concat {α : Type} (lists : List (List α)) (list : List α) :
    together (lists ++ [list]) = some ((together lists).getD [] ++ list) := by
  cases lists with
  | nil => simp [together]
  | cons first rest => simp [together]

theorem Selecting.selections_eq (call : Selecting) : call.selections = call.listed := by
  cases call <;> rfl

theorem Narrowing.predicate_eq (call : Narrowing) : call.predicate = call.stated := by
  cases call <;> rfl

theorem Update.edit_set (u : Update) (settings : Assignments) :
    u.edit (.set settings) =
      if settings.isEmpty then .error (.shape .emptyUpdate)
      else .ok { u with
        updates := u.updates ++
          settings.entries.map fun (column, value) => ⟨Shorthand.columnName column, value⟩ } := by
  rw [edit, Assignments.updates]
  split <;> rfl

theorem Select.ofClauses_concat (sources : List Source) (calls : List SelectEdit) (e : SelectEdit) :
    Select.ofClauses (Addition.collect ((calls ++ [e]).map SelectEdit.addition)) sources =
      (Select.ofClauses (Addition.collect (calls.map SelectEdit.addition)) sources).edit e := by
  rw [List.map_append, List.map_singleton]
  cases e <;>
    simp [ofClauses, edit, SelectEdit.addition, Addition.collect_concat, Addition.to_self,
      Addition.to_of_ne, conjunction_concat, Selecting.selections_eq, Narrowing.predicate_eq,
      Predicate.compareColumns]

-- A call that is to set nothing leaves both sides as they were.
theorem Update.ofClauses_concat (table : Table) (calls : List UpdateEdit) (e : UpdateEdit) :
    let u := Update.ofClauses (Addition.collect (calls.filterMap UpdateEdit.addition?)) table
    Update.ofClauses (Addition.collect ((calls ++ [e]).filterMap UpdateEdit.addition?)) table =
      (u.edit e).toOption.getD u := by
  intro u
  rw [filterMap_concat]
  cases e with
  | set settings =>
    rw [edit_set, UpdateEdit.addition?]
    by_cases hempty : settings.isEmpty = true
    · rw [if_pos hempty, if_pos hempty, Option.toList_none, List.append_nil]
      rfl
    · rw [if_neg hempty, if_neg hempty, Option.toList_some]
      simp [u, ofClauses, Except.toOption, Addition.collect_concat, Addition.to_self,
        Addition.to_of_ne]
  | _ =>
    simp [u, ofClauses, edit, UpdateEdit.addition?, Except.toOption, Addition.collect_concat,
      Addition.to_self, Addition.to_of_ne, conjunction_concat, together_concat, extendReturning,
      pure, Except.pure, Selecting.selections_eq, Narrowing.predicate_eq]

theorem Delete.ofClauses_concat (table : Table) (calls : List DeleteEdit) (e : DeleteEdit) :
    Delete.ofClauses (Addition.collect ((calls ++ [e]).map DeleteEdit.addition)) table =
      (Delete.ofClauses (Addition.collect (calls.map DeleteEdit.addition)) table).edit e := by
  rw [List.map_append, List.map_singleton]
  cases e <;>
    simp [ofClauses, edit, DeleteEdit.addition, Addition.collect_concat, Addition.to_self,
      Addition.to_of_ne, conjunction_concat, together_concat, extendReturning,
      Selecting.selections_eq, Narrowing.predicate_eq]

/-! ## Runs of calls -/

-- What gains by one more call as a step does is what a run of steps gives.
theorem foldl_eq_of_concat {σ ε : Type} (step : σ → ε → σ) (built : List ε → σ)
    (h : ∀ calls e, built (calls ++ [e]) = step (built calls) e) (calls : List ε) :
    calls.foldl step (built []) = built calls := by
  induction calls using List.reverseRecOn with
  | nil => rfl
  | append_singleton calls e ih => rw [List.foldl_concat, ih, h]

theorem Building.query_eq_ofClauses (b : Building) : b.query = Query.ofClauses b.added b.start := by
  cases b with
  | select sources calls =>
    apply congrArg Query.select
    exact foldl_eq_of_concat Select.edit
      (fun calls => .ofClauses (Addition.collect (calls.map _)) sources)
      (Select.ofClauses_concat sources) calls
  | update table calls =>
    apply congrArg Query.update
    exact foldl_eq_of_concat (fun u e => (Update.edit u e).toOption.getD u)
      (fun calls => .ofClauses (Addition.collect (calls.filterMap _)) table)
      (Update.ofClauses_concat table) calls
  | delete table calls =>
    apply congrArg Query.delete
    exact foldl_eq_of_concat Delete.edit
      (fun calls => .ofClauses (Addition.collect (calls.map _)) table)
      (Delete.ofClauses_concat table) calls

/-! ## Runs that say the same -/

/-- Two lists of additions to a clause amount to the same.  Predicates may be added one after the
other, or all at once. -/
inductive Clause.Agree : (c : Clause) → List c.Content → List c.Content → Prop
  | same (c : Clause) (xs : List c.Content) : Agree c xs xs
  | filter (ps : List Expr) (h : ps ≠ []) : Agree .filter ps [Predicate.all ps]
  | having (ps : List Expr) (h : ps ≠ []) : Agree .having ps [Predicate.all ps]

theorem conjunction_all {ps : List Expr} (h : ps ≠ []) :
    conjunction [Predicate.all ps] = conjunction ps := by
  cases ps with
  | nil => exact absurd rfl h
  | cons p rest => rfl

theorem Clause.Agree.conjunction_filter {ps qs : List Expr} (h : Agree .filter ps qs) :
    conjunction ps = conjunction qs := by
  cases h with
  | same => rfl
  | filter _ hne => exact (conjunction_all hne).symm

theorem Clause.Agree.conjunction_having {ps qs : List Expr} (h : Agree .having ps qs) :
    conjunction ps = conjunction qs := by
  cases h with
  | same => rfl
  | having _ hne => exact (conjunction_all hne).symm

theorem Clause.Agree.eq {c : Clause} {xs ys : List c.Content} (h : Agree c xs ys)
    (hfilter : c ≠ .filter) (hhaving : c ≠ .having) : xs = ys := by
  cases h with
  | same => rfl
  | filter => exact absurd rfl hfilter
  | having => exact absurd rfl hhaving

theorem Query.ofClauses_congr {added added' : (c : Clause) → List c.Content}
    (h : ∀ c : Clause, c.Agree (added c) (added' c)) (start : Start) :
    Query.ofClauses added start = Query.ofClauses added' start := by
  have hfilter := (h .filter).conjunction_filter
  have hhaving := (h .having).conjunction_having
  have hother (c : Clause) (hc : c ≠ .filter) (hc' : c ≠ .having) : added c = added' c :=
    (h c).eq hc hc'
  cases start <;>
    simp [Query.ofClauses, Select.ofClauses, Update.ofClauses, Delete.ofClauses, hfilter, hhaving,
      hother]

/-! ## Calls that fail -/

-- No other call of these builders can fail.
theorem Update.edit_fails_iff (u : Update) (e : UpdateEdit) :
    (∃ fault, u.edit e = .error fault) ↔
      ∃ settings : Assignments, e = .set settings ∧ settings.isEmpty = true := by
  constructor
  · rintro ⟨fault, h⟩
    cases e with
    | set settings =>
      refine ⟨settings, rfl, ?_⟩
      by_contra hne
      rw [edit_set, if_neg hne] at h
      cases h
    | filter | returning | explain => cases h
  · rintro ⟨settings, rfl, hempty⟩
    refine ⟨.shape .emptyUpdate, ?_⟩
    rw [edit_set, if_pos hempty]

theorem Update.run_skip {e : UpdateEdit} (h : ∀ u : Update, ∃ fault, u.edit e = .error fault)
    (u : Update) (before after : List UpdateEdit) :
    u.run (before ++ e :: after) = u.run (before ++ after) := by
  obtain ⟨fault, hfault⟩ := h (u.run before)
  have hstep : ((u.run before).edit e).toOption.getD (u.run before) = u.run before := by
    rw [hfault]
    rfl
  unfold run at hstep ⊢
  rw [List.foldl_append, List.foldl_cons, hstep, List.foldl_append]

/-! ## Main statement -/

/-- The statement that a run of calls builds has each clause from the calls for that clause alone:
lists one after the other, predicates conjoined from the left, and of a limit, an offset or a
request to explain the last.  So runs with the same calls for each clause, in any interleaving,
build the same statement, and predicates may be given all at once.  The only calls that fail are
those that set nothing, and leaving them out of a run makes no difference. -/
theorem calls_mean_their_clauses :
    (∀ b : Building, b.query = Query.ofClauses b.added b.start) ∧
    (∀ b b' : Building, b.start = b'.start → (∀ c : Clause, c.Agree (b.added c) (b'.added c)) →
      b.query = b'.query) ∧
    ∀ e : UpdateEdit,
      (∀ u : Update, (∃ fault, u.edit e = .error fault) ↔
        ∃ settings : Assignments, e = .set settings ∧ settings.isEmpty = true) ∧
      ∀ u : Update, (∃ fault, u.edit e = .error fault) →
        ∀ (start : Update) (before after : List UpdateEdit),
          start.run (before ++ e :: after) = start.run (before ++ after) := by
  refine ⟨Building.query_eq_ofClauses, fun b b' hstart hagree => ?_, fun e => ⟨?_, ?_⟩⟩
  · rw [b.query_eq_ofClauses, b'.query_eq_ofClauses, hstart]
    exact Query.ofClauses_congr hagree b'.start
  · intro u
    exact u.edit_fails_iff e
  · intro u hfails start before after
    have hempty := (u.edit_fails_iff e).mp hfails
    exact Update.run_skip (fun u => (u.edit_fails_iff e).mpr hempty) start before after

-- Predicates among other calls, or all at once; and an update that is told to set nothing.
theorem calls_mean_their_clauses_interleaved :
    let person : List Source := [.table (.ofName "person") none]
    let adult : Expr := Predicate.compare "age" .gt (.value (.int 17))
    let named : Expr := Predicate.compare "name" .notEq (.value (.text ""))
    let b : Building := .select person
      [.filter (.expr adult), .limit 1, .orderBy "age" none, .filter (.expr named), .distinct,
        .select (.items ["name"]), .limit 2, .orderBy "name" none, .select (.items ["age"])]
    let b' : Building := .select person
      [.select (.items ["name"]), .select (.items ["age"]), .distinct,
        .filter (.expr (Predicate.all [adult, named])), .orderBy "age" none,
        .orderBy "name" none, .limit 1, .limit 2]
    let u : Update := .ofTable (.ofName "person")
    (b.start = b'.start ∧ (∀ c : Clause, c.Agree (b.added c) (b'.added c)) ∧ b.query = b'.query) ∧
      (∃ fault, u.edit (.set .empty) = .error fault) ∧
      u.run ([.filter (.expr adult)] ++ .set .empty :: [.filter (.expr named)]) =
        u.run ([.filter (.expr adult)] ++ [.filter (.expr named)]) := by
  intro person adult named b b' u
  have hagree : ∀ c : Clause, c.Agree (b.added c) (b'.added c) := by
    intro c
    cases c with
    | filter => exact .filter [adult, named] (by simp)
    | _ => exact .same _ _
  have hfails : ∃ fault, u.edit (.set .empty) = .error fault := ⟨_, rfl⟩
  exact ⟨⟨rfl, hagree, calls_mean_their_clauses.2.1 b b' rfl hagree⟩, hfails,
    (calls_mean_their_clauses.2.2 (.set .empty)).2 u hfails u _ _⟩

end SqlWeave
