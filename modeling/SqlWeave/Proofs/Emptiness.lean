import SqlWeave.Proofs.Conflicts
import SqlWeave.Proofs.Listing

/-!
# Lists that callers leave empty

Callers may give empty lists to most calls of a builder.  Nearly all of them leave no trace: the
clause is left out, something else is written for it, or the call or the compilation fails.  Only
what is given back and the columns of a conflict target are written as they are.  So a statement has
a clause without items exactly if all calls for one of these two name nothing.
-/

namespace SqlWeave

/-! ## Calls of any builder -/

/-- Lists are given, and all of them are empty. -/
def NameNothing {α : Type} (lists : List (List α)) : Prop :=
  lists ≠ [] ∧ ∀ list ∈ lists, list = []

theorem together_eq_some_nil_iff {α : Type} (lists : List (List α)) :
    together lists = some [] ↔ NameNothing lists := by
  cases lists with
  | nil => exact iff_of_false nofun fun h => h.1 rfl
  | cons list rest =>
    show some (list :: rest).flatten = some [] ↔ _
    rw [Option.some.injEq, List.flatten_eq_nil_iff]
    exact (and_iff_right (List.cons_ne_nil _ _)).symm

theorem eq_ok_of_toOption {ε α : Type} {x : Except ε α} {a : α} (h : x.toOption = some a) :
    x = .ok a := by
  cases x with
  | error e => exact nomatch h
  | ok b => exact congrArg Except.ok (Option.some.inj h)

namespace InsertEdit

/-- The selections that the call adds to what is given back. -/
def returned? : InsertEdit → Option (List Expr)
  | .returning call => some call.listed
  | _ => none

/-- The updates for duplicates that the call gives, if it asks for them and succeeds. -/
def duplicates? : InsertEdit → Option (List ColumnUpdate)
  | .onDuplicateKeyUpdate updates => updates.updates.toOption
  | _ => none

/-- The calls that describe the target of the clause which the call gives, if it asks for one and
succeeds. -/
def describing? : InsertEdit → Option (List ConflictEdit)
  | .onConflict edits choice => (Conflict.ofCalls edits choice).toOption.map fun _ => edits
  | _ => none

end InsertEdit

/-- The calls that are made to build a statement of any kind. -/
inductive Calls where
  | building (b : Building)
  | insert (into : Table) (calls : List InsertEdit)

namespace Calls

def query : Calls → Query
  | .building b => b.query
  | .insert into calls => .insert ((Insert.ofTable into).run calls)

/-- The lists of what is to be given back, call by call. -/
def returned : Calls → List (List Expr)
  | .building b => b.added .returning
  | .insert _ calls => calls.filterMap InsertEdit.returned?

/-- The lists of columns that the target of the last conflict clause is made of. -/
def targeted : Calls → List (List String)
  | .building _ => []
  | .insert _ calls =>
    (ConflictTarget.latest ((calls.filterMap InsertEdit.describing?).getLast?.getD [])).filterMap
      ConflictEdit.columns?

end Calls

/-! ## Clauses of a run of calls -/

namespace Insert

-- A clause that each call either replaces or leaves alone is the one that was given last.
theorem run_last {β : Type} (clause : Insert → Option β) {given : InsertEdit → Option β}
    (h : ∀ i e, clause ((Insert.edit i e).toOption.getD i) = (given e).or (clause i)) (i : Insert)
    (calls : List InsertEdit) :
    clause (i.run calls) = (calls.filterMap given).getLast?.or (clause i) := by
  induction calls generalizing i with
  | nil => rfl
  | cons e rest ih =>
    rw [getLast?_filterMap_cons, ← h]
    exact ih _

-- A call that fails changes nothing, and the others change at most one of these clauses.
theorem clauses_attempt (i : Insert) (e : InsertEdit) :
    let j := (i.edit e).toOption.getD i
    j.onConflict = e.conflict?.or i.onConflict ∧
      j.onDuplicateKey = e.duplicates?.or i.onDuplicateKey ∧
      j.returning = e.returned?.elim i.returning fun selections =>
        some (i.returning.getD [] ++ selections) := by
  cases e with
  | values rows =>
    rw [edit_values]
    cases rows.toSource i.fixedColumns <;> exact ⟨rfl, rfl, rfl⟩
  | columns names =>
    rw [edit]
    split <;> exact ⟨rfl, rfl, rfl⟩
  | onConflict edits choice =>
    rw [edit, InsertEdit.conflict?]
    cases Conflict.ofCalls edits choice <;> exact ⟨rfl, rfl, rfl⟩
  | onDuplicateKeyUpdate updates =>
    rw [edit, InsertEdit.duplicates?]
    cases updates.updates <;> exact ⟨rfl, rfl, rfl⟩
  | expression | defaultValues | ignore | replace | returning | explain => exact ⟨rfl, rfl, rfl⟩

theorem onConflict_run (into : Table) (calls : List InsertEdit) :
    ((Insert.ofTable into).run calls).onConflict =
      (calls.filterMap InsertEdit.conflict?).getLast? := by
  rw [run_last Insert.onConflict fun i e => (i.clauses_attempt e).1]
  exact Option.or_none

theorem onDuplicateKey_run (into : Table) (calls : List InsertEdit) :
    ((Insert.ofTable into).run calls).onDuplicateKey =
      (calls.filterMap InsertEdit.duplicates?).getLast? := by
  rw [run_last Insert.onDuplicateKey fun i e => (i.clauses_attempt e).2.1]
  exact Option.or_none

theorem returning_run (into : Table) (calls : List InsertEdit) :
    ((Insert.ofTable into).run calls).returning =
      together (calls.filterMap InsertEdit.returned?) := by
  induction calls using List.reverseRecOn with
  | nil => rfl
  | append_singleton calls e ih =>
    have hlast : (Insert.ofTable into).run (calls ++ [e]) =
        ((((Insert.ofTable into).run calls).edit e).toOption.getD
          ((Insert.ofTable into).run calls)) := run_append _ _ _
    rw [hlast, (clauses_attempt _ e).2.2, ih, filterMap_concat]
    cases e.returned? with
    | none => rw [Option.toList_none, List.append_nil, Option.elim_none]
    | some selections => rw [Option.toList_some, together_concat, Option.elim_some]

end Insert

theorem Assignments.ne_nil_of_updates {a : Assignments} {updates : List ColumnUpdate}
    (h : a.updates = .ok updates) : updates ≠ [] := by
  rw [Assignments.updates] at h
  split at h
  · cases h
  · next hne =>
    obtain rfl := Except.ok.inj h
    exact mt List.map_eq_nil_iff.mp (mt List.isEmpty_iff.mpr hne)

/-- The lists of an insert that no call can leave empty have items. -/
structure Insert.Filled (i : Insert) : Prop where
  aligned : i.IsAligned
  conflict : ∀ c, i.onConflict = some c →
    ∀ updates filter, c.action = .update updates filter → updates ≠ []
  duplicates : ∀ updates, i.onDuplicateKey = some updates → updates ≠ []

theorem Conflict.updates_ne_nil {edits : List ConflictEdit} {choice : ConflictChoice}
    {c : Conflict} (h : Conflict.ofCalls edits choice = .ok c) {updates : List ColumnUpdate}
    {filter : Option Expr} (haction : c.action = .update updates filter) : updates ≠ [] := by
  rw [ofCalls_eq] at h
  cases choice with
  | nothing =>
    rw [← Except.ok.inj h] at haction
    cases haction
  | update settings filters =>
    rw [ConflictChoice.chosen] at h
    split at h
    · cases h
    · next hne =>
      rw [← Except.ok.inj h] at haction
      obtain ⟨rfl, -⟩ := ConflictAction.update.inj haction
      exact mt List.map_eq_nil_iff.mp (mt List.isEmpty_iff.mpr hne)

theorem Insert.filled_run (into : Table) (calls : List InsertEdit) :
    ((Insert.ofTable into).run calls).Filled where
  aligned := isAligned_run into calls
  conflict c hc updates filter haction := by
    rw [onConflict_run] at hc
    obtain ⟨e, -, he⟩ := List.mem_filterMap.mp (List.mem_of_getLast? hc)
    cases e with
    | onConflict edits choice => exact Conflict.updates_ne_nil (eq_ok_of_toOption he) haction
    | _ => exact nomatch he
  duplicates updates hupdates := by
    rw [onDuplicateKey_run] at hupdates
    obtain ⟨e, -, he⟩ := List.mem_filterMap.mp (List.mem_of_getLast? hupdates)
    cases e with
    | onDuplicateKeyUpdate settings => exact Assignments.ne_nil_of_updates (eq_ok_of_toOption he)
    | _ => exact nomatch he

/-! ## Plugins -/

theorem Insert.Filled.rewrite {i : Insert} (r : Rewrite) (h : i.Filled) : (i.rewrite r).Filled where
  aligned := h.aligned.rewrite r
  conflict c hc updates filter haction := by
    obtain ⟨clause, hclause, rfl⟩ := Option.map_eq_some_iff.mp hc
    change clause.action.rewrite r = _ at haction
    cases hgiven : clause.action with
    | nothing =>
      rw [hgiven] at haction
      exact nomatch haction
    | update given narrowed =>
      rw [hgiven] at haction
      obtain ⟨rfl, -⟩ := ConflictAction.update.inj haction
      exact mt List.map_eq_nil_iff.mp (h.conflict clause hclause given narrowed hgiven)
  duplicates updates hupdates := by
    obtain ⟨given, hgiven, rfl⟩ := Option.map_eq_some_iff.mp hupdates
    exact mt List.map_eq_nil_iff.mp (h.duplicates given hgiven)

namespace Query

/-- What the conflict clause of a statement applies to, if it has one. -/
def conflictTarget : Query → Option ConflictTarget
  | .insert i => i.onConflict.map Conflict.target
  | _ => none

def Filled : Query → Prop
  | .insert i => i.Filled
  | _ => True

variable {r : Rewrite} {q : Query}

theorem Filled.rewrite (h : q.Filled) : (q.rewrite r).Filled := by
  cases q with
  | insert i => exact Insert.Filled.rewrite r h
  | select | update | delete => trivial

theorem returning_rewrite_eq_nil_iff :
    (q.rewrite r).returning = some [] ↔ q.returning = some [] := by
  have hrewrite : (q.rewrite r).returning = q.returning.map (Expr.rewriteList r) := by
    cases q <;> rfl
  rw [hrewrite]
  cases q.returning with
  | none => exact Iff.rfl
  | some selections => cases selections <;> simp

theorem conflictTarget_rewrite_eq_nil_iff :
    (q.rewrite r).conflictTarget = some (.columns []) ↔ q.conflictTarget = some (.columns []) := by
  have hrewrite : (q.rewrite r).conflictTarget =
      q.conflictTarget.map (ConflictTarget.rewrite r) := by
    cases q with
    | insert i =>
      show (i.onConflict.map (Conflict.rewrite r)).map Conflict.target =
        (i.onConflict.map Conflict.target).map (ConflictTarget.rewrite r)
      rw [Option.map_map, Option.map_map]
      rfl
    | select | update | delete => rfl
  rw [hrewrite]
  cases q.conflictTarget with
  | none => exact Iff.rfl
  | some t => cases t <;> simp [ConflictTarget.rewrite]

end Query

/-! ## Lists without items -/

section

variable {l : ListClause}

theorem empty_columns {kind : ListKind} {names : List String}
    (h : .list l ∈ Segment.ofColumns kind names) (hempty : l.items = []) :
    l.kind = kind ∧ names = [] := by
  rw [Segment.ofColumns, List.mem_cons, List.mem_singleton] at h
  rcases h with h | h
  · obtain rfl := Segment.list.inj h
    exact ⟨rfl, List.map_eq_nil_iff.mp hempty⟩
  · exact nomatch h

theorem items_ne_nil_of_ofUpdates {kind : ListKind} {opening : List Piece}
    {updates : List ColumnUpdate} (hne : updates ≠ [])
    (h : .list l = Segment.ofUpdates kind opening updates) : l.items ≠ [] := by
  obtain rfl := Segment.list.inj h
  exact mt List.map_eq_nil_iff.mp hne

theorem items_ne_nil_of_ofRows {columns : List String} {rows : List (List Expr)}
    (haligned : Aligned columns rows) (h : .list l ∈ Segment.ofRows rows) : l.items ≠ [] := by
  have hcells : ∀ row ∈ rows, Expr.piecesOfList row ≠ [] := by
    intro row hrow hnil
    rw [Expr.piecesOfList_eq_map, List.map_eq_nil_iff] at hnil
    have hlength := haligned.length_row row hrow
    rw [hnil] at hlength
    exact haligned.columns_ne_nil (List.length_eq_zero_iff.mp hlength.symm)
  cases rows with
  | nil => exact absurd rfl haligned.rows_ne_nil
  | cons row rest =>
    obtain ⟨hrow, hrest⟩ := List.forall_mem_cons.mp hcells
    simp only [Segment.ofRows, List.cons_append, List.mem_cons, List.mem_append, List.mem_map,
      reduceCtorEq, List.not_mem_nil, or_false] at h
    obtain h | ⟨other, hother, h⟩ := h
    · obtain rfl := Segment.list.inj h
      exact hrow
    · obtain rfl := Segment.list.inj h
      exact hrest other hother

theorem empty_returning {returning : Option (List Expr)}
    (h : .list l ∈ Segment.ofReturning returning) (hempty : l.items = []) :
    l.kind = .returning ∧ returning = some [] := by
  cases returning with
  | none => exact absurd h List.not_mem_nil
  | some selections =>
    obtain rfl := Segment.list.inj (List.mem_singleton.mp h)
    rw [Expr.piecesOfList_eq_map] at hempty
    exact ⟨rfl, congrArg some (List.map_eq_nil_iff.mp hempty)⟩

theorem Conflict.empty_target {c : Conflict}
    (hupdates : ∀ updates filter, c.action = .update updates filter → updates ≠ [])
    (h : .list l ∈ c.segments) (hempty : l.items = []) :
    l.kind = .conflictColumns ∧ c.target = .columns [] := by
  rw [segments, List.mem_append, List.mem_cons, List.mem_cons] at h
  rcases h with (h | htarget) | h | haction
  · cases h
  · cases ht : c.target with
    | columns names =>
      rw [ht] at htarget
      obtain ⟨hkind, rfl⟩ := empty_columns htarget hempty
      exact ⟨hkind, rfl⟩
    | unspecified | constraint | expr =>
      rw [ht] at htarget
      cases List.mem_singleton.mp htarget
  · cases h
  · cases ha : c.action with
    | nothing =>
      rw [ha] at haction
      cases List.mem_singleton.mp haction
    | update updates filter =>
      rw [ha, ConflictAction.segments, List.mem_cons, List.mem_singleton] at haction
      rcases haction with haction | haction
      · exact absurd hempty (items_ne_nil_of_ofUpdates (hupdates updates filter ha) haction)
      · cases haction

theorem Insert.items_ne_nil_of_sourceSegments {i : Insert} (haligned : i.IsAligned)
    (h : .list l ∈ i.sourceSegments) : l.items ≠ [] := by
  have hcolumns {column : String} {columns : List String}
      (h : .list l ∈ Segment.ofColumns .insertColumns (column :: columns)) : l.items ≠ [] :=
    fun hempty => nomatch (empty_columns h hempty).2
  unfold sourceSegments at h
  split at h
  · next rows column columns hsource _ =>
    obtain ⟨given, -, hrows⟩ := haligned rows hsource
    rcases List.mem_append.mp h with h | h
    · exact hcolumns h
    · rcases List.mem_cons.mp h with h | h
      · exact nomatch h
      · exact items_ne_nil_of_ofRows hrows h
  · rcases List.mem_append.mp h with h | h
    · exact hcolumns h
    · exact nomatch List.mem_singleton.mp h
  · exact nomatch List.mem_singleton.mp h

-- Of all clauses of a statement, these two alone can be without items.
theorem Query.empty_list {q : Query} (hfilled : q.Filled) (h : .list l ∈ q.segments)
    (hempty : l.items = []) :
    l.kind = .returning ∧ q.returning = some [] ∨
      l.kind = .conflictColumns ∧ q.conflictTarget = some (.columns []) := by
  cases q with
  | select s => exact absurd hempty (Select.items_ne_nil h)
  | insert i =>
    obtain ⟨haligned, hconflict, hduplicates⟩ : i.Filled := hfilled
    rw [segments, Insert.segments, List.mem_append, List.mem_append, List.mem_append,
      List.mem_cons] at h
    rcases h with (((h | hsource) | hclause) | hduplicate) | hreturning
    · cases h
    · exact absurd hempty (Insert.items_ne_nil_of_sourceSegments haligned hsource)
    · obtain ⟨c, hc, hclause⟩ := List.mem_flatMap.mp hclause
      have hgiven : i.onConflict = some c := Option.mem_toList.mp hc
      obtain ⟨hkind, htarget⟩ := Conflict.empty_target (hconflict c hgiven) hclause hempty
      refine .inr ⟨hkind, ?_⟩
      rw [conflictTarget, hgiven, Option.map_some, htarget]
    · obtain ⟨updates, hupdates, hduplicate⟩ := List.mem_map.mp hduplicate
      have hne := hduplicates updates (Option.mem_toList.mp hupdates)
      exact absurd hempty (items_ne_nil_of_ofUpdates hne hduplicate.symm)
    · exact .inl (empty_returning hreturning hempty)
  | update u =>
    rw [segments, Update.segments] at h
    split at h
    · cases List.mem_singleton.mp h
    · next hne =>
      rw [List.mem_cons, List.mem_cons, List.mem_cons] at h
      rcases h with h | hupdates | h | hreturning
      · cases h
      · exact absurd hempty (items_ne_nil_of_ofUpdates (mt List.isEmpty_iff.mpr hne) hupdates)
      · cases h
      · exact .inl (empty_returning hreturning hempty)
  | delete d =>
    rw [segments, Delete.segments, List.mem_cons] at h
    rcases h with h | hreturning
    · cases h
    · exact .inl (empty_returning hreturning hempty)

-- And these two are written as they are.
theorem Query.mem_segments_of_returning {q : Query} {selections : List Expr}
    (hset : ∀ u, q = .update u → u.updates ≠ []) (h : q.returning = some selections) :
    .list ⟨.returning, [.require .returning, .text " RETURNING "], Expr.piecesOfList selections⟩ ∈
      q.segments := by
  have hmem : .list ⟨.returning, [.require .returning, .text " RETURNING "],
      Expr.piecesOfList selections⟩ ∈ Segment.ofReturning q.returning := by
    rw [h]
    exact List.mem_cons_self
  cases q with
  | select s => exact nomatch h
  | insert i => exact List.mem_append_right _ hmem
  | update u =>
    rw [segments, Update.segments, if_neg (mt List.isEmpty_iff.mp (hset u rfl))]
    exact List.mem_cons_of_mem _ (List.mem_cons_of_mem _ (List.mem_cons_of_mem _ hmem))
  | delete d => exact List.mem_cons_of_mem _ hmem

theorem Query.mem_segments_of_conflictTarget {q : Query} {names : List String}
    (h : q.conflictTarget = some (.columns names)) :
    .list ⟨.conflictColumns, [.text " ("], names.map fun n => [.name n]⟩ ∈ q.segments := by
  cases q with
  | insert i =>
    obtain ⟨c, hc, htarget⟩ := Option.map_eq_some_iff.mp h
    have hmem : .list ⟨.conflictColumns, [.text " ("], names.map fun n => [.name n]⟩ ∈
        c.segments := by
      rw [Conflict.segments, htarget]
      exact List.mem_append_left _ (List.mem_cons_of_mem _ List.mem_cons_self)
    refine List.mem_append_left _ (List.mem_append_left _ (List.mem_append_right _ ?_))
    exact List.mem_flatMap.mpr ⟨c, Option.mem_toList.mpr hc, hmem⟩
  | select | update | delete => cases h

namespace Query

variable {q : Query}

theorem WritesList.without_items (h : q.WritesList l) (hfilled : q.Filled) (hempty : l.items = []) :
    l.kind = .returning ∧ q.returning = some [] ∨
      l.kind = .conflictColumns ∧ q.conflictTarget = some (.columns []) := by
  cases h with
  | own h => exact empty_list hfilled h hempty
  | inside x _ h => exact absurd hempty (Select.items_ne_nil h)

theorem returning_without_items_iff (hfilled : q.Filled)
    (hset : ∀ u, q = .update u → u.updates ≠ []) :
    (∃ l, q.WritesList l ∧ l.kind = .returning ∧ l.items = []) ↔ q.returning = some [] := by
  constructor
  · rintro ⟨l, hl, hkind, hempty⟩
    rcases hl.without_items hfilled hempty with ⟨-, h⟩ | ⟨hother, -⟩
    · exact h
    · exact nomatch hkind.symm.trans hother
  · exact fun h => ⟨_, .own (mem_segments_of_returning hset h), rfl, rfl⟩

theorem conflictColumns_without_items_iff (hfilled : q.Filled) :
    (∃ l, q.WritesList l ∧ l.kind = .conflictColumns ∧ l.items = []) ↔
      q.conflictTarget = some (.columns []) := by
  constructor
  · rintro ⟨l, hl, hkind, hempty⟩
    rcases hl.without_items hfilled hempty with ⟨hother, -⟩ | ⟨-, h⟩
    · exact nomatch hkind.symm.trans hother
    · exact h
  · exact fun h => ⟨_, .own (mem_segments_of_conflictTarget h), rfl, rfl⟩

end Query

end

/-! ## Statements after any calls -/

theorem ConflictTarget.ofCalls_eq_nil_iff (edits : List ConflictEdit) :
    ofCalls edits = .columns [] ↔
      NameNothing ((latest edits).filterMap ConflictEdit.columns?) := by
  rw [← together_eq_some_nil_iff, ofCalls]
  cases together ((latest edits).filterMap ConflictEdit.columns?) with
  | some names => rw [ConflictTarget.columns.injEq, Option.some.injEq]
  | none =>
    -- Without columns the target is a constraint, an expression or none at all.
    refine iff_of_false (fun h => ?_) nofun
    cases htarget : (edits.filterMap ConflictEdit.target?).getLast? with
    | none =>
      rw [htarget] at h
      exact nomatch h
    | some t =>
      obtain ⟨e, -, he⟩ := List.mem_filterMap.mp (List.mem_of_getLast? htarget)
      rw [htarget] at h
      change t = .columns [] at h
      rw [h] at he
      cases e <;> exact nomatch he

namespace Calls

theorem returning_query (c : Calls) : c.query.returning = together c.returned := by
  cases c with
  | building b =>
    show b.query.returning = together (b.added .returning)
    rw [b.query_eq_ofClauses]
    cases b with
    | select sources calls =>
      have hnone : Addition.collect (calls.map SelectEdit.addition) .returning = [] := by
        refine List.filterMap_eq_nil_iff.mpr (List.forall_mem_map.mpr fun e _ => ?_)
        cases e <;> rfl
      show none = together (Addition.collect (calls.map SelectEdit.addition) .returning)
      rw [hnone]
      rfl
    | update table calls => rfl
    | delete table calls => rfl
  | insert into calls => exact Insert.returning_run into calls

theorem filled_query (c : Calls) : c.query.Filled := by
  cases c with
  | building b => cases b <;> trivial
  | insert into calls => exact Insert.filled_run into calls

-- The target is made by the calls for the last clause.
theorem conflictTarget_query (into : Table) (calls : List InsertEdit) :
    (Calls.insert into calls).query.conflictTarget =
      (calls.filterMap InsertEdit.describing?).getLast?.map ConflictTarget.ofCalls := by
  have htargets : (calls.filterMap InsertEdit.conflict?).map Conflict.target =
      (calls.filterMap InsertEdit.describing?).map ConflictTarget.ofCalls := by
    rw [List.map_filterMap, List.map_filterMap]
    refine List.filterMap_congr fun e _ => ?_
    cases e with
    | onConflict edits choice =>
      show (Conflict.ofCalls edits choice).toOption.map Conflict.target =
        ((Conflict.ofCalls edits choice).toOption.map fun _ => edits).map ConflictTarget.ofCalls
      rw [Conflict.ofCalls_eq]
      cases choice.chosen <;> rfl
    | _ => rfl
  show ((Insert.ofTable into).run calls).onConflict.map Conflict.target = _
  rw [Insert.onConflict_run, ← List.getLast?_map, htargets, List.getLast?_map]

theorem conflictTarget_query_eq_nil_iff (c : Calls) :
    c.query.conflictTarget = some (.columns []) ↔ NameNothing c.targeted := by
  cases c with
  | building b => exact iff_of_false (by cases b <;> exact nofun) fun h => h.1 rfl
  | insert into calls =>
    rw [conflictTarget_query, targeted]
    cases (calls.filterMap InsertEdit.describing?).getLast? with
    | none => exact iff_of_false nofun fun h => h.1 rfl
    | some edits =>
      rw [Option.map_some, Option.some.injEq, Option.getD_some]
      exact ConflictTarget.ofCalls_eq_nil_iff edits

-- What the calls say about these two clauses holds of the rewritten statement as well.
theorem rewritten (c : Calls) {plugins : List Plugin} (hplugins : ∀ p ∈ plugins, p.BuiltIn) :
    let q := (Plugin.rewriteQuery plugins c.query).2
    q.Filled ∧ (q.returning = some [] ↔ NameNothing c.returned) ∧
      (q.conflictTarget = some (.columns []) ↔ NameNothing c.targeted) := by
  refine Plugin.rewriteQuery_induction (P := fun q => q.Filled ∧
    (q.returning = some [] ↔ NameNothing c.returned) ∧
    (q.conflictTarget = some (.columns []) ↔ NameNothing c.targeted)) ?_ hplugins ?_
  · rintro r q ⟨hfilled, hreturning, htarget⟩
    exact ⟨hfilled.rewrite, Query.returning_rewrite_eq_nil_iff.trans hreturning,
      Query.conflictTarget_rewrite_eq_nil_iff.trans htarget⟩
  · refine ⟨c.filled_query, ?_, c.conflictTarget_query_eq_nil_iff⟩
    rw [c.returning_query, together_eq_some_nil_iff]

end Calls

/-! ## Main statement -/

/-- Statements of any kind, after any calls of their builders and under the plugins of the library.
The clauses that are lists stand where they are written, in the statement or in a select inside it,
and each has an item, with two exceptions: `RETURNING` has none if there are calls for it and all of
them name nothing, and the columns of the conflict target are none if the last conflict clause has
calls for them, since its last constraint or expression, and all of these name nothing. -/
theorem lists_have_items_iff (c : Calls) {plugins : List Plugin}
    (hplugins : ∀ p ∈ plugins, p.BuiltIn) {d : Dialect} {sql : Sql}
    (hcompile : (Plugin.rewriteQuery plugins c.query).2.compile d = .ok sql) :
    let q := (Plugin.rewriteQuery plugins c.query).2
    q.rootPieces = q.explain.elim [] Explain.pieces ++ q.segments.flatMap Segment.pieces ∧
    (∀ l, q.WritesList l → ∃ before after, q.rootPieces = before ++ l.pieces ++ after) ∧
    (∀ l, q.WritesList l → l.items = [] → l.kind = .returning ∨ l.kind = .conflictColumns) ∧
    ((∃ l, q.WritesList l ∧ l.kind = .returning ∧ l.items = []) ↔ NameNothing c.returned) ∧
    ((∃ l, q.WritesList l ∧ l.kind = .conflictColumns ∧ l.items = []) ↔ NameNothing c.targeted) ∧
    ((∀ l, q.WritesList l → l.items ≠ []) ↔
      ¬NameNothing c.returned ∧ ¬NameNothing c.targeted) := by
  intro q
  obtain ⟨hfilled, hreturning, htarget⟩ := c.rewritten hplugins
  have hset : ∀ u, q = .update u → u.updates ≠ [] := by
    intro u hu hnone
    have hsql : q.compile d = .ok sql := hcompile
    rw [hu] at hsql
    exact Query.compile_of_no_updates hnone sql hsql
  have hreturns := (Query.returning_without_items_iff hfilled hset).trans hreturning
  have htargets := (Query.conflictColumns_without_items_iff hfilled).trans htarget
  refine ⟨?_, fun l hl => hl.exists_pieces, fun l hl hempty => ?_, hreturns, htargets, ?_⟩
  · rw [q.pieces_segments, Query.rootPieces_eq_append]
  · exact (hl.without_items hfilled hempty).imp And.left And.left
  · rw [← hreturns, ← htargets]
    constructor
    · intro hall
      constructor
      · rintro ⟨l, hl, -, hempty⟩
        exact hall l hl hempty
      · rintro ⟨l, hl, -, hempty⟩
        exact hall l hl hempty
    · rintro ⟨hreturned, htargeted⟩ l hl hempty
      rcases hl.without_items hfilled hempty with ⟨hkind, -⟩ | ⟨hkind, -⟩
      · exact hreturned ⟨l, hl, hkind, hempty⟩
      · exact htargeted ⟨l, hl, hkind, hempty⟩

-- Empty lists before others that are not.
theorem lists_have_items_iff_later_items :
    let c : Calls := .insert (.ofName "t")
      [.values (.single (OrderedMap.empty.insert "a" (.value .null))),
        .onConflict [.columns [], .columns ["id"]] .nothing,
        .returning (.items []), .returning .all]
    let q := (Plugin.rewriteQuery [.schema "app"] c.query).2
    (∀ p ∈ [Plugin.schema "app"], p.BuiltIn) ∧ (∃ sql, q.compile .postgres = .ok sql) ∧
      ∀ l, q.WritesList l → l.items ≠ [] := by
  intro c q
  have hplugins : ∀ p ∈ [Plugin.schema "app"], p.BuiltIn :=
    List.forall_mem_singleton.mpr (.schema "app")
  have hok : q.compile .postgres = .ok (Sql.ofSymbols .postgres (q.symbols .postgres)) :=
    Sql.ofPieces_eq_ok_iff.mpr ⟨rfl, rfl⟩
  obtain ⟨-, -, -, -, -, hall⟩ := lists_have_items_iff c hplugins hok
  refine ⟨hplugins, ⟨_, hok⟩, hall.mpr ⟨fun h => ?_, fun h => ?_⟩⟩
  · exact nomatch h.2 [.star none] (List.mem_cons_of_mem _ List.mem_cons_self)
  · exact nomatch h.2 ["id"] (List.mem_cons_of_mem _ List.mem_cons_self)

-- Empty lists that are all there is.
theorem lists_without_items :
    let t := Table.ofName "t"
    let pets : Calls := .building (.delete t [.returning (.items [])])
    let owners : Calls := .insert t [.onConflict [.columns []] .nothing]
    (∃ sql, pets.query.compile .postgres = .ok sql ∧
      sql.text = "DELETE FROM \"t\" RETURNING " ∧
      ∃ l, pets.query.WritesList l ∧ l.kind = .returning ∧ l.items = []) ∧
    ∃ sql, owners.query.compile .postgres = .ok sql ∧
      sql.text = "INSERT INTO \"t\" DEFAULT VALUES ON CONFLICT () DO NOTHING" ∧
      ∃ l, owners.query.WritesList l ∧ l.kind = .conflictColumns ∧ l.items = [] := by
  intro t pets owners
  constructor
  · have hok : pets.query.compile .postgres =
        .ok (Sql.ofSymbols .postgres (pets.query.symbols .postgres)) :=
      Sql.ofPieces_eq_ok_iff.mpr ⟨rfl, rfl⟩
    have hreturning : pets.query.returning = some [] := rfl
    exact ⟨_, hok, by decide,
      _, .own (Query.mem_segments_of_returning nofun hreturning), rfl, rfl⟩
  · have hok : owners.query.compile .postgres =
        .ok (Sql.ofSymbols .postgres (owners.query.symbols .postgres)) :=
      Sql.ofPieces_eq_ok_iff.mpr ⟨rfl, rfl⟩
    have htarget : owners.query.conflictTarget = some (.columns []) := rfl
    exact ⟨_, hok, by decide, _, .own (Query.mem_segments_of_conflictTarget htarget), rfl, rfl⟩

end SqlWeave
