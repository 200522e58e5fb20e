import SqlWeave.Plugin
import SqlWeave.Proofs.Checking
import SqlWeave.Proofs.Inserting
import SqlWeave.Proofs.Rewriting

/-!
# Rows and columns of an insert

The columns and the source of rows are two fields of an insert.  Some calls set both and some only
one, and a rewriting maps them apart from each other.  Through all of this every row keeps one cell
for each column, and so the rows of an insert are always written.
-/

namespace SqlWeave

/-- There is something to insert, and every row has one cell for each column. -/
structure Aligned (columns : List String) (rows : List (List Expr)) : Prop where
  columns_ne_nil : columns ≠ []
  rows_ne_nil : rows ≠ []
  length_row : ∀ row ∈ rows, row.length = columns.length

namespace Insert

open InsertRows (under cells)

variable {i j : Insert} {e : InsertEdit} {columns : List String} {rows : List (List Expr)}

def IsAligned (i : Insert) : Prop :=
  ∀ rows, i.source = some (.rows rows) → ∃ columns, i.columns = some columns ∧ Aligned columns rows

theorem isAligned_of_source (h : ∀ rows, i.source ≠ some (.rows rows)) : i.IsAligned :=
  fun rows hrows => absurd hrows (h rows)

/-! ## Calls -/

theorem aligned_under {given : List Assignments} (hne : given ≠ [])
    (h : (under columns given).2 = .rows rows) : Aligned columns rows := by
  unfold under at h
  split at h
  · exact nomatch h
  · next hcolumns =>
    cases h
    constructor
    · exact mt List.isEmpty_iff.mpr hcolumns
    · exact mt List.map_eq_nil_iff.mp hne
    · intro row hrow
      obtain ⟨r, -, rfl⟩ := List.mem_map.mp hrow
      exact List.length_map _

theorem IsAligned.step (hchange : Change i j e) (hi : i.IsAligned) : j.IsAligned := by
  cases hchange with
  | values given columns hne hcolumns hsource =>
    intro rows hrows
    have hunder : (under columns given.toList).2 = .rows rows :=
      Option.some.inj (hsource.symm.trans hrows)
    exact ⟨columns, hcolumns, aligned_under hne hunder⟩
  | columns names hrows hcolumns hsource =>
    -- Columns alone are only set while the source is something else than rows.
    apply isAligned_of_source
    rw [hsource]
    exact hrows
  | expression x hcolumns hsource =>
    apply isAligned_of_source
    simp [hsource]
  | defaultValues hcolumns hsource =>
    apply isAligned_of_source
    simp [hsource]
  | other hgives hsets hcolumns hsource =>
    intro rows hrows
    rw [hsource] at hrows
    rw [hcolumns]
    exact hi rows hrows

theorem isAligned_run (into : Table) (edits : List InsertEdit) :
    ((Insert.ofTable into).run edits).IsAligned := by
  apply run_induction
  · intro i e j hchange hi
    exact hi.step hchange
  · exact isAligned_of_source (i := .ofTable into) nofun

end Insert

/-! ## Plugins -/

theorem Aligned.rewrite {columns : List String} {rows : List (List Expr)} (r : Rewrite)
    (h : Aligned columns rows) :
    Aligned (columns.map r.identifier) (rows.map (Expr.rewriteList r)) := by
  constructor
  · exact mt List.map_eq_nil_iff.mp h.columns_ne_nil
  · exact mt List.map_eq_nil_iff.mp h.rows_ne_nil
  · intro row hrow
    obtain ⟨row, hmem, rfl⟩ := List.mem_map.mp hrow
    rw [Expr.rewriteList_eq_map, List.length_map, List.length_map, h.length_row row hmem]

theorem Insert.IsAligned.rewrite {i : Insert} (r : Rewrite) (h : i.IsAligned) :
    (i.rewrite r).IsAligned := by
  intro rows hrows
  have hsource : i.source.map (InsertSource.rewrite r) = some (.rows rows) := hrows
  obtain ⟨source, hi, hrewrite⟩ := Option.map_eq_some_iff.mp hsource
  cases source with
  | rows given =>
    cases hrewrite
    obtain ⟨columns, hcolumns, haligned⟩ := h given hi
    have hnames : (i.rewrite r).columns = some (columns.map r.identifier) := by
      show i.columns.map (List.map r.identifier) = _
      rw [hcolumns]
      rfl
    exact ⟨_, hnames, haligned.rewrite r⟩
  | expr x => exact nomatch hrewrite
  | defaults => exact nomatch hrewrite

namespace Plugin

/-- The plugins that come with the library. -/
inductive BuiltIn : Plugin → Prop
  | schema (name : String) : BuiltIn (schema name)
  | camelCase (capitals : Bool) : BuiltIn (camelCase capitals)

theorem BuiltIn.exists_rewrite {p : Plugin} (h : p.BuiltIn) :
    ∃ r, p.onQuery = Query.rewrite r := by
  cases h with
  | schema name => exact ⟨_, rfl⟩
  | camelCase capitals => exact ⟨_, rfl⟩

-- What a rewriting preserves, a chain of plugins preserves.
theorem rewriteQuery_induction {P : Query → Prop} (hstep : ∀ r q, P q → P (q.rewrite r))
    {plugins : List Plugin} (hplugins : ∀ p ∈ plugins, p.BuiltIn) {q : Query} (hq : P q) :
    P (rewriteQuery plugins q).2 := by
  induction plugins generalizing q with
  | nil => exact hq
  | cons p rest ih =>
    obtain ⟨hp, hrest⟩ := List.forall_mem_cons.mp hplugins
    obtain ⟨r, hr⟩ := hp.exists_rewrite
    have hnext : P (p.onQuery q) := hr ▸ hstep r q hq
    exact ih hrest hnext

end Plugin

/-! ## The written statement -/

namespace Insert

variable {i : Insert} {columns : List String} {rows : List (List Expr)}

/-- What stands before the columns. -/
def opening (i : Insert) : List Piece :=
  (i.explain.toList.flatMap Explain.pieces) ++ .require .insert ::
    (if i.replace then [.require .replace, .text "REPLACE"] else [.text "INSERT"]) ++
    (if i.ignore then [.require .insertIgnore, .text " ", .ignoreKeyword] else []) ++
    .text " INTO " :: i.into.pieces

/-- What stands after the rows. -/
def closing (i : Insert) : List Piece :=
  (i.onConflict.toList.flatMap Conflict.pieces) ++
    (i.onDuplicateKey.toList.flatMap fun updates =>
      .require .onDuplicateKey :: .text " ON DUPLICATE KEY UPDATE " :: updateList updates) ++
    returningClause i.returning

theorem rootPieces_eq (i : Insert) :
    (Query.insert i).rootPieces = i.opening ++ i.sourcePieces ++ i.closing := by
  have hroot : (Query.insert i).rootPieces =
      i.explain.toList.flatMap Explain.pieces ++ i.pieces := by
    rw [Query.rootPieces_eq_append]
    show i.explain.elim [] Explain.pieces ++ i.pieces = _
    cases i.explain <;> simp
  rw [hroot]
  unfold Insert.pieces opening closing
  cases i.onConflict <;> cases i.onDuplicateKey <;> simp

theorem sourcePieces_of_rows (hcolumns : i.columns = some columns) (hne : columns ≠ [])
    (hsource : i.source = some (.rows rows)) :
    i.sourcePieces = columnList columns ++ .text " " :: rowsPieces rows := by
  obtain ⟨column, rest, rfl⟩ := List.exists_cons_of_ne_nil hne
  unfold sourcePieces writtenColumns
  rw [hcolumns, hsource]
  rfl

theorem symbols_of_rows (hcolumns : i.columns = some columns) (hne : columns ≠ [])
    (hsource : i.source = some (.rows rows)) (d : Dialect) :
    (Query.insert i).symbols d =
      (i.opening ++ (columnList columns ++ .text " " :: rowsPieces rows) ++ i.closing).flatMap
        (Piece.symbols d) := by
  rw [Query.symbols, i.rootPieces_eq, sourcePieces_of_rows hcolumns hne hsource]

/-! ## No row of defaults -/

@[simp] theorem defaultValues_notMem_constructs (e : Expr) :
    Construct.defaultValues ∉ e.constructs :=
  fun h => e.isInner_constructs _ h

@[simp] theorem defaultValues_notMem_constructsOfOption (o : Option Expr) :
    Construct.defaultValues ∉ Expr.constructsOfOption o := by
  cases o with
  | none => exact List.not_mem_nil
  | some e => exact defaultValues_notMem_constructs e

@[simp] theorem defaultValues_notMem_updateConstructs (updates : List ColumnUpdate) :
    Construct.defaultValues ∉ updateConstructs updates := by
  simp [updateConstructs]

@[simp] theorem defaultValues_notMem_returningConstructs (returning : Option (List Expr)) :
    Construct.defaultValues ∉ returningConstructs returning := by
  cases returning <;> simp [returningConstructs]

@[simp] theorem defaultValues_notMem_conflict (c : Conflict) :
    Construct.defaultValues ∉ c.constructs := by
  obtain ⟨target, indexFilter, action⟩ := c
  cases target <;> cases action <;>
    simp [Conflict.constructs, ConflictTarget.constructs, ConflictAction.constructs]

theorem defaultValues_mem_constructs (i : Insert) :
    Construct.defaultValues ∈ (Query.insert i).constructs ↔
      .support .defaultValues ∈ i.sourceChecks := by
  rw [← Query.support_mem_checks]
  unfold Query.checks Query.ownChecks Insert.checks
  cases i.replace <;> cases i.ignore <;> simp [Explain.constructs]

theorem constructs_of_rows (hcolumns : i.columns = some columns) (hne : columns ≠ [])
    (hsource : i.source = some (.rows rows)) :
    Construct.values ∈ (Query.insert i).constructs ∧
      Construct.defaultValues ∉ (Query.insert i).constructs := by
  have hsourceChecks : i.sourceChecks = .support .values ::
      (rows.flatMap fun row => row.flatMap Expr.constructs).map .support := by
    unfold sourceChecks writtenColumns
    rw [hsource, hcolumns]
    exact if_neg hne
  constructor
  · rw [← Query.support_mem_checks]
    unfold Query.checks Query.ownChecks Insert.checks
    simp [hsourceChecks]
  · rw [defaultValues_mem_constructs, hsourceChecks]
    simp

/-! ## Main statement -/

/-- However an insert is built, and whatever plugins of the library rewrite it, it is still an
insert whose rows have one cell for each column, and compiling it writes the columns and every
row. -/
theorem rows_stay_aligned (into : Table) (edits : List InsertEdit) {plugins : List Plugin}
    (hplugins : ∀ p ∈ plugins, p.BuiltIn) :
    ∃ i, (Plugin.rewriteQuery plugins (.insert ((Insert.ofTable into).run edits))).2 = .insert i ∧
      ∀ rows, i.source = some (.rows rows) →
        ∃ columns, i.columns = some columns ∧ Aligned columns rows ∧
          ∀ d sql, (Query.insert i).compile d = .ok sql →
            sql = Sql.ofSymbols d
              ((i.opening ++ (columnList columns ++ .text " " :: rowsPieces rows) ++
                i.closing).flatMap (Piece.symbols d)) ∧
              Construct.values ∈ (Query.insert i).constructs ∧
              Construct.defaultValues ∉ (Query.insert i).constructs := by
  have hrewritten : ∃ i, (Plugin.rewriteQuery plugins
      (.insert ((Insert.ofTable into).run edits))).2 = .insert i ∧ i.IsAligned := by
    refine Plugin.rewriteQuery_induction (P := fun q => ∃ i, q = .insert i ∧ i.IsAligned) ?_
      hplugins ⟨_, rfl, isAligned_run into edits⟩
    rintro r _ ⟨i, rfl, hi⟩
    exact ⟨i.rewrite r, rfl, hi.rewrite r⟩
  obtain ⟨i, heq, hi⟩ := hrewritten
  refine ⟨i, heq, fun rows hsource => ?_⟩
  obtain ⟨columns, hcolumns, haligned⟩ := hi rows hsource
  refine ⟨columns, hcolumns, haligned, fun d sql hsql => ⟨?_, ?_⟩⟩
  · rw [Query.eq_ofSymbols_of_compile hsql,
      symbols_of_rows hcolumns haligned.columns_ne_nil hsource]
  · exact constructs_of_rows hcolumns haligned.columns_ne_nil hsource

-- Columns that come after the rows fail, and the plugins map both alike.
theorem rows_stay_aligned_schema_camelCase :
    let row : Assignments :=
      (OrderedMap.empty.insert "firstName" (.value .null)).insert "b" .defaultMarker
    let edits : List InsertEdit := [.values (.many [row, row]), .columns ["c"], .returning .all]
    let plugins := [Plugin.schema "app", Plugin.camelCase false]
    (∀ p ∈ plugins, p.BuiltIn) ∧
      ∃ i columns sql, (Plugin.rewriteQuery plugins
          (.insert ((Insert.ofTable (.ofName "t")).run edits))).2 = .insert i ∧
        i.columns = some columns ∧
        Aligned columns [[.value .null, .defaultMarker], [.value .null, .defaultMarker]] ∧
        (Query.insert i).compile .postgres = .ok sql ∧
        sql.text = "INSERT INTO \"app\".\"t\" (\"first_name\", \"b\") VALUES " ++
          "($1, DEFAULT), ($2, DEFAULT) RETURNING *" := by
  intro row edits plugins
  have hplugins : ∀ p ∈ plugins, p.BuiltIn := by
    simp only [plugins, List.forall_mem_cons]
    exact ⟨.schema _, .camelCase _, List.forall_mem_nil _⟩
  obtain ⟨i, heq, hrows⟩ := rows_stay_aligned (.ofName "t") edits hplugins
  have hsource : i.source =
      some (.rows [[.value .null, .defaultMarker], [.value .null, .defaultMarker]]) := by
    cases heq
    rfl
  obtain ⟨columns, hcolumns, haligned, hwritten⟩ := hrows _ hsource
  have hrewritten : i =
      { Insert.ofTable ⟨some (Plugin.snake false "app"), Plugin.snake false "t"⟩ with
        columns := some [Plugin.snake false "firstName", Plugin.snake false "b"]
        source := some (.rows [[.value .null, .defaultMarker], [.value .null, .defaultMarker]])
        returning := some [.star none] } := by
    cases heq
    rfl
  have hnames : Plugin.snake false "app" = "app" ∧ Plugin.snake false "t" = "t" ∧
      Plugin.snake false "firstName" = "first_name" ∧ Plugin.snake false "b" = "b" := by
    decide +kernel
  obtain ⟨happ, ht, hfirst, hb⟩ := hnames
  rw [happ, ht, hfirst, hb] at hrewritten
  have hok : (Query.insert i).compile .postgres =
      .ok (Sql.ofSymbols .postgres ((Query.insert i).symbols .postgres)) := by
    rw [hrewritten]
    exact Sql.ofPieces_eq_ok_iff.mpr ⟨rfl, rfl⟩
  refine ⟨hplugins, i, columns, _, heq, hcolumns, haligned, hok, ?_⟩
  obtain rfl : ["first_name", "b"] = columns := by
    rw [hrewritten] at hcolumns
    exact Option.some.inj hcolumns
  rw [(hwritten _ _ hok).1, hrewritten]
  decide +kernel

end Insert

end SqlWeave
