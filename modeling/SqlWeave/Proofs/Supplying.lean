import SqlWeave.Proofs.Appending
import SqlWeave.Proofs.FixedColumns
import SqlWeave.Proofs.Tabulating

/-!
# What is written of rows and columns

Rows that are given to an insert are written one by one, and so are columns that it names, unless
the insert falls back on `DEFAULT VALUES`, which stands for a single row and for no column.  The
main statements say when it does: rows are lost when there are several and none of them has a
column, and columns are lost when they are named after the call that asked for the defaults.
-/

namespace SqlWeave

open InsertRows (allNames columnsOf under)
open SqlWeave.Symbol (ofString)

/-! ## Rows -/

/-- How many rows a source inserts by itself. -/
inductive InsertSource.Inserts : InsertSource → Nat → Prop
  | rows (lines : List (List Expr)) : Inserts (.rows lines) lines.length
  | defaults : Inserts .defaults 1

/-- How many rows are inserted by what stands after the table: those of a list below the columns, or
the one that has defaults only. -/
inductive RowClause (columns : List String) : List Piece → Nat → Prop
  | values (lines : List (List Expr)) :
      RowClause columns (columnList columns ++ .text " " :: rowsPieces lines) lines.length
  | defaults : RowClause columns Insert.defaultsClause 1

/-- The source inserts so many rows, and every insert that is compiled with it does too. -/
structure KeepsCount (columns : List String) (source : InsertSource) (n : Nat) : Prop where
  inserts : source.Inserts n
  compiled : ∀ (i : Insert) (d : Dialect) (sql : Sql), i.columns = some columns →
    i.source = some source → (Query.insert i).compile d = .ok sql →
      ∃ clause, RowClause columns clause n ∧
        sql = Sql.ofSymbols d ((i.opening ++ clause ++ i.closing).flatMap (Piece.symbols d))

theorem InsertRows.columnsOf_eq_nil_iff (rows : List Assignments) :
    columnsOf rows = [] ↔ allNames rows = [] := by
  rw [columnsOf, List.map_eq_nil_iff]
  cases allNames rows with
  | nil => simp [firstSeen]
  | cons name rest => simp [firstSeen]

-- There is no column when no row names one and none is fixed.
theorem InsertRows.columns_eq_nil_iff {values : InsertRows} {fixed : Option (List String)}
    {columns : List String} {source : InsertSource}
    (h : values.toSource fixed = .ok (columns, source)) :
    columns = [] ↔ allNames values.toList = [] ∧ fixed.getD [] = [] := by
  have hne := (toSource_ok h).1
  cases fixed with
  | none =>
    rw [toSource_none, if_neg hne] at h
    have hcolumns : (under (columnsOf values.toList) values.toList).1 = columns :=
      congrArg Prod.fst (Except.ok.inj h)
    rw [under_fst] at hcolumns
    rw [← hcolumns, columnsOf_eq_nil_iff]
    exact (and_iff_left rfl).symm
  | some names =>
    rw [toSource_some, if_neg hne] at h
    cases hfind : (allNames values.toList).find? (· ∉ names) with
    | some unknown => rw [hfind] at h; exact nomatch h
    | none =>
      rw [hfind] at h
      have hcolumns : (under names values.toList).1 = columns :=
        congrArg Prod.fst (Except.ok.inj h)
      rw [under_fst] at hcolumns
      subst hcolumns
      have hknown : ∀ name ∈ allNames values.toList, name ∈ names := by
        simpa using List.find?_eq_none.mp hfind
      refine (and_iff_right_of_imp fun hnil => ?_).symm
      change names = [] at hnil
      subst hnil
      exact List.eq_nil_iff_forall_not_mem.mpr fun name hname =>
        absurd (hknown name hname) List.not_mem_nil

theorem Insert.sourcePieces_of_defaults {i : Insert} (h : i.source = some .defaults) :
    i.sourcePieces = defaultsClause := by
  unfold sourcePieces
  rw [h]

theorem keepsCount_defaults (columns : List String) : KeepsCount columns .defaults 1 where
  inserts := .defaults
  compiled := by
    intro i d sql _ hsource hsql
    refine ⟨_, .defaults, ?_⟩
    rw [Query.eq_ofSymbols_of_compile hsql, Query.symbols, i.rootPieces_eq,
      Insert.sourcePieces_of_defaults hsource]

theorem keepsCount_rows {columns : List String} (hne : columns ≠ []) (lines : List (List Expr)) :
    KeepsCount columns (.rows lines) lines.length where
  inserts := .rows lines
  compiled := by
    intro i d sql hcolumns hsource hsql
    refine ⟨_, .values lines, ?_⟩
    rw [Query.eq_ofSymbols_of_compile hsql, Insert.symbols_of_rows hcolumns hne hsource]

/-- Rows keep their number, in the source and in every insert that is compiled with it, exactly when
there is one row or a column.  Several rows without any column are inserted as one. -/
theorem rows_keep_their_count_iff {values : InsertRows} {fixed : Option (List String)}
    {columns : List String} {source : InsertSource}
    (h : values.toSource fixed = .ok (columns, source)) :
    (KeepsCount columns source values.toList.length ↔
      values.toList.length = 1 ∨ allNames values.toList ≠ [] ∨ fixed.getD [] ≠ []) ∧
    (allNames values.toList = [] → fixed.getD [] = [] → KeepsCount columns source 1) := by
  obtain ⟨-, hunder⟩ := InsertRows.toSource_ok h
  have hnil := InsertRows.columns_eq_nil_iff h
  by_cases hcolumns : columns = []
  · subst hcolumns
    obtain ⟨hnames, hfixed⟩ := hnil.mp rfl
    cases (congrArg Prod.snd hunder : source = .defaults)
    refine ⟨⟨fun hkeeps => ?_, fun hone => ?_⟩, fun _ _ => keepsCount_defaults []⟩
    · generalize values.toList.length = n at hkeeps
      cases hkeeps.inserts
      exact .inl rfl
    · rcases hone with hone | hsome | hsome
      · rw [hone]
        exact keepsCount_defaults []
      · exact absurd hnames hsome
      · exact absurd hfixed hsome
  · have hsome : allNames values.toList ≠ [] ∨ fixed.getD [] ≠ [] := by
      rw [← not_and_or]
      exact mt hnil.mpr hcolumns
    rw [InsertRows.under_of_ne_nil hcolumns] at hunder
    cases (congrArg Prod.snd hunder : source = .rows _)
    have hkeeps := keepsCount_rows hcolumns (values.toList.map (InsertRows.cells columns))
    rw [List.length_map] at hkeeps
    exact ⟨iff_of_true hkeeps (.inr hsome), fun hnames hfixed => absurd (hnil.mpr ⟨hnames, hfixed⟩)
      hcolumns⟩

-- A second row without columns is no longer lost once the first row has one.
theorem rows_keep_their_count_beside_another :
    let rows := [OrderedMap.empty.insert "a" (Expr.value .null), .empty]
    let lines := [[Expr.value .null], [.defaultMarker]]
    (InsertRows.many rows).toSource none = .ok (["a"], .rows lines) ∧
      KeepsCount ["a"] (.rows lines) 2 := by
  intro rows lines
  have h : (InsertRows.many rows).toSource none = .ok (["a"], .rows lines) := rfl
  exact ⟨h, (rows_keep_their_count_iff h).1.mpr (.inr (.inl nofun))⟩

-- Two rows without columns become one row of defaults.
theorem empty_rows_become_one :
    (InsertRows.many [.empty, .empty]).toSource none = .ok ([], .defaults) ∧
      ¬KeepsCount [] .defaults 2 :=
  ⟨rfl, fun h => nomatch h.inserts⟩

/-! ## Columns -/

theorem Piece.flatMap_symbols_nameList (d : Dialect) (names : List String) :
    (nameList names).flatMap (symbols d) = ofString (", ".intercalate (names.map d.quoted)) := by
  induction names with
  | nil => rfl
  | cons name rest ih =>
    cases rest with
    | nil =>
      rw [List.map_singleton, String.intercalate_singleton]
      exact List.append_nil _
    | cons next rest =>
      have hsplit : nameList (name :: next :: rest) =
          .name name :: .text ", " :: nameList (next :: rest) := rfl
      rw [hsplit, List.flatMap_cons, List.flatMap_cons, ih, List.map_cons, List.map_cons,
        List.map_cons, String.intercalate_cons_cons, Symbol.ofString_append,
        Symbol.ofString_append, List.append_assoc]
      rfl

/-- Columns in parentheses, as they stand after a table. -/
def columnText (d : Dialect) (columns : List String) : String :=
  " (" ++ ", ".intercalate (columns.map d.quoted) ++ ")"

theorem ofPieces_columnList (d : Dialect) (columns : List String) :
    Sql.ofPieces d (columnList columns) = .ok ⟨columnText d columns, []⟩ := by
  have hsymbols : (columnList columns).flatMap (Piece.symbols d) =
      ofString (columnText d columns) := by
    rw [columnList, List.cons_append, List.flatMap_cons, List.flatMap_append,
      Piece.flatMap_symbols_nameList, columnText, Symbol.ofString_append, Symbol.ofString_append,
      List.append_assoc]
    rfl
  rw [Sql.ofPieces_eq, Piece.findSome?_failure, checks_columnList, hsymbols, Sql.ofSymbols_ofString]
  rfl

namespace Insert

/-- The columns stand in parentheses right after the table. -/
def NamesColumns (i : Insert) (d : Dialect) (columns : List String) (sql : Sql) : Prop :=
  ∃ head rest, Sql.ofPieces d i.opening = .ok head ∧
    sql.text = head.text ++ columnText d columns ++ rest

variable {i j : Insert} {d : Dialect} {sql : Sql} {columns : List String}

-- What a compiled insert has after the table.
theorem exists_text_of_compile {front rest : List Piece} (hsource : i.sourcePieces = front ++ rest)
    (hsql : (Query.insert i).compile d = .ok sql) :
    ∃ head written tail, Sql.ofPieces d i.opening = .ok head ∧
      Sql.ofPieces (d.shift head.params.length) front = .ok written ∧
      sql.text = head.text ++ written.text ++ tail := by
  have hpieces : (Query.insert i).rootPieces = i.opening ++ (front ++ (rest ++ i.closing)) := by
    rw [i.rootPieces_eq, hsource, List.append_assoc, List.append_assoc]
  rw [Query.compile, hpieces] at hsql
  obtain ⟨head, behind, hhead, hbehind, rfl⟩ := Sql.ofPieces_append_eq_ok_iff.mp hsql
  obtain ⟨written, tail, hwritten, -, rfl⟩ := Sql.ofPieces_append_eq_ok_iff.mp hbehind
  exact ⟨head, written, tail.text, hhead, hwritten, (String.append_assoc ..).symm⟩

theorem namesColumns_of_columnList {rest : List Piece}
    (hsource : i.sourcePieces = columnList columns ++ rest)
    (hsql : (Query.insert i).compile d = .ok sql) : i.NamesColumns d columns sql := by
  obtain ⟨head, written, tail, hhead, hwritten, htext⟩ := exists_text_of_compile hsource hsql
  rw [ofPieces_columnList] at hwritten
  cases hwritten
  exact ⟨head, tail, hhead, htext⟩

-- No list of columns begins like the clause for defaults.
theorem not_namesColumns_of_defaults (hsource : i.source = some .defaults)
    (hsql : (Query.insert i).compile d = .ok sql) : ¬i.NamesColumns d columns sql := by
  rintro ⟨head, rest, hhead, htext⟩
  have hpieces : i.sourcePieces = defaultsClause ++ [] := by
    rw [sourcePieces_of_defaults hsource, List.append_nil]
  obtain ⟨head', written, tail, hhead', hwritten, hdefaults⟩ := exists_text_of_compile hpieces hsql
  rw [hhead] at hhead'
  cases hhead'
  have hclause : written = ⟨" DEFAULT VALUES", []⟩ := by
    rw [(Sql.ofPieces_eq_ok_iff.mp hwritten).2, ← Sql.ofSymbols_ofString]
    rfl
  rw [htext, hclause, columnText] at hdefaults
  have hchars := congrArg String.toList hdefaults
  simp only [String.toList_append, List.append_assoc, List.append_cancel_left_eq] at hchars
  have hsecond := congrArg (fun cs : List Char => cs[1]?) hchars
  exact absurd hsecond (by simp)

theorem sourcePieces_of_columns (hcolumns : i.columns = some columns) (hne : columns ≠ [])
    (hsome : i.source ≠ none) (hdefaults : i.source ≠ some .defaults) :
    ∃ rest, i.sourcePieces = columnList columns ++ rest := by
  obtain ⟨column, others, rfl⟩ := List.exists_cons_of_ne_nil hne
  have hwritten : i.writtenColumns = column :: others := by rw [writtenColumns, hcolumns]; rfl
  unfold sourcePieces
  rw [hwritten]
  cases hsource : i.source with
  | none => exact absurd hsource hsome
  | some source =>
    cases source with
    | rows lines => exact ⟨_, rfl⟩
    | expr x => exact ⟨_, rfl⟩
    | defaults => exact absurd hsource hdefaults

theorem compile_ne_ok_of_no_source (hcolumns : i.columns = some columns) (hne : columns ≠ [])
    (hsource : i.source = none) : (Query.insert i).compile d ≠ .ok sql := by
  obtain ⟨column, others, rfl⟩ := List.exists_cons_of_ne_nil hne
  have hrefused : i.sourcePieces = [.refuse (.noSource i.into.name)] := by
    unfold sourcePieces writtenColumns
    rw [hsource, hcolumns]
    rfl
  intro hsql
  apply Query.not_refused_of_compile hsql (.noSource i.into.name)
  rw [i.rootPieces_eq, hrefused]
  exact List.mem_append_left _ (List.mem_append_right _ List.mem_cons_self)

/-! ## The call that gives the source -/

/-- A call that leaves a row of defaults as the source: it asks for one, or its rows set no column
and none is fixed. -/
def TurnsToDefaults (i : Insert) : InsertEdit → Prop
  | .defaultValues => True
  | .values rows => allNames rows.toList = [] ∧ i.fixedColumns.getD [] = []
  | _ => False

theorem source_eq_defaults_iff {e : InsertEdit} (h : i.edit e = .ok j)
    (he : e.givesSource = true) : j.source = some .defaults ↔ i.TurnsToDefaults e := by
  cases e with
  | values rows =>
    rw [edit_values] at h
    cases hsource : rows.toSource i.fixedColumns with
    | error fault => rw [hsource] at h; exact nomatch h
    | ok given =>
      obtain ⟨columns, source⟩ := given
      rw [hsource] at h
      cases h
      rw [TurnsToDefaults, ← InsertRows.columns_eq_nil_iff hsource, Option.some.injEq]
      have hunder := congrArg Prod.snd (InsertRows.toSource_ok hsource).2
      change source = _ at hunder
      rw [hunder]
      by_cases hcolumns : columns = []
      · subst hcolumns
        exact iff_of_true rfl rfl
      · rw [InsertRows.under_of_ne_nil hcolumns]
        exact iff_of_false nofun hcolumns
  | expression x =>
    cases h
    exact iff_of_false nofun id
  | defaultValues =>
    cases h
    exact iff_of_true rfl trivial
  | _ => exact Bool.noConfusion he

/-- The call is the last one of a run that gives a source, and leaves `j`. -/
structure LastSource (i : Insert) (edits before : List InsertEdit) (e : InsertEdit)
    (after : List InsertEdit) (j : Insert) : Prop where
  split : edits = before ++ e :: after
  made : (i.run before).edit e = .ok j
  gives : e.givesSource = true
  later : ∀ e' ∈ j.made after, e'.givesSource = false

theorem exists_lastSource (edits : List InsertEdit)
    (hgives : ∃ e ∈ i.made edits, e.givesSource = true) :
    ∃ before e after j, i.LastSource edits before e after j := by
  induction edits generalizing i with
  | nil =>
    obtain ⟨e, he, -⟩ := hgives
    exact absurd he List.not_mem_nil
  | cons e rest ih =>
    rw [Insert.made] at hgives
    cases h : i.edit e with
    | error fault =>
      rw [h] at hgives
      obtain ⟨before, e', after, j, rfl, hmade, he', hlater⟩ := ih hgives
      exact ⟨e :: before, e', after, j, rfl, by rw [run_cons_error h]; exact hmade, he', hlater⟩
    | ok j =>
      by_cases hrest : ∃ e' ∈ j.made rest, e'.givesSource = true
      · obtain ⟨before, e', after, k, rfl, hmade, he', hlater⟩ := ih hrest
        exact ⟨e :: before, e', after, k, rfl, by rw [run_cons_ok h]; exact hmade, he', hlater⟩
      · -- No later call gives a source, so this one does.
        have hlater : ∀ e' ∈ j.made rest, e'.givesSource = false := by
          simpa using hrest
        rw [h] at hgives
        obtain ⟨e', he', htrue⟩ := hgives
        obtain rfl | he' := List.mem_cons.mp he'
        · exact ⟨[], e', rest, j, rfl, h, htrue, hlater⟩
        · rw [hlater e' he'] at htrue
          exact Bool.noConfusion htrue

theorem source_run (edits : List InsertEdit)
    (hgives : ∀ e ∈ i.made edits, e.givesSource = false) : (i.run edits).source = i.source := by
  induction edits generalizing i with
  | nil => rfl
  | cons e rest ih =>
    rw [made] at hgives
    cases h : i.edit e with
    | error fault =>
      rw [h] at hgives
      rw [run_cons_error h]
      exact ih hgives
    | ok j =>
      rw [h] at hgives
      rw [List.forall_mem_cons] at hgives
      rw [run_cons_ok h, ih hgives.2]
      exact source_of_not_givesSource (change_of_edit h) hgives.1

theorem LastSource.source_run {edits before after : List InsertEdit} {e : InsertEdit}
    (h : i.LastSource edits before e after j) : (i.run edits).source = j.source := by
  rw [h.split, run_append, run_cons_ok h.made]
  exact Insert.source_run after h.later

/-- The last call of a run that gives a source leaves a row of defaults. -/
def EndsOnDefaults (i : Insert) (edits : List InsertEdit) : Prop :=
  ∃ before e after j, i.LastSource edits before e after j ∧ (i.run before).TurnsToDefaults e

theorem source_run_eq_defaults_iff (hi : i.source = none) (edits : List InsertEdit) :
    (i.run edits).source = some .defaults ↔ i.EndsOnDefaults edits := by
  constructor
  · intro hsource
    have hgives : ∃ e ∈ i.made edits, e.givesSource = true := by
      by_contra hnone
      rw [(source_run_eq_none_iff hi edits).mpr (by simpa using hnone)] at hsource
      exact nomatch hsource
    obtain ⟨before, e, after, j, hlast⟩ := exists_lastSource edits hgives
    rw [hlast.source_run, source_eq_defaults_iff hlast.made hlast.gives] at hsource
    exact ⟨before, e, after, j, hlast, hsource⟩
  · rintro ⟨before, e, after, j, hlast, hturns⟩
    rw [hlast.source_run, source_eq_defaults_iff hlast.made hlast.gives]
    exact hturns

/-! ## Main statement -/

/-- Columns that an insert names are written right after its table unless the last call that gave a
source left a row of defaults.  Without any source, the insert is refused. -/
theorem named_columns_are_written_iff (into : Table) (edits : List InsertEdit)
    (hcolumns : ((Insert.ofTable into).run edits).columns = some columns) (hne : columns ≠ []) :
    let i := (Insert.ofTable into).run edits
    (∀ d sql, (Query.insert i).compile d = .ok sql →
      (i.NamesColumns d columns sql ↔ ¬(Insert.ofTable into).EndsOnDefaults edits)) ∧
    ((∀ e ∈ (Insert.ofTable into).made edits, e.givesSource = false) →
      ∀ d, ∃ fault, (Query.insert i).compile d = .error fault) := by
  intro i
  constructor
  · intro d sql hsql
    rw [← source_run_eq_defaults_iff rfl edits]
    by_cases hdefaults : i.source = some .defaults
    · exact iff_of_false (not_namesColumns_of_defaults hdefaults hsql) (not_not_intro hdefaults)
    · have hsome : i.source ≠ none := fun hnone =>
        compile_ne_ok_of_no_source hcolumns hne hnone hsql
      obtain ⟨rest, hpieces⟩ := sourcePieces_of_columns hcolumns hne hsome hdefaults
      exact iff_of_true (namesColumns_of_columnList hpieces hsql) hdefaults
  · intro hgives d
    have hnone : i.source = none := (source_run_eq_none_iff rfl edits).mpr hgives
    cases hsql : (Query.insert i).compile d with
    | error fault => exact ⟨fault, rfl⟩
    | ok sql => exact absurd hsql (compile_ne_ok_of_no_source hcolumns hne hnone)

-- An expression that follows the defaults has the columns written again.
theorem named_columns_are_written_before_expression :
    let edits : List InsertEdit :=
      [.defaultValues, .columns ["a", "b"], .expression (.raw ["SELECT 1, 2"] []), .ignore]
    let i := (Insert.ofTable (.ofName "t")).run edits
    ∃ sql, (Query.insert i).compile .sqlite = .ok sql ∧ i.columns = some ["a", "b"] ∧
      i.NamesColumns .sqlite ["a", "b"] sql := by
  intro edits i
  have hok : (Query.insert i).compile .sqlite =
      .ok (Sql.ofSymbols .sqlite ((Query.insert i).symbols .sqlite)) :=
    Sql.ofPieces_eq_ok_iff.mpr ⟨rfl, rfl⟩
  have hcolumns : i.columns = some ["a", "b"] := rfl
  have hexpression : ¬(Insert.ofTable (.ofName "t")).EndsOnDefaults edits := by
    rw [← source_run_eq_defaults_iff rfl]
    exact nofun
  exact ⟨_, hok, hcolumns,
    ((named_columns_are_written_iff (.ofName "t") edits hcolumns nofun).1 _ _ hok).mpr hexpression⟩

-- Columns that follow the defaults are not written.
theorem columns_lost_after_defaults :
    let i := (Insert.ofTable (.ofName "t")).run [.defaultValues, .columns ["a"]]
    ∃ sql, i.columns = some ["a"] ∧ (Query.insert i).compile .postgres = .ok sql ∧
      sql.text = "INSERT INTO \"t\" DEFAULT VALUES" ∧ ¬i.NamesColumns .postgres ["a"] sql := by
  intro i
  have hok : (Query.insert i).compile .postgres =
      .ok (Sql.ofSymbols .postgres ((Query.insert i).symbols .postgres)) :=
    Sql.ofPieces_eq_ok_iff.mpr ⟨rfl, rfl⟩
  exact ⟨_, rfl, hok, by decide, not_namesColumns_of_defaults rfl hok⟩

end Insert

end SqlWeave
