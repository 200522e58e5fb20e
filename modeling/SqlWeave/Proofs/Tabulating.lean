import SqlWeave.Proofs.Inserting

/-!
# Rows under columns

The rows of an insert name columns each in its own order, and some leave columns out.  They become
lines of cells under common columns: columns are taken in the order in which the rows first name
them, unless they are fixed, and each cell holds what its row sets the column to.
-/

namespace SqlWeave

/-- The columns are the names without repetition, in the order in which they are first seen. -/
structure FirstSeen (names columns : List String) : Prop where
  mem_iff : ∀ name, name ∈ columns ↔ name ∈ names
  ordered : columns.Pairwise fun a b => names.idxOf a < names.idxOf b

/-- There is a line for each row and a cell for each column, in order.  A cell holds the value of
its row, or the marker for a default, and every value of a row stands in its line below its own
column. -/
structure Tabulates (rows : List Assignments) (columns : List String)
    (lines : List (List Expr)) : Prop where
  cells : List.Forall₂
    (fun row line => List.Forall₂
      (fun column cell => cell = (row.get? column).getD .defaultMarker) columns line)
    rows lines
  placed : ∀ row line, (row, line) ∈ rows.zip lines →
    ∀ name value, row.get? name = some value → (name, value) ∈ columns.zip line

theorem OrderedMap.mem_names_of_get? {α : Type} {m : OrderedMap α} {name : String} {value : α}
    (h : m.get? name = some value) : name ∈ m.names := by
  obtain ⟨before, after, hentries, -⟩ := List.lookup_eq_some_iff.mp h
  rw [names, hentries, List.map_append, List.map_cons]
  exact List.mem_append_right _ List.mem_cons_self

-- The names that are set have no blanks around them any more.
theorem Assignments.columnName_of_mem {settings : List (String × Expr)} {name : String}
    (h : name ∈ (ofSettings settings).names) : Shorthand.columnName name = name := by
  suffices hfold : ∀ a : Assignments, (∀ n ∈ a.names, Shorthand.columnName n = n) →
      ∀ n ∈ (settings.foldl (fun a setting => a.set setting.1 setting.2) a).names,
        Shorthand.columnName n = n from
    hfold .empty (fun n hn => absurd hn List.not_mem_nil) name h
  clear h
  induction settings with
  | nil => exact fun a ha => ha
  | cons setting rest ih =>
    intro a ha
    apply ih
    intro n hn
    change n ∈ (a.insert (Text.trim setting.1) setting.2).names at hn
    rw [OrderedMap.names_insert] at hn
    split at hn
    · exact ha n hn
    · rcases List.mem_append.mp hn with hn | hn
      · exact ha n hn
      · rw [List.mem_singleton.mp hn]
        exact Text.trim_idem setting.1

namespace InsertRows

/-! ## Columns -/

theorem mem_firstSeen_iff (names seen : List String) (name : String) :
    name ∈ firstSeen seen names ↔ name ∈ names ∧ name ∉ seen := by
  induction names generalizing seen with
  | nil => simp [firstSeen]
  | cons first rest ih =>
    rw [firstSeen]
    split
    · next hseen =>
      rw [ih, List.mem_cons]
      constructor
      · exact fun h => ⟨.inr h.1, h.2⟩
      · rintro ⟨rfl | hrest, hnot⟩
        · exact absurd hseen hnot
        · exact ⟨hrest, hnot⟩
    · next hnew =>
      rw [List.mem_cons, ih, List.mem_cons, List.mem_cons]
      by_cases hname : name = first
      · simp [hname, hnew]
      · simp [hname]

theorem firstSeen_ordered (names seen : List String) :
    (firstSeen seen names).Pairwise fun a b => names.idxOf a < names.idxOf b := by
  induction names generalizing seen with
  | nil => exact .nil
  | cons first rest ih =>
    -- Names that differ from the first one are found one place later than in the rest.
    have hlater : ∀ seen', first ∈ seen' →
        (firstSeen seen' rest).Pairwise
          fun a b => (first :: rest).idxOf a < (first :: rest).idxOf b := by
      intro seen' hfirst
      refine (ih seen').imp_of_mem fun {a b} ha hb hab => ?_
      have hne : ∀ {n}, n ∈ firstSeen seen' rest → first ≠ n := fun {n} hn heq =>
        ((mem_firstSeen_iff rest seen' n).mp hn).2 (heq ▸ hfirst)
      rw [List.idxOf_cons_ne _ (hne ha), List.idxOf_cons_ne _ (hne hb)]
      omega
    rw [firstSeen]
    split
    · next hseen => exact hlater seen hseen
    · next hnew =>
      refine List.pairwise_cons.mpr ⟨fun n hn => ?_, hlater _ List.mem_cons_self⟩
      have hne : first ≠ n := by
        rintro rfl
        exact ((mem_firstSeen_iff rest _ first).mp hn).2 List.mem_cons_self
      rw [List.idxOf_cons_self, List.idxOf_cons_ne _ hne]
      omega

theorem firstSeen_columnsOf {rows : List Assignments}
    (h : ∀ row ∈ rows, ∃ settings, row = Assignments.ofSettings settings) :
    FirstSeen (allNames rows) (columnsOf rows) := by
  have htrimmed : ∀ name ∈ firstSeen [] (allNames rows), Shorthand.columnName name = id name := by
    intro name hname
    have hall := ((mem_firstSeen_iff _ _ _).mp hname).1
    obtain ⟨row, hrow, hmem⟩ := List.mem_flatMap.mp hall
    obtain ⟨settings, rfl⟩ := h row hrow
    exact Assignments.columnName_of_mem hmem
  have hcolumns : columnsOf rows = firstSeen [] (allNames rows) := by
    rw [columnsOf, List.map_congr_left htrimmed, List.map_id]
  rw [hcolumns]
  constructor
  · intro name
    rw [mem_firstSeen_iff]
    exact and_iff_left List.not_mem_nil
  · exact firstSeen_ordered _ _

/-! ## Cells -/

theorem tabulates_cells {rows : List Assignments} {columns : List String}
    (h : ∀ row ∈ rows, ∀ name ∈ row.names, name ∈ columns) :
    Tabulates rows columns (rows.map (cells columns)) where
  cells := by
    rw [List.forall₂_map_right_iff, List.forall₂_same]
    intro row _
    rw [cells, List.forall₂_map_right_iff, List.forall₂_same]
    exact fun column _ => rfl
  placed := by
    intro row line hline name value hvalue
    rw [← List.map_prod_left_eq_zip] at hline
    obtain ⟨row, hrow, heq⟩ := List.mem_map.mp hline
    obtain ⟨rfl, rfl⟩ := Prod.mk.inj heq
    rw [cells, ← List.map_prod_left_eq_zip]
    refine List.mem_map.mpr ⟨name, h row hrow name (OrderedMap.mem_names_of_get? hvalue), ?_⟩
    rw [hvalue]
    rfl

theorem forall_names_iff {rows : List Assignments} {columns : List String} :
    (∀ name ∈ allNames rows, name ∈ columns) ↔ ∀ row ∈ rows, ∀ name ∈ row.names, name ∈ columns :=
  List.forall_mem_flatMap

theorem under_of_ne_nil {columns : List String} (h : columns ≠ []) (rows : List Assignments) :
    under columns rows = (columns, .rows (rows.map (cells columns))) := by
  rw [under, if_neg (mt List.isEmpty_iff.mp h)]

/-! ## Main statement -/

/-- Rows with a column at least lose nothing and gain nothing.  If columns are fixed, they stay as
they are, and what fails is a row that names another. -/
theorem rows_keep_their_data (values : InsertRows)
    (hbuilt : ∀ row ∈ values.toList, ∃ settings, row = Assignments.ofSettings settings)
    (hne : values.toList ≠ []) :
    (allNames values.toList ≠ [] →
      ∃ columns lines, values.toSource none = .ok (columns, .rows lines) ∧
        FirstSeen (allNames values.toList) columns ∧ Tabulates values.toList columns lines) ∧
    ∀ columns, allNames values.toList ≠ [] ∨ columns ≠ [] →
      ((∃ fault, values.toSource (some columns) = .error (.shape fault)) ↔
        ∃ row ∈ values.toList, ∃ name ∈ row.names, name ∉ columns) ∧
      ((∀ row ∈ values.toList, ∀ name ∈ row.names, name ∈ columns) →
        ∃ lines, values.toSource (some columns) = .ok (columns, .rows lines) ∧
          Tabulates values.toList columns lines) := by
  constructor
  · intro hnames
    have hseen := firstSeen_columnsOf hbuilt
    have hcolumns : columnsOf values.toList ≠ [] := by
      obtain ⟨name, hname⟩ := List.exists_mem_of_ne_nil _ hnames
      exact List.ne_nil_of_mem ((hseen.mem_iff name).mpr hname)
    refine ⟨columnsOf values.toList, _, ?_, hseen, tabulates_cells ?_⟩
    · rw [toSource_none, if_neg hne, under_of_ne_nil hcolumns]
    · exact forall_names_iff.mp fun name => (hseen.mem_iff name).mpr
  · intro columns hsome
    have hsource := values.toSource_some columns
    rw [if_neg hne] at hsource
    by_cases hknown : ∀ row ∈ values.toList, ∀ name ∈ row.names, name ∈ columns
    · -- There is a column: either it is fixed, or a row names it.
      have hcolumns : columns ≠ [] := by
        rcases hsome with hnames | hcolumns
        · obtain ⟨name, hname⟩ := List.exists_mem_of_ne_nil _ hnames
          exact List.ne_nil_of_mem (forall_names_iff.mpr hknown name hname)
        · exact hcolumns
      have hfind : (allNames values.toList).find? (· ∉ columns) = none := by
        rw [List.find?_eq_none]
        simpa using forall_names_iff.mpr hknown
      rw [hfind] at hsource
      change _ = Except.ok (under columns values.toList) at hsource
      rw [under_of_ne_nil hcolumns] at hsource
      refine ⟨?_, fun _ => ⟨_, hsource, tabulates_cells hknown⟩⟩
      rw [hsource]
      constructor
      · rintro ⟨fault, hfault⟩
        exact nomatch hfault
      · rintro ⟨row, hrow, name, hname, hnot⟩
        exact absurd (hknown row hrow name hname) hnot
    · refine ⟨?_, fun h => absurd h hknown⟩
      have hunknown : ∃ row ∈ values.toList, ∃ name ∈ row.names, name ∉ columns := by
        simpa using hknown
      refine iff_of_true ?_ hunknown
      obtain ⟨row, hrow, name, hname, hnot⟩ := hunknown
      cases hfind : (allNames values.toList).find? (· ∉ columns) with
      | some unknown =>
        rw [hfind] at hsource
        exact ⟨.unknownColumn unknown, hsource⟩
      | none =>
        have hall := List.find?_eq_none.mp hfind name (List.mem_flatMap.mpr ⟨row, hrow, hname⟩)
        exact absurd hnot (by simpa using hall)

-- The second row names the first one's column with blanks around it and brings another column.
theorem rows_keep_their_data_overlapping :
    let first := Assignments.ofSettings [("b", .value (.int 1)), ("a", .value (.int 2))]
    let second := Assignments.ofSettings [("c", .value (.int 3)), (" b ", .value (.int 4))]
    (∀ row ∈ [first, second], ∃ settings, row = Assignments.ofSettings settings) ∧
      ∃ lines,
        (InsertRows.many [first, second]).toSource none = .ok (["b", "a", "c"], .rows lines) ∧
        Tabulates [first, second] ["b", "a", "c"] lines ∧
        ∃ fault, (InsertRows.many [first, second]).toSource (some ["a", "b"]) =
          .error (.shape fault) := by
  intro first second
  have hbuilt : ∀ row ∈ [first, second], ∃ settings, row = Assignments.ofSettings settings := by
    rw [List.forall_mem_cons, List.forall_mem_singleton]
    exact ⟨⟨_, rfl⟩, ⟨_, rfl⟩⟩
  obtain ⟨hopen, hfixed⟩ := rows_keep_their_data (.many [first, second]) hbuilt nofun
  obtain ⟨columns, lines, hsource, -, htable⟩ := hopen (by decide)
  have hcolumns : columns = ["b", "a", "c"] := by
    cases hsource
    decide
  subst hcolumns
  refine ⟨hbuilt, lines, hsource, htable, (hfixed ["a", "b"] (.inr nofun)).1.mpr ?_⟩
  exact ⟨second, List.mem_cons_of_mem _ List.mem_cons_self, "c", by decide, by decide⟩

end InsertRows

end SqlWeave
