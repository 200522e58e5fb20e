import SqlWeave.Proofs.Inserting

/-!
# Columns that a caller fixes

Columns that are fixed before there is any source of rows bind the rows that come later.  Once an
insert has a source, its columns are taken for those of the source: the next rows bring their own.
So the columns that a caller fixes stay fixed exactly as long as no call gives a source.
-/

namespace SqlWeave.Insert

open InsertRows (allNames columnsOf under)

variable {i j : Insert} {e : InsertEdit}

/-- What columns that are fixed ask of a call of `values`: it fails when there are no rows or a row
names another column, and else it leaves exactly these columns. -/
def Respects (i : Insert) (columns : List String) (rows : InsertRows) : Prop :=
  match i.edit (.values rows) with
  | .error e =>
    (∃ fault, e = .shape fault) ∧ (rows.toList = [] ∨ ∃ name ∈ allNames rows.toList, name ∉ columns)
  | .ok j =>
    j.columns = some columns ∧ ¬(rows.toList = [] ∨ ∃ name ∈ allNames rows.toList, name ∉ columns)

/-! ## Runs without a source -/

theorem source_of_givesSource (h : Change i j e) (he : e.givesSource = true) :
    j.source.isSome = true := by
  cases h with
  | values rows columns hne hcolumns hsource => rw [hsource]; rfl
  | columns names => exact Bool.noConfusion he
  | expression x hcolumns hsource => rw [hsource]; rfl
  | defaultValues hcolumns hsource => rw [hsource]; rfl
  | other hgives => rw [hgives] at he; exact Bool.noConfusion he

theorem source_of_not_givesSource (h : Change i j e) (he : e.givesSource = false) :
    j.source = i.source := by
  cases h with
  | columns names hrows hcolumns hsource => exact hsource
  | other hgives hsets hcolumns hsource => exact hsource
  | _ => exact Bool.noConfusion he

theorem columns_of_other (h : Change i j e) (hgives : e.givesSource = false)
    (hsets : e.setsColumns = false) : j.columns = i.columns := by
  cases h with
  | columns names => exact Bool.noConfusion hsets
  | other _ _ hcolumns => exact hcolumns
  | _ => exact Bool.noConfusion hgives

-- An insert never loses its source.
theorem isSome_source_run (h : i.source.isSome = true) (edits : List InsertEdit) :
    (i.run edits).source.isSome = true := by
  refine run_induction (P := fun i => i.source.isSome = true) ?_ h edits
  intro i e j hchange hi
  cases he : e.givesSource with
  | true => exact source_of_givesSource hchange he
  | false => rw [source_of_not_givesSource hchange he]; exact hi

theorem source_run_eq_none_iff (hi : i.source = none) (edits : List InsertEdit) :
    (i.run edits).source = none ↔ ∀ e ∈ i.made edits, e.givesSource = false := by
  induction edits generalizing i with
  | nil => exact ⟨fun _ e he => absurd he List.not_mem_nil, fun _ => hi⟩
  | cons e rest ih =>
    rw [made]
    cases h : i.edit e with
    | error fault => rw [run_cons_error h]; exact ih hi
    | ok j =>
      rw [run_cons_ok h, List.forall_mem_cons]
      cases he : e.givesSource with
      | true =>
        have hsome := isSome_source_run (source_of_givesSource (change_of_edit h) he) rest
        constructor
        · intro hnone
          rw [hnone] at hsome
          exact Bool.noConfusion hsome
        · exact fun hall => Bool.noConfusion hall.1
      | false =>
        have hj : j.source = none := (source_of_not_givesSource (change_of_edit h) he).trans hi
        rw [ih hj]
        exact (and_iff_right rfl).symm

theorem columns_run (edits : List InsertEdit)
    (hgives : ∀ e ∈ i.made edits, e.givesSource = false)
    (hsets : ∀ e ∈ i.made edits, e.setsColumns = false) : (i.run edits).columns = i.columns := by
  induction edits generalizing i with
  | nil => rfl
  | cons e rest ih =>
    rw [made] at hgives hsets
    cases h : i.edit e with
    | error fault =>
      rw [h] at hgives hsets
      rw [run_cons_error h]
      exact ih hgives hsets
    | ok j =>
      rw [h] at hgives hsets
      rw [List.forall_mem_cons] at hgives hsets
      rw [run_cons_ok h, ih hgives.2 hsets.2]
      exact columns_of_other (change_of_edit h) hgives.1 hsets.1

/-! ## One call of `values` -/

-- Without a source, the columns bind the rows.
theorem respects_of_no_source {columns : List String} (hsource : i.source = none)
    (hcolumns : i.columns = some columns) (rows : InsertRows) : i.Respects columns rows := by
  have hfixed : i.fixedColumns = some columns := by rw [fixedColumns, hsource, hcolumns]
  unfold Respects
  rw [edit_values, hfixed, InsertRows.toSource_some]
  by_cases hrows : rows.toList = []
  · rw [if_pos hrows]
    exact ⟨⟨_, rfl⟩, .inl hrows⟩
  · rw [if_neg hrows]
    cases hfind : (allNames rows.toList).find? (· ∉ columns) with
    | some unknown =>
      have hunknown : unknown ∉ columns := by simpa using List.find?_some hfind
      exact ⟨⟨_, rfl⟩, .inr ⟨unknown, List.mem_of_find?_eq_some hfind, hunknown⟩⟩
    | none =>
      have hknown : ∀ name ∈ allNames rows.toList, name ∈ columns := by
        simpa using List.find?_eq_none.mp hfind
      refine ⟨congrArg some (InsertRows.under_fst columns rows.toList), ?_⟩
      rintro (h | ⟨name, hname, hnot⟩)
      · exact hrows h
      · exact hnot (hknown name hname)

-- With a source, the rows bring their own columns.
theorem respects_iff_of_source {columns : List String} (hsource : i.source.isSome = true)
    (rows : InsertRows) :
    i.Respects columns rows ↔
      rows.toList = [] ∨
        (∀ name ∈ allNames rows.toList, name ∈ columns) ∧ columnsOf rows.toList = columns := by
  have hfixed : i.fixedColumns = none := by
    obtain ⟨source, hs⟩ := Option.isSome_iff_exists.mp hsource
    rw [fixedColumns, hs]
  unfold Respects
  rw [edit_values, hfixed, InsertRows.toSource_none]
  by_cases hrows : rows.toList = []
  · rw [if_pos hrows]
    exact ⟨fun _ => .inl hrows, fun _ => ⟨⟨_, rfl⟩, .inl hrows⟩⟩
  · rw [if_neg hrows]
    show some (under _ rows.toList).1 = some columns ∧ _ ↔ _
    rw [InsertRows.under_fst, Option.some.injEq, or_iff_right hrows, or_iff_right hrows]
    simp only [not_exists, not_and, not_not]
    exact and_comm

theorem not_respects_of_source (hsource : i.source.isSome = true) (columns : List String) :
    ∃ rows, ¬i.Respects columns rows := by
  -- A row with a column that no one has fixed is taken all the same.
  obtain ⟨name, hfresh⟩ := Infinite.exists_notMem_finset columns.toFinset
  have hname : name ∉ columns := fun h => hfresh (List.mem_toFinset.mpr h)
  refine ⟨.single (OrderedMap.empty.insert name .defaultMarker), ?_⟩
  rw [respects_iff_of_source hsource]
  rintro (h | ⟨h, -⟩)
  · exact nomatch h
  · exact hname (h name List.mem_cons_self)

/-! ## Main statement -/

/-- Columns that a caller fixes bind all later rows exactly when no call of the run has given a
source.  If one has, only an empty list of rows and rows that set exactly these columns in this
order are treated as the fixed columns ask for. -/
theorem columns_stay_fixed (into : Table) {before between : List InsertEdit}
    {names : List String}
    (hcolumns : ((Insert.ofTable into).run before).edit (.columns names) = .ok i)
    (hsince : ∀ e ∈ i.made between, e.setsColumns = false) :
    let calls := before ++ .columns names :: between
    let columns := names.map Shorthand.columnName
    ((∀ rows, ((Insert.ofTable into).run calls).Respects columns rows) ↔
      ∀ e ∈ (Insert.ofTable into).made calls, e.givesSource = false) ∧
    ∀ rows, ((Insert.ofTable into).run calls).Respects columns rows ↔
      (∀ e ∈ (Insert.ofTable into).made calls, e.givesSource = false) ∨ rows.toList = [] ∨
        (∀ name ∈ allNames rows.toList, name ∈ columns) ∧ columnsOf rows.toList = columns := by
  intro calls columns
  have hlater : (Insert.ofTable into).run calls = i.run between := by
    rw [run_append, run_cons_ok hcolumns]
  have hnone := source_run_eq_none_iff (i := Insert.ofTable into) rfl calls
  by_cases hgives : ∀ e ∈ (Insert.ofTable into).made calls, e.givesSource = false
  · -- Nothing has changed the columns since, because only a source could have.
    have hbetween : ∀ e ∈ i.made between, e.givesSource = false := by
      intro e he
      apply hgives
      rw [made_append, made, hcolumns]
      exact List.mem_append_right _ (List.mem_cons_of_mem _ he)
    have hi : i.columns = some columns := by
      cases change_of_edit hcolumns with
      | columns _ _ hc => exact hc
      | other _ hsets => exact Bool.noConfusion hsets
    have hrespects : ∀ rows, ((Insert.ofTable into).run calls).Respects columns rows := by
      apply respects_of_no_source (hnone.mpr hgives)
      rw [hlater, columns_run between hbetween hsince, hi]
    exact ⟨⟨fun _ => hgives, fun _ => hrespects⟩,
      fun rows => ⟨fun _ => .inl hgives, fun _ => hrespects rows⟩⟩
  · have hsome : ((Insert.ofTable into).run calls).source.isSome = true :=
      Option.ne_none_iff_isSome.mp (mt hnone.mp hgives)
    refine ⟨⟨fun h => ?_, fun h => absurd h hgives⟩, fun rows => ?_⟩
    · obtain ⟨rows, hrows⟩ := not_respects_of_source hsome columns
      exact absurd (h rows) hrows
    · rw [respects_iff_of_source hsome, or_iff_right hgives]

-- A call that fails gives no source.
theorem columns_stay_fixed_failed_values :
    let stranger : InsertRows := .single (OrderedMap.empty.insert "c" (.value .null))
    let calls : List InsertEdit := [.ignore, .columns [" a ", "b"], .values stranger, .replace]
    ∀ rows, ((Insert.ofTable (.ofName "t")).run calls).Respects ["a", "b"] rows := by
  intro stranger calls
  have hcolumns : ((Insert.ofTable (.ofName "t")).run [.ignore]).edit (.columns [" a ", "b"]) =
      .ok { Insert.ofTable (.ofName "t") with columns := some ["a", "b"], ignore := true } := rfl
  have hsince : ∀ e ∈ Insert.made { Insert.ofTable (.ofName "t") with
      columns := some ["a", "b"], ignore := true } [.values stranger, .replace],
      e.setsColumns = false :=
    List.forall_mem_singleton.mpr rfl
  have hgives : ∀ e ∈ ([.ignore, .columns [" a ", "b"], .replace] : List InsertEdit),
      e.givesSource = false := by
    simp [InsertEdit.givesSource]
  exact (columns_stay_fixed (.ofName "t") hcolumns hsince).1.mpr hgives

-- An expression that gave the rows before makes the columns that follow it forgotten.
theorem columns_forgotten_after_expression :
    let rows : InsertRows := .single (OrderedMap.empty.insert "b" (.value .null))
    let i := (Insert.ofTable (.ofName "t")).run [.expression (.raw ["SELECT 1"] []), .columns ["a"]]
    i.columns = some ["a"] ∧ (i.run [.values rows]).columns = some ["b"] ∧
      ¬i.Respects ["a"] rows := by
  intro rows i
  refine ⟨rfl, rfl, fun h => ?_⟩
  have hcolumns : some ["b"] = some ["a"] := h.1
  exact absurd hcolumns (by decide)

end SqlWeave.Insert
