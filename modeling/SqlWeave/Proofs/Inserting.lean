import Mathlib
import SqlWeave.Builder.Insert

/-!
# The calls of an insert

What one call does to the columns and to the source of an insert (`Insert.change_of_edit`), and
which calls of a run succeed.  Everything else about runs of calls is derived from the cases of one
call.
-/

namespace SqlWeave

namespace InsertRows

/-- The columns and the source that rows give under columns that are known. -/
def under (columns : List String) (rows : List Assignments) : List String × InsertSource :=
  if columns.isEmpty then ([], .defaults) else (columns, .rows (rows.map (cells columns)))

theorem under_fst (columns : List String) (rows : List Assignments) :
    (under columns rows).1 = columns := by
  unfold under
  split
  · next h => exact (List.isEmpty_iff.mp h).symm
  · rfl

theorem toSource_none (rows : InsertRows) :
    rows.toSource none =
      if rows.toList = [] then .error (.shape .noRows)
      else .ok (under (columnsOf rows.toList) rows.toList) := by
  unfold toSource under
  by_cases h : rows.toList = []
  · rw [if_pos h, if_pos (List.isEmpty_iff.mpr h)]
    rfl
  · rw [if_neg h, if_neg (mt List.isEmpty_iff.mp h)]
    show (if (columnsOf rows.toList).isEmpty then pure _ else pure _) = _
    split <;> rfl

theorem toSource_some (rows : InsertRows) (columns : List String) :
    rows.toSource (some columns) =
      if rows.toList = [] then .error (.shape .noRows)
      else
        match (allNames rows.toList).find? (· ∉ columns) with
        | some unknown => .error (.shape (.unknownColumn unknown))
        | none => .ok (under columns rows.toList) := by
  unfold toSource under
  by_cases h : rows.toList = []
  · rw [if_pos h, if_pos (List.isEmpty_iff.mpr h)]
    rfl
  · rw [if_neg h, if_neg (mt List.isEmpty_iff.mp h)]
    cases hfind : (allNames rows.toList).find? (· ∉ columns) with
    | some unknown =>
      simp only [hfind]
      rfl
    | none =>
      simp only [hfind]
      show (if columns.isEmpty then pure _ else pure _) = _
      split <;> rfl

theorem toSource_ok {rows : InsertRows} {fixed : Option (List String)} {columns : List String}
    {source : InsertSource} (h : rows.toSource fixed = .ok (columns, source)) :
    rows.toList ≠ [] ∧ (columns, source) = under columns rows.toList := by
  have hunder : ∀ {known : List String},
      Except.ok (under known rows.toList) = Except.ok (ε := QueryError) (columns, source) →
        (columns, source) = under columns rows.toList := by
    intro known hknown
    have heq := Except.ok.inj hknown
    have hcolumns : known = columns := by rw [← under_fst known rows.toList, heq]
    rw [← heq, hcolumns]
  cases fixed with
  | none =>
    rw [toSource_none] at h
    split at h
    · exact nomatch h
    · next hne => exact ⟨hne, hunder h⟩
  | some known =>
    rw [toSource_some] at h
    split at h
    · exact nomatch h
    · next hne =>
      split at h
      · exact nomatch h
      · exact ⟨hne, hunder h⟩

end InsertRows

namespace InsertEdit

/-- Whether the call says where the rows come from. -/
def givesSource : InsertEdit → Bool
  | .values _ | .expression _ | .defaultValues => true
  | _ => false

/-- Whether the call sets the columns by itself. -/
def setsColumns : InsertEdit → Bool
  | .columns _ | .defaultValues => true
  | _ => false

end InsertEdit

namespace Insert

open InsertRows (under columnsOf)

variable {i j : Insert} {e : InsertEdit}

/-! ## One call -/

theorem edit_values (i : Insert) (rows : InsertRows) :
    i.edit (.values rows) =
      match rows.toSource i.fixedColumns with
      | .ok (columns, source) => .ok { i with columns := some columns, source := some source }
      | .error e => .error e := by
  rw [edit]
  cases rows.toSource i.fixedColumns <;> rfl

/-- What a call that succeeds does to the columns and to the source. -/
inductive Change (i j : Insert) : InsertEdit → Prop
  | values (rows : InsertRows) (columns : List String) (hne : rows.toList ≠ [])
      (hcolumns : j.columns = some columns)
      (hsource : j.source = some (under columns rows.toList).2) : Change i j (.values rows)
  | columns (names : List String) (hrows : ∀ cells, i.source ≠ some (.rows cells))
      (hcolumns : j.columns = some (names.map Shorthand.columnName))
      (hsource : j.source = i.source) : Change i j (.columns names)
  | expression (x : Expr) (hcolumns : j.columns = i.columns)
      (hsource : j.source = some (.expr x)) : Change i j (.expression x)
  | defaultValues (hcolumns : j.columns = some []) (hsource : j.source = some .defaults) :
      Change i j .defaultValues
  /-- All other calls leave both as they are. -/
  | other {e : InsertEdit} (hgives : e.givesSource = false) (hsets : e.setsColumns = false)
      (hcolumns : j.columns = i.columns) (hsource : j.source = i.source) : Change i j e

theorem change_of_edit (h : i.edit e = .ok j) : Change i j e := by
  cases e with
  | values rows =>
    rw [edit_values] at h
    split at h
    · next columns source hsource =>
      obtain ⟨hne, hunder⟩ := InsertRows.toSource_ok hsource
      rw [← Except.ok.inj h]
      exact .values rows columns hne rfl (congrArg (fun s => some s.2) hunder)
    · exact nomatch h
  | columns names =>
    rw [edit] at h
    split at h
    · exact nomatch h
    · next hrows =>
      rw [← Except.ok.inj h]
      exact .columns names hrows rfl rfl
  | expression x =>
    rw [← Except.ok.inj h]
    exact .expression x rfl rfl
  | defaultValues =>
    rw [← Except.ok.inj h]
    exact .defaultValues rfl rfl
  | onConflict edits choice =>
    rw [edit] at h
    cases hclause : Conflict.ofCalls edits choice with
    | ok clause =>
      rw [hclause] at h
      rw [← Except.ok.inj h]
      exact .other rfl rfl rfl rfl
    | error fault =>
      rw [hclause] at h
      exact nomatch h
  | onDuplicateKeyUpdate updates =>
    rw [edit] at h
    cases hupdates : updates.updates with
    | ok list =>
      rw [hupdates] at h
      rw [← Except.ok.inj h]
      exact .other rfl rfl rfl rfl
    | error fault =>
      rw [hupdates] at h
      exact nomatch h
  | ignore | replace | returning call | explain request =>
    rw [← Except.ok.inj h]
    exact .other rfl rfl rfl rfl

/-! ## Runs of calls -/

/-- The calls of a run that succeed. -/
def made (i : Insert) : List InsertEdit → List InsertEdit
  | [] => []
  | e :: rest =>
    match i.edit e with
    | .ok j => e :: j.made rest
    | .error _ => i.made rest

theorem run_cons_ok (h : i.edit e = .ok j) (rest : List InsertEdit) :
    i.run (e :: rest) = j.run rest := by
  show rest.foldl _ ((i.edit e).toOption.getD i) = _
  rw [h]
  rfl

theorem run_cons_error {fault : QueryError} (h : i.edit e = .error fault)
    (rest : List InsertEdit) : i.run (e :: rest) = i.run rest := by
  show rest.foldl _ ((i.edit e).toOption.getD i) = _
  rw [h]
  rfl

theorem run_append (i : Insert) (a b : List InsertEdit) : i.run (a ++ b) = (i.run a).run b :=
  List.foldl_append

theorem made_append (i : Insert) (a b : List InsertEdit) :
    i.made (a ++ b) = i.made a ++ (i.run a).made b := by
  induction a generalizing i with
  | nil => rfl
  | cons e rest ih =>
    rw [List.cons_append, made, made]
    cases h : i.edit e with
    | ok j => rw [run_cons_ok h, List.cons_append, ← ih]
    | error fault => rw [run_cons_error h, ← ih]

-- What every call that succeeds preserves, a run preserves.
theorem run_induction {P : Insert → Prop} (hstep : ∀ i e j, Change i j e → P i → P j)
    (hi : P i) (edits : List InsertEdit) : P (i.run edits) := by
  induction edits generalizing i with
  | nil => exact hi
  | cons e rest ih =>
    cases h : i.edit e with
    | ok j =>
      rw [run_cons_ok h]
      exact ih (hstep i e j (change_of_edit h) hi)
    | error fault =>
      rw [run_cons_error h]
      exact ih hi

end Insert

end SqlWeave
