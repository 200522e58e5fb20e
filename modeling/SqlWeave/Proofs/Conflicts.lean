import Mathlib.Data.List.DropRight
import SqlWeave.Proofs.Alignment
import SqlWeave.Proofs.Clauses

/-!
# Conflict clauses

A conflict clause is read off its own calls: the target from those since the last that replaced it,
and two conditions, of the index and of the update, each from its own predicates.  An insert has the
clause of the last call that succeeded, and nothing is left of the others.
-/

namespace SqlWeave

/-! ## One clause -/

namespace ConflictEdit

/-- The columns that the call adds to a target of columns. -/
def columns? : ConflictEdit → Option (List String)
  | .columns names => some (names.map Shorthand.columnName)
  | _ => none

/-- The target that the call puts in the place of any other. -/
def target? : ConflictEdit → Option ConflictTarget
  | .constraint name => some (.constraint name)
  | .expr e => some (.expr e)
  | _ => none

def predicate? : ConflictEdit → Option Expr
  | .filter call => some call.stated
  | _ => none

end ConflictEdit

namespace ConflictTarget

/-- The calls since the last that put another target in the place of what was there. -/
def latest (edits : List ConflictEdit) : List ConflictEdit :=
  edits.rtakeWhile (·.target?.isNone)

/-- The columns that the latest calls name, if they name any, and else the constraint or the
expression that was there before them. -/
def ofCalls (edits : List ConflictEdit) : ConflictTarget :=
  match together ((latest edits).filterMap ConflictEdit.columns?) with
  | some names => .columns names
  | none => (edits.filterMap ConflictEdit.target?).getLast?.getD .unspecified

end ConflictTarget

/-- The action that is chosen, with the conjunction of the predicates that narrow it. -/
def ConflictChoice.chosen : ConflictChoice → Except QueryError ConflictAction
  | .nothing => .ok .nothing
  | .update settings filters =>
    if settings.isEmpty then .error (.shape .emptyUpdate)
    else .ok (.update
      (settings.entries.map fun (column, value) => ⟨Shorthand.columnName column, value⟩)
      (conjunction (filters.map Narrowing.stated)))

namespace ConflictTarget

variable {e : ConflictEdit} {t : ConflictTarget}

-- A constraint or an expression gives way to columns.
theorem addColumns_of_target? (h : e.target? = some t) (names : List String) :
    t.addColumns names = .columns (names.map Shorthand.columnName) := by
  cases e with
  | constraint name =>
    cases h
    rfl
  | expr x =>
    cases h
    rfl
  | columns | filter => exact nomatch h

theorem latest_concat_of_none (h : e.target? = none) (edits : List ConflictEdit) :
    latest (edits ++ [e]) = latest edits ++ [e] := by
  apply List.rtakeWhile_concat_pos
  rw [h]
  rfl

theorem latest_concat_of_some (h : e.target? = some t) (edits : List ConflictEdit) :
    latest (edits ++ [e]) = [] := by
  apply List.rtakeWhile_concat_neg
  rw [h]
  exact Bool.false_ne_true

theorem ofCalls_concat_columns (edits : List ConflictEdit) (names : List String) :
    ofCalls (edits ++ [.columns names]) = (ofCalls edits).addColumns names := by
  have hlatest : latest (edits ++ [.columns names]) = latest edits ++ [.columns names] :=
    latest_concat_of_none rfl edits
  have hnames : (latest edits ++ [ConflictEdit.columns names]).filterMap ConflictEdit.columns? =
      (latest edits).filterMap ConflictEdit.columns? ++ [names.map Shorthand.columnName] :=
    filterMap_concat _ _ _
  unfold ofCalls
  rw [hlatest, hnames, together_concat]
  cases together ((latest edits).filterMap ConflictEdit.columns?) with
  | some existing => rfl
  | none =>
    cases htarget : (edits.filterMap ConflictEdit.target?).getLast? with
    | none => rfl
    | some t =>
      have hmem : t ∈ edits.filterMap ConflictEdit.target? := List.mem_of_getLast? htarget
      obtain ⟨e, -, he⟩ := List.mem_filterMap.mp hmem
      exact (addColumns_of_target? he names).symm

theorem ofCalls_concat_target (h : e.target? = some t) (edits : List ConflictEdit) :
    ofCalls (edits ++ [e]) = t := by
  unfold ofCalls
  rw [latest_concat_of_some h, filterMap_concat, h, Option.toList_some, List.getLast?_concat]
  rfl

theorem ofCalls_concat_filter (edits : List ConflictEdit) (call : Narrowing) :
    ofCalls (edits ++ [.filter call]) = ofCalls edits := by
  have hlatest : latest (edits ++ [.filter call]) = latest edits ++ [.filter call] :=
    latest_concat_of_none rfl edits
  unfold ofCalls
  rw [hlatest, filterMap_concat, filterMap_concat]
  simp only [ConflictEdit.columns?, ConflictEdit.target?, Option.toList_none, List.append_nil]

end ConflictTarget

/-- The clause that calls describe before an action is chosen. -/
def Conflict.described (edits : List ConflictEdit) : Conflict :=
  ⟨.ofCalls edits, conjunction (edits.filterMap ConflictEdit.predicate?), .nothing⟩

theorem Conflict.described_concat (edits : List ConflictEdit) (e : ConflictEdit) :
    described (edits ++ [e]) = (described edits).edit e := by
  unfold described
  rw [filterMap_concat]
  cases e with
  | columns names =>
    rw [ConflictTarget.ofCalls_concat_columns]
    simp [edit, ConflictEdit.predicate?]
  | constraint name =>
    rw [ConflictTarget.ofCalls_concat_target rfl]
    simp [edit, ConflictEdit.predicate?]
  | expr x =>
    rw [ConflictTarget.ofCalls_concat_target rfl]
    simp [edit, ConflictEdit.predicate?]
  | filter call =>
    rw [ConflictTarget.ofCalls_concat_filter]
    simp [edit, ConflictEdit.predicate?, conjunction_concat, Narrowing.predicate_eq]

theorem Conflict.foldl_edit (edits : List ConflictEdit) :
    edits.foldl Conflict.edit .unspecified = described edits :=
  foldl_eq_of_concat Conflict.edit described described_concat edits

theorem ConflictChoice.action_eq (choice : ConflictChoice) : choice.action = choice.chosen := by
  cases choice with
  | nothing => rfl
  | update settings filters =>
    have hfilter : filters.foldl (fun existing call => conjoin existing call.predicate) none =
        conjunction (filters.map Narrowing.stated) := by
      refine foldl_eq_of_concat _ (fun filters => conjunction (filters.map _)) ?_ filters
      intro calls call
      rw [List.map_append, List.map_singleton, conjunction_concat, call.predicate_eq]
    rw [action, chosen, hfilter, Assignments.updates]
    split <;> rfl

theorem Conflict.ofCalls_eq (edits : List ConflictEdit) (choice : ConflictChoice) :
    Conflict.ofCalls edits choice = choice.chosen.map fun action =>
      { target := .ofCalls edits
        indexFilter := conjunction (edits.filterMap ConflictEdit.predicate?)
        action } := by
  unfold ofCalls
  rw [foldl_edit, choice.action_eq]
  cases choice.chosen <;> rfl

/-! ## The clauses of a run of calls -/

namespace InsertEdit

/-- Whether the call asks for a conflict clause. -/
def isConflict : InsertEdit → Bool
  | .onConflict _ _ => true
  | _ => false

/-- The clause that the call gives, if it asks for one and succeeds. -/
def conflict? : InsertEdit → Option Conflict
  | .onConflict edits choice => (Conflict.ofCalls edits choice).toOption
  | _ => none

end InsertEdit

namespace Insert

/-- The insert with another conflict clause, or without one. -/
def withConflict (i : Insert) (clause : Option Conflict) : Insert := { i with onConflict := clause }

-- No other call reads the clause or changes it.
theorem edit_withConflict {e : InsertEdit} (h : e.isConflict = false) (i : Insert)
    (clause : Option Conflict) :
    (i.withConflict clause).edit e = (i.edit e).map (·.withConflict clause) := by
  cases e with
  | values rows =>
    have hfixed : (i.withConflict clause).fixedColumns = i.fixedColumns := rfl
    rw [edit_values, edit_values, hfixed]
    cases rows.toSource i.fixedColumns <;> rfl
  | columns names =>
    obtain ⟨into, columns, source, ignore, replace, onConflict, onDuplicateKey, returning,
      explain⟩ := i
    rcases source with _ | ⟨_ | _ | _⟩ <;> rfl
  | onConflict edits choice => exact nomatch h
  | onDuplicateKeyUpdate updates =>
    rw [edit, edit]
    cases updates.updates <;> rfl
  | _ => rfl

-- A call for a clause that fails leaves the clause that is there.
theorem attempt_conflict (edits : List ConflictEdit) (choice : ConflictChoice) (i : Insert)
    (clause : Option Conflict) :
    ((i.withConflict clause).edit (.onConflict edits choice)).toOption.getD
        (i.withConflict clause) =
      i.withConflict ((InsertEdit.onConflict edits choice).conflict?.or clause) := by
  rw [edit, InsertEdit.conflict?]
  cases Conflict.ofCalls edits choice <;> rfl

theorem attempt_other {e : InsertEdit} (h : e.isConflict = false) (i : Insert)
    (clause : Option Conflict) :
    ((i.withConflict clause).edit e).toOption.getD (i.withConflict clause) =
      ((i.edit e).toOption.getD i).withConflict clause := by
  rw [edit_withConflict h]
  cases i.edit e <;> rfl

theorem getLast?_filterMap_cons {α β : Type} (f : α → Option β) (x : α) (xs : List α)
    (o : Option β) :
    ((x :: xs).filterMap f).getLast?.or o = (xs.filterMap f).getLast?.or ((f x).or o) := by
  cases h : f x with
  | none => rw [List.filterMap_cons_none h, Option.none_or]
  | some y =>
    rw [List.filterMap_cons_some h, List.getLast?_cons]
    cases (xs.filterMap f).getLast? <;> rfl

theorem run_withConflict (calls : List InsertEdit) (i : Insert) (clause : Option Conflict) :
    (i.withConflict clause).run calls =
      (i.run (calls.filter fun e => !e.isConflict)).withConflict
        ((calls.filterMap InsertEdit.conflict?).getLast?.or clause) := by
  induction calls generalizing i clause with
  | nil => rfl
  | cons e rest ih =>
    rw [getLast?_filterMap_cons]
    show (((i.withConflict clause).edit e).toOption.getD (i.withConflict clause)).run rest = _
    cases he : e.isConflict with
    | true =>
      rw [List.filter_cons_of_neg (by simp [he])]
      cases e with
      | onConflict edits choice => rw [attempt_conflict, ih]
      | _ => exact nomatch he
    | false =>
      have hgiven : e.conflict? = none := by
        cases e with
        | onConflict edits choice => exact nomatch he
        | _ => rfl
      rw [List.filter_cons_of_pos (by simp [he]), attempt_other he, ih, hgiven, Option.none_or]
      rfl

/-! ## Main statement -/

theorem rootPieces_withConflict (i : Insert) (clause : Option Conflict) :
    (Query.insert (i.withConflict clause)).rootPieces =
      (i.opening ++ i.sourcePieces) ++ clause.toList.flatMap Conflict.pieces ++
        (i.withConflict none).closing := by
  have hclosing : (i.withConflict clause).closing =
      clause.toList.flatMap Conflict.pieces ++ (i.withConflict none).closing := by
    simp [closing, withConflict]
  rw [rootPieces_eq, hclosing, ← List.append_assoc]
  rfl

/-- The clause of a call is its target, the conjunction of the index predicates and the action that
is chosen; it fails only if the action does.  An insert after a run of calls is what the other calls
make of it, with the clause of the last call that gave one.  So is what is written: the pieces
before and after the clause depend on the other calls only. -/
theorem last_conflict_clause_wins (i : Insert) :
    (∀ (edits : List ConflictEdit) (choice : ConflictChoice),
      Conflict.ofCalls edits choice = choice.chosen.map fun action =>
        { target := .ofCalls edits
          indexFilter := conjunction (edits.filterMap ConflictEdit.predicate?)
          action }) ∧
    (∀ calls : List InsertEdit,
      i.run calls = (i.run (calls.filter fun e => !e.isConflict)).withConflict
        ((calls.filterMap InsertEdit.conflict?).getLast?.or i.onConflict)) ∧
    ∃ front back : List InsertEdit → List Piece, ∀ (calls : List InsertEdit) (d : Dialect),
      let others := calls.filter fun e => !e.isConflict
      let clause := (calls.filterMap InsertEdit.conflict?).getLast?.or i.onConflict
      (Query.insert (i.run calls)).compile d = Sql.ofPieces d
        (front others ++ clause.toList.flatMap Conflict.pieces ++ back others) := by
  have hrun : ∀ calls : List InsertEdit,
      i.run calls = (i.run (calls.filter fun e => !e.isConflict)).withConflict
        ((calls.filterMap InsertEdit.conflict?).getLast?.or i.onConflict) :=
    fun calls => run_withConflict calls i i.onConflict
  refine ⟨Conflict.ofCalls_eq, hrun, ?_⟩
  refine ⟨fun others => (i.run others).opening ++ (i.run others).sourcePieces,
    fun others => ((i.run others).withConflict none).closing, fun calls d => ?_⟩
  intro others clause
  have hpieces := rootPieces_withConflict (i.run others) clause
  rw [hrun calls]
  exact congrArg (Sql.ofPieces d) hpieces

-- An update that fails after two clauses leaves the second, whole.
example :
    let update : ConflictChoice := .update (OrderedMap.empty.insert "age" (.value (.int 1))) []
    ((Insert.ofTable (.ofName "person")).run
      [.onConflict [.columns ["id"], .filter (.equal "a" (.value (.int 2)))] update,
        .onConflict [.constraint "key", .columns ["name"], .columns ["age"]] .nothing,
        .onConflict [.columns ["id"]] (.update .empty [])]).onConflict =
      some ⟨.columns ["name", "age"], none, .nothing⟩ := by
  rfl

end Insert

end SqlWeave
