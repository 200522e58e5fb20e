import SqlWeave.Builder.Clause

/-!
# Building conflict clauses

A clause is built from its target, step by step, and then its action.  Without an action there is
no clause.
-/

namespace SqlWeave

/-- A call that describes the target of a conflict clause. -/
inductive ConflictEdit where
  | columns (names : List String)
  | constraint (name : String)
  | expr (e : Expr)
  /-- A predicate of a partial unique index. -/
  | filter (call : Narrowing)

/-- The choice of what is done about a conflict.  An update may be narrowed. -/
inductive ConflictChoice where
  | nothing
  | update (updates : Assignments) (filters : List Narrowing)

namespace ConflictTarget

/-- The target with more columns.  A target of another kind gives way to them. -/
def addColumns (t : ConflictTarget) (names : List String) : ConflictTarget :=
  let added := names.map Shorthand.columnName
  match t with
  | .columns existing => .columns (existing ++ added)
  | _ => .columns added

end ConflictTarget

namespace Conflict

/-- The clause after a call that describes its target. -/
def edit (c : Conflict) : ConflictEdit → Conflict
  | .columns names => { c with target := c.target.addColumns names }
  | .constraint name => { c with target := .constraint name }
  | .expr e => { c with target := .expr e }
  | .filter call => { c with indexFilter := conjoin c.indexFilter call.predicate }

end Conflict

namespace ConflictChoice

/-- The action that a choice stands for, which fails when it is to update nothing. -/
def action : ConflictChoice → Except QueryError ConflictAction
  | .nothing => return .nothing
  | .update updates filters => do
    let updates ← updates.updates
    return .update updates
      (filters.foldl (fun existing call => conjoin existing call.predicate) none)

end ConflictChoice

/-- The clause that calls describe and a choice completes. -/
def Conflict.ofCalls (edits : List ConflictEdit) (choice : ConflictChoice) :
    Except QueryError Conflict := do
  let clause := edits.foldl Conflict.edit .unspecified
  return { clause with action := ← choice.action }

end SqlWeave
