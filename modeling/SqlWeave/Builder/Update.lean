import SqlWeave.Builder.Clause

/-!
# Building updates and deletes
-/

namespace SqlWeave

inductive UpdateEdit where
  | set (updates : Assignments)
  | filter (call : Narrowing)
  | returning (call : Selecting)
  | explain (request : Explain)

inductive DeleteEdit where
  | filter (call : Narrowing)
  | returning (call : Selecting)
  | explain (request : Explain)

namespace Update

/-- The update after a call, which fails when it is to set nothing. -/
def edit (u : Update) : UpdateEdit → Except QueryError Update
  | .set updates => do
    let updates ← updates.updates
    return { u with updates := u.updates ++ updates }
  | .filter call => return { u with filter := conjoin u.filter call.predicate }
  | .returning call => return { u with returning := extendReturning u.returning call }
  | .explain request => return { u with explain := some request }

/-- The update after a run of calls, of which those that fail change nothing. -/
def run (u : Update) (edits : List UpdateEdit) : Update :=
  edits.foldl (fun u e => (u.edit e).toOption.getD u) u

end Update

namespace Delete

def edit (d : Delete) : DeleteEdit → Delete
  | .filter call => { d with filter := conjoin d.filter call.predicate }
  | .returning call => { d with returning := extendReturning d.returning call }
  | .explain request => { d with explain := some request }

def run (d : Delete) (edits : List DeleteEdit) : Delete := edits.foldl edit d

end Delete

end SqlWeave
