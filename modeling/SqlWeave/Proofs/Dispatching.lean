import SqlWeave.Builder
import SqlWeave.Driver.Memory
import SqlWeave.Proofs.Hooks

/-!
# One dispatch for each run

Running a builder sends its query to the driver once, or not at all if it does not compile.  The
main statement is `run_of_compiled`: what a run gives and what it leaves behind is settled by the
one answer of the driver.
-/

namespace SqlWeave.Memory

/-- How a builder is run. -/
inductive Terminal where
  | execute
  | takeFirst
  | takeFirstOrFail (onNoResult : OnNoResult)

/-- What a run gives. -/
inductive Outcome where
  | all (outputs : List Output)
  | first (output : Option Output)
  | one (output : Output)

namespace Terminal

def run {σ α : Type} [Statement α] (t : Terminal) (b : Builder σ α) (w : Session σ) :
    Except QueryError Outcome × Session σ :=
  match t with
  | .execute =>
    let (outputs, w) := b.execute w
    (outputs.map .all, w)
  | .takeFirst =>
    let (output, w) := b.takeFirst w
    (output.map .first, w)
  | .takeFirstOrFail onNoResult =>
    let (output, w) := b.takeFirstOrFail onNoResult w
    (output.map .one, w)

/-- What a run of a query gives when these are all of its outputs. -/
def give (t : Terminal) (q : Query) (outputs : List Output) : Except QueryError Outcome :=
  match t, outputs with
  | .execute, outputs => .ok (.all outputs)
  | .takeFirst, outputs => .ok (.first outputs.head?)
  | .takeFirstOrFail _, output :: _ => .ok (.one output)
  | .takeFirstOrFail onNoResult, [] => .error (onNoResult.toError q)

-- Whatever is asked for, the query is compiled once and sent at most once.
theorem run_eq {σ α : Type} [Statement α] (t : Terminal) (b : Builder σ α) (w : Session σ) :
    t.run b w =
      match b.compile w with
      | (.error e, w) => (.error e, w)
      | (.ok query, w) =>
        match b.executeCompiled query w with
        | (.error e, w) => (.error e, w)
        | (.ok outputs, w) => (t.give query.query outputs, w) := by
  rcases hcompile : b.compile w with ⟨e | query, w⟩
  · cases t <;>
      simp only [run, Builder.takeFirst, Builder.takeFirstOrFail, Builder.execute, hcompile] <;> rfl
  · rcases hexecute : b.executeCompiled query w with ⟨e | outputs, w⟩
    · cases t <;>
        simp only [run, Builder.takeFirst, Builder.takeFirstOrFail, Builder.execute, hcompile,
          hexecute] <;> rfl
    · cases t <;> cases outputs <;>
        simp only [run, Builder.takeFirst, Builder.takeFirstOrFail, Builder.execute, hcompile,
          hexecute] <;> rfl

end Terminal

/-- A builder of any kind of statement, apart from its driver. -/
structure Job where
  α : Type
  [statement : Statement α]
  id : QueryId
  node : α
  dialect : Dialect
  plugins : List Plugin

attribute [instance] Job.statement

namespace Job

variable (j : Job)

/-- The builder that sends its query to the driver in memory. -/
def builder (setup : Setup) : Builder Store j.α :=
  ⟨j.id, j.node, ⟨j.dialect, driver setup, j.plugins⟩⟩

/-- The query before any plugin has seen it. -/
def query : Query := Statement.toQuery j.node

/-- The query after the plugins. -/
def rewritten : Query := Plugin.rewritten j.plugins j.query

def compiled : Except QueryError Compiled := j.rewritten.compileAs j.dialect j.id

/-- What a run gives when the driver answers with a result. -/
def outcome (setup : Setup) (t : Terminal) (result : QueryResult) : Except QueryError Outcome :=
  match Plugin.revised j.plugins result with
  | .error e => .error (.inContext (Plugin.resultContext j.id) e)
  | .ok result =>
    t.give j.rewritten (Statement.outputs j.α setup.supportsReturning j.rewritten result)

end Job

/-! ## A run -/

section

variable (setup : Setup) (query : Compiled) (store : Store)

/-- The database after it has received a query. -/
def Store.receive (store : Store) : Store := { store with executed := store.executed ++ [query] }

theorem execute_of_failure {message : String} (h : setup.failure = some message) :
    execute setup query store = (.error message, store.receive query) := by
  rw [execute, h]
  rfl

theorem execute_of_no_failure (h : setup.failure = none) :
    execute setup query store =
      (.ok (store.results.headD .empty),
        { store.receive query with results := store.results.tail }) := by
  rw [execute, h]
  cases hresults : store.results <;> simp only [Store.receive, hresults] <;> rfl

end

section

variable (setup : Setup) (j : Job)

/-- What the plugins write to the journal before the query is sent. -/
def Job.queryNotes : List String :=
  (Plugin.queryCalls j.plugins j.query).flatMap fun c => c.1.noteQuery c.2

/-- What the plugins write to the journal when the driver answers with a result. -/
def Job.resultNotes (result : QueryResult) : List String :=
  (Plugin.resultCalls j.plugins result).flatMap fun c => c.1.noteResult c.2

theorem compile_builder (w : Session Store) :
    (j.builder setup).compile w = (j.compiled, w.note j.queryNotes) := by
  have hrewrite := Plugin.rewriteQuery_eq j.plugins j.query
  show ((Plugin.rewriteQuery j.plugins j.query).2.compileAs j.dialect j.id,
    w.note (Plugin.rewriteQuery j.plugins j.query).1) = _
  rw [hrewrite]
  rfl

theorem run_of_compiled_error {e : QueryError} (h : j.compiled = .error e) (t : Terminal)
    (w : Session Store) : t.run (j.builder setup) w = (.error e, w.note j.queryNotes) := by
  rw [Terminal.run_eq, compile_builder, h]

variable {setup j}

theorem query_of_compiled {query : Compiled} (h : j.compiled = .ok query) :
    query.query = j.rewritten ∧ query.id = j.id := by
  unfold Job.compiled Query.compileAs at h
  cases hsql : j.rewritten.compile j.dialect with
  | error e =>
    rw [hsql] at h
    exact nomatch h
  | ok sql =>
    rw [hsql] at h
    cases h
    exact ⟨rfl, rfl⟩

theorem executeCompiled_builder {query : Compiled} (h : j.compiled = .ok query)
    (w : Session Store) :
    (j.builder setup).executeCompiled query w =
      match execute setup query w.database with
      | (.error message, database) => (.error (.driver message), { w with database })
      | (.ok result, database) =>
        ((inContext (Plugin.resultContext j.id) (Plugin.revised j.plugins result)).map
            (Statement.outputs j.α setup.supportsReturning j.rewritten),
          { w with database }.note (j.resultNotes result)) := by
  obtain ⟨hquery, hid⟩ := query_of_compiled h
  have hexecute : (j.builder setup).executor.execute query w =
      (j.builder setup).executor.revise query.id (execute setup query w.database).1
        { w with database := (execute setup query w.database).2 } := rfl
  rw [Builder.executeCompiled, hexecute]
  rcases execute setup query w.database with ⟨message | result, database⟩
  · rfl
  · show ((Plugin.reviseResult query.id j.plugins result).2.map
        (Statement.outputs j.α setup.supportsReturning query.query),
      ({ w with database } : Session Store).note
        (Plugin.reviseResult query.id j.plugins result).1) = _
    rw [Plugin.reviseResult_eq, hquery, hid]
    rfl

theorem run_of_compiled {query : Compiled} (h : j.compiled = .ok query) (t : Terminal)
    (w : Session Store) :
    t.run (j.builder setup) w =
      match execute setup query w.database with
      | (.error message, database) =>
        (.error (.driver message), ({ w with database } : Session Store).note j.queryNotes)
      | (.ok result, database) =>
        (j.outcome setup t result,
          (({ w with database } : Session Store).note j.queryNotes).note
            (j.resultNotes result)) := by
  rw [Terminal.run_eq, compile_builder, h]
  dsimp only
  have hdatabase : (w.note j.queryNotes).database = w.database := rfl
  rw [executeCompiled_builder h, (query_of_compiled h).1, hdatabase]
  rcases execute setup query w.database with ⟨message | result, database⟩
  · rfl
  · dsimp only
    unfold Job.outcome
    cases Plugin.revised j.plugins result <;> rfl

end

end SqlWeave.Memory
