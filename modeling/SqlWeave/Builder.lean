import SqlWeave.Stream
import SqlWeave.Builder.Insert
import SqlWeave.Builder.Select
import SqlWeave.Builder.Update

/-!
# Builders

A builder is a statement under construction together with the executor that will run it.  Builders
are values: every call gives another builder, and nothing is remembered between two runs.
-/

namespace SqlWeave

/-- A kind of statement that builders build: its place in a query tree, and what the caller gets
from its result. -/
class Statement (α : Type) where
  toQuery : α → Query
  outputs : (supportsReturning : Bool) → Query → QueryResult → List Output

instance : Statement Select := ⟨.select, fun _ _ result => selectOutputs result⟩

instance : Statement Insert := ⟨.insert, mutationOutputs⟩

instance : Statement Update := ⟨.update, mutationOutputs⟩

instance : Statement Delete := ⟨.delete, mutationOutputs⟩

/-- A statement whose kind is known only when it runs. -/
instance : Statement Query where
  toQuery q := q
  outputs supportsReturning q result :=
    if q.isMutation then mutationOutputs supportsReturning q result else selectOutputs result

/-- A statement under construction, and the executor that will run it. -/
structure Builder (σ α : Type) where
  id : QueryId
  node : α
  executor : Executor σ

/-- What a caller who asked for a result gets when there is none. -/
inductive OnNoResult where
  | default
  /-- The caller's own error. -/
  | error (message : String)
  /-- The caller's own error, made from the query that gave no result. -/
  | build (message : Query → String)

/-- The error for a query that gave no result. -/
def OnNoResult.toError (q : Query) : OnNoResult → QueryError
  | .default => .noResult q
  | .error message => .custom message
  | .build message => .custom (message q)

def defaultChunkSize : Nat := 100

namespace Builder

variable {σ α : Type}

def withNode (b : Builder σ α) (node : α) : Builder σ α := { b with node }

/-- The builder that runs one more plugin after its own. -/
def withPlugin (b : Builder σ α) (plugin : Plugin) : Builder σ α :=
  { b with executor := b.executor.withPlugin plugin }

/-- The builder after more calls if a condition holds. -/
def ifThen {m : Type → Type} [Monad m] (b : Builder σ α) (condition : Bool)
    (extend : Builder σ α → m (Builder σ α)) : m (Builder σ α) :=
  if condition then extend b else pure b

variable [Statement α]

def toQuery (b : Builder σ α) : Query := Statement.toQuery b.node

/-- The builder of the same query, whose kind is known only when it runs. -/
def ofAnyKind (b : Builder σ α) : Builder σ Query := ⟨b.id, b.toQuery, b.executor⟩

/-- Rewrite the query by the plugins and compile it. -/
def compile (b : Builder σ α) (w : Session σ) : Except QueryError Compiled × Session σ :=
  b.executor.compile b.id b.toQuery w

def outputs (b : Builder σ α) (query : Compiled) (result : QueryResult) : List Output :=
  Statement.outputs α b.executor.driver.supportsReturning query.query result

def executeCompiled (b : Builder σ α) (query : Compiled) (w : Session σ) :
    Except QueryError (List Output) × Session σ :=
  let (result, w) := b.executor.execute query w
  (result.map (b.outputs query), w)

/-- Compile the query and run it. -/
def execute (b : Builder σ α) (w : Session σ) : Except QueryError (List Output) × Session σ :=
  match b.compile w with
  | (.ok query, w) => b.executeCompiled query w
  | (.error e, w) => (.error e, w)

/-- Run the query and take the first output if there is one. -/
def takeFirst (b : Builder σ α) (w : Session σ) :
    Except QueryError (Option Output) × Session σ :=
  let (outputs, w) := b.execute w
  (outputs.map List.head?, w)

/-- Run the query and take the first output, failing if there is none. -/
def takeFirstOrFail (b : Builder σ α) (onNoResult : OnNoResult) (w : Session σ) :
    Except QueryError Output × Session σ :=
  match b.compile w with
  | (.error e, w) => (.error e, w)
  | (.ok query, w) =>
    match b.executeCompiled query w with
    | (.error e, w) => (.error e, w)
    | (.ok (output :: _), w) => (.ok output, w)
    | (.ok [], w) => (.error (onNoResult.toError query.query), w)

/-- Compile the query for a stream of its rows.  Nothing is sent before the first row is pulled. -/
def openStream (b : Builder σ α) (chunkSize : Nat) (w : Session σ) :
    Except QueryError (RowStream σ) × Session σ :=
  if chunkSize = 0 then (.error (.shape .emptyChunks), w)
  else
    let (query, w) := b.compile w
    (query.map fun query => .ofQuery b.executor query chunkSize, w)

end Builder

end SqlWeave
