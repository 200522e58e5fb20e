import SqlWeave.Driver
import SqlWeave.Plugin

/-!
# Executors

What all queries of a creator have in common: the dialect, the driver and the plugins.  Executors
are values; one with more plugins is another executor.
-/

namespace SqlWeave

/-- A dialect, a driver, and the plugins in the order in which they run. -/
structure Executor (σ : Type) where
  dialect : Dialect
  driver : Driver σ
  plugins : List Plugin

namespace Executor

variable {σ : Type}

def ofDriver (dialect : Dialect) (driver : Driver σ) : Executor σ := ⟨dialect, driver, []⟩

/-- The executor that runs more plugins after its own. -/
def withPlugins (x : Executor σ) (plugins : List Plugin) : Executor σ :=
  { x with plugins := x.plugins ++ plugins }

/-- The executor that runs one more plugin after its own. -/
def withPlugin (x : Executor σ) (plugin : Plugin) : Executor σ := x.withPlugins [plugin]

/-- The executor that runs one more plugin before its own. -/
def withPluginAtFront (x : Executor σ) (plugin : Plugin) : Executor σ :=
  { x with plugins := plugin :: x.plugins }

def withoutPlugins (x : Executor σ) : Executor σ := { x with plugins := [] }

/-- A short description for logs. -/
def describe (x : Executor σ) : String :=
  "QueryExecutor \x7b dialect: \"" ++ x.dialect.name ++ "\", plugins: " ++
    toString x.plugins.length ++ " \x7d"

/-- Rewrite a query by the plugins and compile it. -/
def compile (x : Executor σ) (id : QueryId) (q : Query) (w : Session σ) :
    Except QueryError Compiled × Session σ :=
  let (notes, q') := Plugin.rewriteQuery x.plugins q
  (q'.compileAs x.dialect id, w.note notes)

/-- Have the plugins revise what the driver answered. -/
def revise (x : Executor σ) (id : QueryId) (answer : Except String QueryResult) (w : Session σ) :
    Except QueryError QueryResult × Session σ :=
  match answer with
  | .error message => (.error (.driver message), w)
  | .ok result =>
    let (notes, out) := Plugin.reviseResult id x.plugins result
    (out, w.note notes)

def execute (x : Executor σ) (query : Compiled) (w : Session σ) :
    Except QueryError QueryResult × Session σ :=
  let (answer, database) := x.driver.execute query w.database
  x.revise query.id answer { w with database }

/-- Take an item that the driver's stream hands out. -/
def takeChunk (x : Executor σ) (id : QueryId) (chunk : Except String QueryResult) (w : Session σ) :
    Except QueryError QueryResult × Session σ :=
  x.revise id chunk { w with database := x.driver.handOut w.database }

/-- Take the items of a stream one after the other, up to the first failure. -/
def takeChunks (x : Executor σ) (id : QueryId) :
    List (Except String QueryResult) → Session σ →
      List (Except QueryError QueryResult) × Session σ
  | [], w => ([], w)
  | chunk :: rest, w =>
    match x.takeChunk id chunk w with
    | (.ok result, w) =>
      let (results, w) := x.takeChunks id rest w
      (.ok result :: results, w)
    | (.error e, w) => ([.error e], w)

def streamChunks (x : Executor σ) (query : Compiled) (chunkSize : Nat) (w : Session σ) :
    List (Except QueryError QueryResult) × Session σ :=
  let (chunks, database) := x.driver.openStream query chunkSize w.database
  x.takeChunks query.id chunks { w with database }

end Executor

end SqlWeave
