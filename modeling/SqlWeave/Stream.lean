import SqlWeave.Executor

/-!
# Streams of rows

A stream sends its query when the first row is pulled, and fetches a chunk only when the rows of
the chunks before it are used up.  After a failure, or after the last row, it gives nothing more.
-/

namespace SqlWeave

/-- How far a stream has come. -/
inductive RowStream.Progress where
  /-- The query has not been sent. -/
  | unopened
  /-- Rows that were fetched and not yet pulled, and the items that the driver has left. -/
  | reading (fetched : List Row) (chunks : List (Except String QueryResult))

/-- A stream of rows. -/
structure RowStream (σ : Type) where
  executor : Executor σ
  query : Compiled
  chunkSize : Nat
  progress : RowStream.Progress

namespace RowStream

variable {σ : Type}

/-- A stream whose query has not been sent. -/
def ofQuery (executor : Executor σ) (query : Compiled) (chunkSize : Nat) : RowStream σ :=
  ⟨executor, query, chunkSize, .unopened⟩

/-- The stream after which nothing comes. -/
def ended (s : RowStream σ) : RowStream σ := { s with progress := .reading [] [] }

/-- What a pull gives: a row, a failure, or nothing more. -/
inductive Pulled where
  | row (r : Row)
  | failed (e : QueryError)
  | ended

/-- Pull from the chunks that the driver has left.  Chunks without rows are passed over. -/
def pullChunk (s : RowStream σ) :
    List (Except String QueryResult) → Session σ → Pulled × RowStream σ × Session σ
  | [], w => (.ended, s.ended, w)
  | chunk :: rest, w =>
    match s.executor.takeChunk s.query.id chunk w with
    | (.error e, w) => (.failed e, s.ended, w)
    | (.ok result, w) =>
      match result.rows with
      | [] => s.pullChunk rest w
      | row :: rows => (.row row, { s with progress := .reading rows rest }, w)

def pull (s : RowStream σ) (w : Session σ) : Pulled × RowStream σ × Session σ :=
  match s.progress with
  | .unopened =>
    let (chunks, database) := s.executor.driver.openStream s.query s.chunkSize w.database
    s.pullChunk chunks { w with database }
  | .reading (row :: rows) chunks => (.row row, { s with progress := .reading rows chunks }, w)
  | .reading [] chunks => s.pullChunk chunks w

structure Batch where
  rows : List Row
  /-- Nothing while the stream goes on, else whether it ended or failed. -/
  stopped : Option (Option QueryError)

/-- Pull up to a given number of rows. -/
def pullMany : (count : Nat) → RowStream σ → Session σ → Batch × RowStream σ × Session σ
  | 0, s, w => (⟨[], none⟩, s, w)
  | count + 1, s, w =>
    match s.pull w with
    | (.row row, s, w) =>
      let (batch, s, w) := pullMany count s w
      ({ batch with rows := row :: batch.rows }, s, w)
    | (.failed e, s, w) => (⟨[], some (some e)⟩, s, w)
    | (.ended, s, w) => (⟨[], some none⟩, s, w)

def pullChunks (s : RowStream σ) :
    List (Except String QueryResult) → Session σ → Batch × Session σ
  | [], w => (⟨[], some none⟩, w)
  | chunk :: rest, w =>
    match s.executor.takeChunk s.query.id chunk w with
    | (.error e, w) => (⟨[], some (some e)⟩, w)
    | (.ok result, w) =>
      let (batch, w) := s.pullChunks rest w
      ({ batch with rows := result.rows ++ batch.rows }, w)

def pullAll (s : RowStream σ) (w : Session σ) : Batch × RowStream σ × Session σ :=
  match s.progress with
  | .unopened =>
    let (chunks, database) := s.executor.driver.openStream s.query s.chunkSize w.database
    let (batch, w) := s.pullChunks chunks { w with database }
    (batch, s.ended, w)
  | .reading fetched chunks =>
    let (batch, w) := s.pullChunks chunks w
    ({ batch with rows := fetched ++ batch.rows }, s.ended, w)

end RowStream

end SqlWeave
