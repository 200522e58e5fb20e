import SqlWeave.Result
import SqlWeave.Sql.Text

/-!
# Drivers

A driver performs the round trips to a database, whose state it threads through every call.
-/

namespace SqlWeave

/-- A driver over databases in states `σ`. -/
structure Driver (σ : Type) where
  supportsReturning : Bool
  execute : Compiled → σ → Except String QueryResult × σ
  /-- Run a query whose rows are fetched in chunks.  A failure is the last item. -/
  openStream : Compiled → (chunkSize : Nat) → σ → List (Except String QueryResult) × σ
  /-- Take note that an item of a stream has been handed out. -/
  handOut : σ → σ

/-- The world that queries run in: the state of the database, and what plugins have written to the
journal so far. -/
structure Session (σ : Type) where
  database : σ
  journal : List String

namespace Session

variable {σ : Type}

def note (w : Session σ) (notes : List String) : Session σ :=
  { w with journal := w.journal ++ notes }

end Session

end SqlWeave
