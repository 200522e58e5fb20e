import SqlWeave.Driver

/-!
# The driver in memory

A driver that answers with prepared results and keeps a record of what it was asked.
-/

namespace SqlWeave.Memory

/-- How a driver in memory behaves. -/
structure Setup where
  supportsReturning : Bool
  streamRows : List Row
  /-- The failure of every call, if calls fail. -/
  failure : Option String

/-- The prepared results that are left, and the record so far. -/
structure Store where
  results : List QueryResult
  /-- The queries received, by calls and by streams. -/
  executed : List Compiled
  /-- The chunk sizes that streams asked for. -/
  chunkSizes : List Nat
  handedOut : Nat

def Store.ofResults (results : List QueryResult) : Store := ⟨results, [], [], 0⟩

/-- Rows in slices of a given size, the last of which may be shorter.  A size of zero counts as
one. -/
def slices {α : Type} (size : Nat) : List α → List (List α)
  | [] => []
  | row :: rest => (row :: rest.take (size - 1)) :: slices size (rest.drop (size - 1))
termination_by rows => rows.length
decreasing_by simp only [List.length_drop, List.length_cons]; omega

def execute (setup : Setup) (query : Compiled) (store : Store) :
    Except String QueryResult × Store :=
  let store := { store with executed := store.executed ++ [query] }
  match setup.failure with
  | some message => (.error message, store)
  | none =>
    match store.results with
    | [] => (.ok .empty, store)
    | result :: rest => (.ok result, { store with results := rest })

/-- Receive a query whose rows are fetched in chunks. -/
def openStream (setup : Setup) (query : Compiled) (chunkSize : Nat) (store : Store) :
    List (Except String QueryResult) × Store :=
  let store :=
    { store with
      executed := store.executed ++ [query]
      chunkSizes := store.chunkSizes ++ [chunkSize] }
  match setup.failure with
  | some message => ([.error message], store)
  | none => ((slices chunkSize setup.streamRows).map fun rows => .ok (.ofRows rows), store)

def driver (setup : Setup) : Driver Store where
  supportsReturning := setup.supportsReturning
  execute := execute setup
  openStream := openStream setup
  handOut store := { store with handedOut := store.handedOut + 1 }

end SqlWeave.Memory
