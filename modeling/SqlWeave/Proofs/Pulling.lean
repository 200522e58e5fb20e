import SqlWeave.Proofs.Hooks
import SqlWeave.Stream

/-!
# What a stream gives

A stream of rows gives what the chunks of its query give, flattened: the rows of each chunk after
the plugins, one by one, and a failure as its last item.  What comes next depends on how far the
stream has come, and not on the session in which it is pulled once the query has been sent.
-/

namespace SqlWeave

/-! ## Chunks -/

namespace Executor

variable {σ : Type} (x : Executor σ) (id : QueryId)

/-- What the plugins make of what the driver answers, at once or in a chunk. -/
def answer : Except String QueryResult → Except QueryError QueryResult
  | .ok result => inContext (Plugin.resultContext id) (Plugin.revised x.plugins result)
  | .error message => .error (.driver message)

/-- What the plugins make of the items of a driver's stream, up to the first failure. -/
def answers : List (Except String QueryResult) → List (Except QueryError QueryResult)
  | [] => []
  | chunk :: rest =>
    match x.answer id chunk with
    | .ok result => .ok result :: answers rest
    | .error e => [.error e]

theorem revise_fst (answer : Except String QueryResult) (w : Session σ) :
    (x.revise id answer w).1 = x.answer id answer := by
  cases answer with
  | error message => rfl
  | ok result =>
    show (Plugin.reviseResult id x.plugins result).2 = _
    rw [Plugin.reviseResult_eq]
    rfl

theorem takeChunk_fst (chunk : Except String QueryResult) (w : Session σ) :
    (x.takeChunk id chunk w).1 = x.answer id chunk :=
  x.revise_fst id chunk _

theorem takeChunks_fst (chunks : List (Except String QueryResult)) (w : Session σ) :
    (x.takeChunks id chunks w).1 = x.answers id chunks := by
  induction chunks generalizing w with
  | nil => rfl
  | cons chunk rest ih =>
    have htake := x.takeChunk_fst id chunk w
    rw [takeChunks, answers, ← htake]
    rcases x.takeChunk id chunk w with ⟨e | result, w'⟩
    · rfl
    · exact congrArg (Except.ok result :: ·) (ih w')

variable {x id}

theorem answers_cons_ok {chunk : Except String QueryResult} {result : QueryResult}
    (h : x.answer id chunk = .ok result) (rest : List (Except String QueryResult)) :
    x.answers id (chunk :: rest) = .ok result :: x.answers id rest := by
  rw [answers, h]

theorem answers_cons_error {chunk : Except String QueryResult} {e : QueryError}
    (h : x.answer id chunk = .error e) (rest : List (Except String QueryResult)) :
    x.answers id (chunk :: rest) = [.error e] := by
  rw [answers, h]

-- Chunks that the plugins accept are all answered, and what follows them is answered after them.
theorem answers_append {chunks : List (Except String QueryResult)} {results : List QueryResult}
    (h : List.Forall₂ (fun chunk result => x.answer id chunk = .ok result) chunks results)
    (rest : List (Except String QueryResult)) :
    x.answers id (chunks ++ rest) = results.map .ok ++ x.answers id rest := by
  induction h with
  | nil => rfl
  | @cons chunk result chunks results hchunk _ ih =>
    rw [List.cons_append, answers_cons_ok hchunk, ih]
    rfl

end Executor

/-! ## Rows -/

namespace RowStream

variable {σ : Type} (s : RowStream σ)

/-- The items that a chunk gives to those who pull rows: its rows, or its failure. -/
def Pulled.ofAnswer : Except QueryError QueryResult → List Pulled
  | .ok result => result.rows.map .row
  | .error e => [.failed e]

/-- What the items that the driver has left give to those who pull rows. -/
def itemsOf (chunks : List (Except String QueryResult)) : List Pulled :=
  (s.executor.answers s.query.id chunks).flatMap Pulled.ofAnswer

/-- What a stream is going to give before it ends, when its next item is pulled in a session. -/
def items (w : Session σ) : List Pulled :=
  match s.progress with
  | .unopened => (s.executor.streamChunks s.query s.chunkSize w).1.flatMap Pulled.ofAnswer
  | .reading fetched chunks => fetched.map .row ++ s.itemsOf chunks

/-- A given number of pulls, one after the other, whatever they give. -/
def pulls : (count : Nat) → RowStream σ → Session σ → List Pulled × RowStream σ × Session σ
  | 0, s, w => ([], s, w)
  | count + 1, s, w =>
    let (item, s, w) := s.pull w
    let (items, s, w) := pulls count s w
    (item :: items, s, w)

/-- What a pull does: it gives the first of the items to come, and leaves the others. -/
structure Gives (items : List Pulled) (out : Pulled × RowStream σ × Session σ) : Prop where
  item : out.1 = items.headD .ended
  left : ∀ w, out.2.1.items w = items.tail

theorem itemsOf_cons_ok {chunk : Except String QueryResult} {result : QueryResult}
    (h : s.executor.answer s.query.id chunk = .ok result)
    (rest : List (Except String QueryResult)) :
    s.itemsOf (chunk :: rest) = result.rows.map .row ++ s.itemsOf rest := by
  rw [itemsOf, Executor.answers_cons_ok h]
  rfl

theorem itemsOf_cons_error {chunk : Except String QueryResult} {e : QueryError}
    (h : s.executor.answer s.query.id chunk = .error e)
    (rest : List (Except String QueryResult)) : s.itemsOf (chunk :: rest) = [.failed e] := by
  rw [itemsOf, Executor.answers_cons_error h]
  rfl

-- A stream that has not been opened gives what the chunks of the driver's stream give.
theorem items_unopened (w : Session σ) :
    (s.executor.streamChunks s.query s.chunkSize w).1.flatMap Pulled.ofAnswer =
      s.itemsOf (s.executor.driver.openStream s.query s.chunkSize w.database).1 := by
  unfold Executor.streamChunks itemsOf
  rw [Executor.takeChunks_fst]

theorem gives_pullChunk (chunks : List (Except String QueryResult)) (w : Session σ) :
    Gives (s.itemsOf chunks) (s.pullChunk chunks w) := by
  induction chunks generalizing w with
  | nil => exact ⟨rfl, fun _ => rfl⟩
  | cons chunk rest ih =>
    have htake := s.executor.takeChunk_fst s.query.id chunk w
    rw [pullChunk]
    rcases h : s.executor.takeChunk s.query.id chunk w with ⟨e | result, w'⟩
    · rw [h] at htake
      rw [s.itemsOf_cons_error htake.symm]
      exact ⟨rfl, fun _ => rfl⟩
    · rw [h] at htake
      rw [s.itemsOf_cons_ok htake.symm]
      dsimp only
      cases result.rows with
      | nil => exact ih w'
      | cons row rows => exact ⟨rfl, fun _ => rfl⟩

theorem gives_pull (w : Session σ) : Gives (s.items w) (s.pull w) := by
  unfold pull items
  cases s.progress with
  | unopened =>
    dsimp only
    rw [s.items_unopened w]
    exact s.gives_pullChunk _ _
  | reading fetched chunks =>
    cases fetched with
    | nil => exact s.gives_pullChunk chunks w
    | cons row rows => exact ⟨rfl, fun _ => rfl⟩

/-- Pull after pull gives these items, and then nothing. -/
def Yields (w : Session σ) (items : List Pulled) : Prop :=
  ∀ count, (s.pulls count w).1 = (items ++ List.replicate count Pulled.ended).take count

theorem yields_items (w : Session σ) : s.Yields w (s.items w) := by
  intro count
  induction count generalizing s w with
  | zero => rfl
  | succ count ih =>
    have hgives := s.gives_pull w
    rw [pulls]
    show (s.pull w).1 :: ((s.pull w).2.1.pulls count (s.pull w).2.2).1 = _
    rw [ih, hgives.left, hgives.item]
    cases s.items w with
    | nil => rfl
    | cons next rest =>
      have hmore : (rest ++ List.replicate (count + 1) Pulled.ended).take count =
          (rest ++ List.replicate count Pulled.ended).take count := by
        rw [List.replicate_succ', ← List.append_assoc]
        refine List.take_append_of_le_length ?_
        rw [List.length_append, List.length_replicate]
        exact Nat.le_add_left count rest.length
      exact congrArg (next :: ·) hmore.symm

/-! ## Reading to the end -/

/-- What is collected from a stream that gives these items before it ends. -/
def Batch.ofItems : List Pulled → Batch
  | [] | .ended :: _ => ⟨[], some none⟩
  | .failed e :: _ => ⟨[], some (some e)⟩
  | .row row :: rest => { ofItems rest with rows := row :: (ofItems rest).rows }

theorem Batch.ofItems_append (rows : List Row) (items : List Pulled) :
    ofItems (rows.map .row ++ items) =
      { ofItems items with rows := rows ++ (ofItems items).rows } := by
  induction rows with
  | nil => rfl
  | cons row rest ih =>
    rw [List.map_cons, List.cons_append, ofItems, ih]
    rfl

theorem Batch.ofItems_rows (rows : List Row) : ofItems (rows.map .row) = ⟨rows, some none⟩ := by
  have h := ofItems_append rows []
  rw [List.append_nil] at h
  exact h.trans (congrArg (Batch.mk · _) (List.append_nil rows))

theorem pullChunks_fst (chunks : List (Except String QueryResult)) (w : Session σ) :
    (s.pullChunks chunks w).1 = Batch.ofItems (s.itemsOf chunks) := by
  induction chunks generalizing w with
  | nil => rfl
  | cons chunk rest ih =>
    have htake := s.executor.takeChunk_fst s.query.id chunk w
    rw [pullChunks]
    rcases h : s.executor.takeChunk s.query.id chunk w with ⟨e | result, w'⟩
    · rw [h] at htake
      rw [s.itemsOf_cons_error htake.symm]
      rfl
    · rw [h] at htake
      rw [s.itemsOf_cons_ok htake.symm, Batch.ofItems_append, ← ih w']

-- Reading a stream to its end collects what pull after pull gives.
theorem pullAll_fst (w : Session σ) : (s.pullAll w).1 = Batch.ofItems (s.items w) := by
  unfold pullAll items
  cases s.progress with
  | unopened =>
    dsimp only
    rw [s.items_unopened w]
    exact s.pullChunks_fst _ _
  | reading fetched chunks =>
    dsimp only
    rw [Batch.ofItems_append, ← s.pullChunks_fst chunks w]

end RowStream

end SqlWeave
