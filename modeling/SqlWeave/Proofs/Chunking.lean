import SqlWeave.Proofs.Answering
import SqlWeave.Proofs.Fetching

/-!
# Chunks of a server's rows

Rows of a server are collected until they fill a chunk, and the chunk is given before the next row
is asked for.  What is collected when the rows end is given as a last chunk, unless they end by a
failure, which is given in its place.  So the chunks are the same that the driver in memory cuts the
rows into, and no chunk is given in part.  All this is so for the sizes that a buffer can be made
for: for a larger one there is a panic in place of the rows.
-/

namespace SqlWeave.Postgres

/-! ## Rows cut into chunks -/

/-- Rows cut into full chunks of a size, and the fewer rows that remain. -/
structure IsCut {α : Type} (size : Nat) (rows : List α) (full : List (List α)) (last : List α) :
    Prop where
  rows_eq : rows = full.flatten ++ last
  length_full : ∀ chunk ∈ full, chunk.length = size
  length_last : last.length < size

/-- Full chunks, and what remains as one more unless nothing does. -/
def withLast {α : Type} (full : List (List α)) (last : List α) : List (List α) :=
  if last.isEmpty then full else full ++ [last]

theorem flatten_withLast {α : Type} (full : List (List α)) (last : List α) :
    (withLast full last).flatten = full.flatten ++ last := by
  cases last <;> simp [withLast]

namespace IsCut

variable {α : Type} {size : Nat} {rows last : List α} {full : List (List α)}

theorem slices_short {rows : List α} (h : rows.length < size) :
    Memory.slices size rows = withLast [] rows := by
  cases rows with
  | nil => rw [Memory.slices]; rfl
  | cons row rest =>
    have hrest : rest.length ≤ size - 1 := by
      rw [List.length_cons] at h
      omega
    rw [Memory.slices, List.take_of_length_le hrest, List.drop_eq_nil_of_le hrest, Memory.slices]
    rfl

theorem slices_append {chunk : List α} (hsize : 0 < size) (h : chunk.length = size)
    (rows : List α) :
    Memory.slices size (chunk ++ rows) = chunk :: Memory.slices size rows := by
  cases chunk with
  | nil => exact absurd h hsize.ne
  | cons row rest =>
    have hrest : rest.length = size - 1 := by
      rw [← h, List.length_cons, Nat.add_sub_cancel]
    rw [List.cons_append, Memory.slices, List.take_left' hrest, List.drop_left' hrest]

-- The driver in memory cuts the same chunks.
theorem slices_eq (h : IsCut size rows full last) :
    Memory.slices size rows = withLast full last := by
  obtain ⟨rfl, hfull, hlast⟩ := h
  induction full with
  | nil => exact slices_short hlast
  | cons chunk rest ih =>
    obtain ⟨hchunk, hrest⟩ := List.forall_mem_cons.mp hfull
    have hsize : 0 < size := Nat.zero_lt_of_lt hlast
    rw [List.flatten_cons, List.append_assoc, slices_append hsize hchunk, ih hrest]
    cases last <;> rfl

theorem length_rows (h : IsCut size rows full last) :
    rows.length = size * full.length + last.length := by
  obtain ⟨rfl, hfull, -⟩ := h
  have hlengths : full.map List.length = List.replicate full.length size :=
    List.map_eq_replicate_iff.mpr hfull
  rw [List.length_append, List.length_flatten, hlengths, List.sum_replicate, smul_eq_mul,
    Nat.mul_comm]

theorem counts (h : IsCut size rows full last) :
    full.length = rows.length / size ∧ last.length = rows.length % size := by
  have hunique := (Nat.div_mod_unique (Nat.zero_lt_of_lt h.length_last)).mpr
    ⟨(Nat.add_comm _ _).trans h.length_rows.symm, h.length_last⟩
  exact ⟨hunique.1.symm, hunique.2.symm⟩

end IsCut

/-! ## Rows as they arrive -/

namespace Response

variable {r : Response} {rows : List Row} {size : Nat}

/-- The rows that arrive for a response and can be converted, and the error that ends them unless
they end regularly. -/
inductive Delivers (r : Response) (rows : List Row) : Option Error → Prop
  | all (hrows : r.converted = rows.map .ok) (hfails : r.fails = false) : r.Delivers rows none
  | failure (hrows : r.converted = rows.map .ok) (hfails : r.fails = true) :
    r.Delivers rows (some .delegate)
  /-- A row that cannot be converted ends them, whatever the server has after it. -/
  | refused {e : Error} {rest : List (Except Error Row)}
      (hrows : r.converted = rows.map .ok ++ .error e :: rest) :
    r.Delivers rows (some e)

theorem oks_or_error {ε α : Type} (items : List (Except ε α)) :
    (∃ xs : List α, items = xs.map .ok) ∨
      ∃ (xs : List α) (e : ε) (rest : List (Except ε α)),
        items = xs.map .ok ++ .error e :: rest := by
  induction items with
  | nil => exact .inl ⟨[], rfl⟩
  | cons item items ih =>
    cases item with
    | error e => exact .inr ⟨[], e, items, rfl⟩
    | ok x =>
      obtain ⟨xs, rfl⟩ | ⟨xs, e, rest, rfl⟩ := ih
      · exact .inl ⟨x :: xs, rfl⟩
      · exact .inr ⟨x :: xs, e, rest, rfl⟩

theorem exists_delivers (r : Response) : ∃ rows ending, r.Delivers rows ending := by
  obtain ⟨rows, hrows⟩ | ⟨rows, e, rest, hrows⟩ := oks_or_error r.converted
  · cases hfails : r.fails with
    | false => exact ⟨rows, none, .all hrows hfails⟩
    | true => exact ⟨rows, _, .failure hrows hfails⟩
  · exact ⟨rows, _, .refused hrows⟩

/-- A chunk as it is given. -/
def given (chunk : List Row) : Except Error QueryResult := .ok (.ofRows chunk)

-- While rows arrive, the ones in hand never fill a chunk, and with the chunks that were given they
-- are the rows that have arrived.
theorem chunksFrom_rows (fails : Bool) (pending : List Row) (hpending : pending.length < size)
    (rows : List Row) :
    ∃ full last, IsCut size (pending ++ rows) full last ∧
      ∀ items, chunksFrom size fails pending (rows.map .ok ++ items) =
        full.map given ++ chunksFrom size fails last items := by
  induction rows generalizing pending with
  | nil =>
    exact ⟨[], pending, ⟨List.append_nil _, List.forall_mem_nil _, hpending⟩, fun _ => rfl⟩
  | cons row rest ih =>
    have hmore : pending ++ row :: rest = (pending ++ [row]) ++ rest := by
      rw [List.append_assoc, List.singleton_append]
    by_cases hfilled : (pending ++ [row]).length = size
    · -- The row fills the chunk.
      have hnone : ([] : List Row).length < size := Nat.zero_lt_of_lt hpending
      obtain ⟨full, last, hcut, hchunks⟩ := ih _ hnone
      have hrest : rest = full.flatten ++ last := hcut.rows_eq
      refine ⟨(pending ++ [row]) :: full, last, ⟨?_, ?_, hcut.length_last⟩, fun items => ?_⟩
      · rw [hmore, List.flatten_cons, List.append_assoc (pending ++ [row]), ← hrest]
      · exact List.forall_mem_cons.mpr ⟨hfilled, hcut.length_full⟩
      · rw [List.map_cons, List.cons_append, chunksFrom, if_pos hfilled, hchunks]
        rfl
    · have hshort : (pending ++ [row]).length < size := by
        rw [List.length_append, List.length_singleton] at hfilled ⊢
        omega
      obtain ⟨full, last, hcut, hchunks⟩ := ih _ hshort
      refine ⟨full, last, hmore ▸ hcut, fun items => ?_⟩
      rw [List.map_cons, List.cons_append, chunksFrom, if_neg hfilled, hchunks]

/-- What is given for rows that are cut so.  A regular end gives what remains, and an error drops
it. -/
def items (full : List (List Row)) (last : List Row) :
    Option Error → List (Except Error QueryResult)
  | none => (withLast full last).map given
  | some e => full.map given ++ [.error e]

theorem chunks_of_delivers (hsize : 0 < size)
    (hbuffer : size * Buffer.rowBytes ≤ Buffer.maxBytes) {ending : Option Error}
    (h : r.Delivers rows ending) :
    ∃ full last, IsCut size rows full last ∧ r.chunks size = .ok (items full last ending) := by
  obtain ⟨full, last, hcut, hchunks⟩ := chunksFrom_rows r.fails [] hsize rows
  refine ⟨full, last, hcut, ?_⟩
  rw [chunks, if_neg (Nat.not_lt.mpr hbuffer)]
  congr 1
  cases h with
  | all hrows hfails =>
    have hend := hchunks []
    rw [List.append_nil] at hend
    rw [hrows, hend, chunksFrom, hfails, if_neg Bool.false_ne_true]
    cases last with
    | nil => exact List.append_nil _
    | cons row rest =>
      show full.map given ++ [given (row :: rest)] = (full ++ [row :: rest]).map given
      rw [List.map_append]
      rfl
  | failure hrows hfails =>
    have hend := hchunks []
    rw [List.append_nil] at hend
    rw [hrows, hend, chunksFrom, if_pos hfails, items]
  | refused hrows => rw [hrows, hchunks, chunksFrom, items]

theorem allRows_of_delivers (h : r.Delivers rows none) : r.allRows = .ok rows := by
  cases h with
  | all hrows hfails =>
    rw [allRows, hfails, if_neg Bool.false_ne_true, hrows, List.mapM_map]
    exact mapM_eq_ok_iff.mpr (List.forall₂_same.mpr fun _ _ => rfl)

end Response

/-! ## Chunks of a client -/

namespace Client

variable {c : Client} {query : Compiled}

theorem stream_of_error {e : Error} (h : (c.start query.sql).1 = .error e) (size : Nat) :
    (c.stream query size).1 = .ok [.error e] := by
  rcases hstart : c.start query.sql with ⟨answer, c'⟩
  rw [hstart] at h
  obtain rfl : answer = .error e := h
  simp only [stream, hstart]

theorem stream_of_ok {r : Response} (h : (c.start query.sql).1 = .ok r) (size : Nat) :
    (c.stream query size).1 = r.chunks size := by
  rcases hstart : c.start query.sql with ⟨answer, c'⟩
  rw [hstart] at h
  obtain rfl : answer = .ok r := h
  simp only [stream, hstart]

-- A query whose rows are fetched gives all of them, where none is refused.
theorem rows_of_execute {r : Response} {rows : List Row} (h : (c.start query.sql).1 = .ok r)
    (hrows : r.Delivers rows none) (hfetches : fetchesRows query.query = true) :
    (c.execute query).1.map QueryResult.rows = .ok rows := by
  have hresult : result c.server query.query r =
      .ok ⟨rows, none, if query.query.isMutation then some rows.length else none⟩ := by
    rw [result, if_pos hfetches, Response.allRows_of_delivers hrows]
    rfl
  rw [c.execute_fst, h, Except.bind, hresult]
  rfl

end Client

/-! ## Main statement -/

/-- The chunks of a server's rows.  Once the query runs, a size that no buffer can be made for ends
in a panic, whatever the rows are.  With any other size but zero, the rows that arrive and can be
converted are cut into full chunks in their order, as many as fit.  If the rows end regularly, the
remaining ones are a last chunk; the chunks are then those of the driver in memory, and together
they hold the rows that running the query gives.  If they end by an error, this is the last item,
and the remaining rows are lost. -/
theorem chunks_are_full_until_the_end (c : Client) (query : Compiled) {size : Nat}
    (hsize : 0 < size) :
    let stream := (c.stream query size).1
    (∀ e, (c.start query.sql).1 = .error e → stream = .ok [.error e]) ∧
    ∀ r, (c.start query.sql).1 = .ok r →
      (Buffer.maxBytes < size * Buffer.rowBytes → stream = .error .capacityOverflow) ∧
      (size * Buffer.rowBytes ≤ Buffer.maxBytes →
        (∃ rows ending, r.Delivers rows ending) ∧
        ∀ rows ending, r.Delivers rows ending →
          ∃ full last, rows = full.flatten ++ last ∧
            full.length = rows.length / size ∧ (∀ chunk ∈ full, chunk.length = size) ∧
            last.length = rows.length % size ∧
            (∀ e, ending = some e →
              stream = .ok (full.map (fun chunk => .ok (.ofRows chunk)) ++ [.error e])) ∧
            (ending = none →
              let chunks := if last.isEmpty then full else full ++ [last]
              stream = .ok (chunks.map fun chunk => .ok (.ofRows chunk)) ∧
              (∀ supportsReturning store,
                (Memory.openStream ⟨supportsReturning, rows, none⟩ query size store).1 =
                  chunks.map fun chunk => .ok (.ofRows chunk)) ∧
              (Client.fetchesRows query.query = true →
                (c.execute query).1.map QueryResult.rows = .ok chunks.flatten))) := by
  intro stream
  refine ⟨fun e he => Client.stream_of_error he size, fun r hr => ?_⟩
  have hstream : stream = r.chunks size := Client.stream_of_ok hr size
  refine ⟨fun hover => hstream.trans (if_pos hover), fun hbuffer => ?_⟩
  refine ⟨r.exists_delivers, fun rows ending hrows => ?_⟩
  obtain ⟨full, last, hcut, hchunks⟩ := Response.chunks_of_delivers hsize hbuffer hrows
  obtain ⟨hfull, hlast⟩ := hcut.counts
  refine ⟨full, last, hcut.rows_eq, hfull, hcut.length_full, hlast, ?_, ?_⟩
  · rintro e rfl
    exact hstream.trans hchunks
  · rintro rfl
    refine ⟨hstream.trans hchunks, fun supportsReturning store => ?_, fun hfetches => ?_⟩
    · rw [Memory.openStream_eq rfl, hcut.slices_eq]
      rfl
    · have hflat : (withLast full last).flatten = rows :=
        (flatten_withLast full last).trans hcut.rows_eq.symm
      rw [Client.rows_of_execute hr hrows hfetches]
      exact congrArg Except.ok hflat.symm

-- Three rows in chunks of two, with a regular end and with a failure after the last row.
theorem chunks_are_full_until_the_end_three_rows :
    let row (tame : Bool) : Row := .ofList [("is_tame", .bool tame)]
    let c (failure : Option Stage) : Client :=
      ⟨⟨true, false, [], [⟨"is_tame", .bool⟩], [[some [1]], [some [0]], [some [1]]], "DELETE 3",
        failure⟩, ⟨"user", ""⟩, true, []⟩
    let pets : Delete :=
      { Delete.ofTable (.ofName "pet") with returning := some [.reference none "is_tame"] }
    ∃ query, (Query.delete pets).compileAs .postgres ⟨0, "0"⟩ = .ok query ∧
      ((c none).stream query 2).1 =
        .ok [.ok (.ofRows [row true, row false]), .ok (.ofRows [row true])] ∧
      ((c none).execute query).1.map QueryResult.rows = .ok [row true, row false, row true] ∧
      ((c (some .finishing)).stream query 2).1 =
        .ok [.ok (.ofRows [row true, row false]), .error .delegate] := by
  intro row c pets
  obtain ⟨query, hcompile, hsent, hparams, hfetches⟩ :
      ∃ query, (Query.delete pets).compileAs .postgres ⟨0, "0"⟩ = .ok query ∧
        (Message.prepare query.sql.text).canBeSent = true ∧ query.sql.params = [] ∧
        Client.fetchesRows query.query = true :=
    ⟨_, rfl, by decide +kernel, rfl, rfl⟩
  have hstart {failure : Option Stage} (hprepared : failure ≠ some .preparing) :
      ((c failure).start query.sql).1 = (c failure).server.response :=
    Client.start_fst rfl hprepared hsent
      (by rw [hparams]; rfl : bindAll query.sql.params (c failure).server.paramTypes = some [])
  have hbuffer : 2 * Buffer.rowBytes ≤ Buffer.maxBytes := by decide
  have hall := ((chunks_are_full_until_the_end (c none) query (by decide : 0 < 2)).2 _
    (hstart nofun)).2 hbuffer
  have hlost := ((chunks_are_full_until_the_end (c (some .finishing)) query
    (by decide : 0 < 2)).2 _ (hstart nofun)).2 hbuffer
  refine ⟨query, hcompile, ?_⟩
  obtain ⟨full, last, hrows, -, hfull, hlast, -, hend⟩ :=
    hall.2 [row true, row false, row true] none (.all rfl rfl)
  obtain ⟨hstream, -, hexecute⟩ := hend rfl
  refine ⟨hstream.trans ?_, (hexecute hfetches).trans ?_, ?_⟩
  · have hcut : IsCut 2 [row true, row false, row true] full last :=
      ⟨hrows, hfull, hlast.trans_lt (by simp)⟩
    have hslices : [[row true, row false], [row true]] = withLast full last := by
      rw [← hcut.slices_eq]
      simp [Memory.slices]
    exact congrArg (fun chunks => Except.ok (chunks.map Response.given)) hslices.symm
  · have hflat := flatten_withLast full last
    rw [← hrows] at hflat
    exact congrArg Except.ok hflat
  · obtain ⟨full, last, hrows, hnumber, hfull, -, hfails, -⟩ :=
      hlost.2 [row true, row false, row true] _ (.failure rfl rfl)
    have hone : full.length = 1 := hnumber.trans (by simp)
    obtain ⟨chunk, rfl⟩ := List.length_eq_one_iff.mp hone
    have hjoined : [row true, row false] ++ [row true] = chunk ++ last := by
      rw [← List.flatten_singleton (l := chunk), ← hrows]
      rfl
    have hchunk : [row true, row false] = chunk :=
      (List.append_inj hjoined (hfull chunk List.mem_cons_self).symm).1
    rw [hchunk]
    exact hfails _ rfl

-- One row in a chunk of the largest size there is: a panic on a server, the row in memory.
theorem largest_chunk_panics :
    let row : Row := .ofList [("is_tame", .bool true)]
    let c : Client :=
      ⟨⟨true, false, [], [⟨"is_tame", .bool⟩], [[some [1]]], "SELECT 1", none⟩, ⟨"user", ""⟩,
        true, []⟩
    let pets : Query := .select (.ofSources [.table (.ofName "pet") none])
    let size := Nat.pow 2 64 - 1
    ∃ query, pets.compileAs .postgres ⟨0, "0"⟩ = .ok query ∧
      (c.stream query size).1 = .error .capacityOverflow ∧
      (c.execute query).1.map QueryResult.rows = .ok [row] ∧
      (Memory.openStream ⟨true, [row], none⟩ query size (.ofResults [])).1 =
        [.ok (.ofRows [row])] := by
  intro row c pets size
  obtain ⟨query, hcompile, hsent, hparams, hfetches⟩ :
      ∃ query, pets.compileAs .postgres ⟨0, "0"⟩ = .ok query ∧
        (Message.prepare query.sql.text).canBeSent = true ∧ query.sql.params = [] ∧
        Client.fetchesRows query.query = true :=
    ⟨_, rfl, by decide +kernel, rfl, rfl⟩
  have hstart : (c.start query.sql).1 = c.server.response :=
    Client.start_fst rfl nofun hsent
      (by rw [hparams]; rfl : bindAll query.sql.params c.server.paramTypes = some [])
  refine ⟨query, hcompile, ?_, ?_, ?_⟩
  · exact (Client.stream_of_ok hstart size).trans (if_pos (by decide))
  · exact Client.rows_of_execute hstart (.all rfl rfl) hfetches
  · rw [Memory.openStream_eq rfl, IsCut.slices_short (by decide : [row].length < size)]
    rfl

end SqlWeave.Postgres
