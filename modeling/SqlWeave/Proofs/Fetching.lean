import SqlWeave.Proofs.Dispatching
import SqlWeave.Proofs.Streaming

/-!
# What a stream fetches

A stream that nobody pulls from asks its driver for nothing.  Once it is pulled from, its query is
sent, and a chunk is fetched only when the rows of the chunks before it are used up.  So after some
pulls the driver has handed out just as many chunks as hold the rows pulled so far, and the result
hooks have seen these chunks and no others.
-/

namespace SqlWeave

/-! ## Pulls from chunks -/

/-- How many of the chunks with these lengths hold a given number of rows. -/
def chunksFor : (lengths : List Nat) → (count : Nat) → Nat
  | _, 0 => 0
  | [], _ + 1 => 0
  | length :: rest, count + 1 => chunksFor rest (count + 1 - length) + 1

namespace RowStream

variable {σ : Type}

/-- The stream with rows that were fetched, and with items that the driver has left. -/
def reading (s : RowStream σ) (fetched : List Row) (chunks : List (Except String QueryResult)) :
    RowStream σ :=
  { s with progress := .reading fetched chunks }

theorem pulls_add (a b : Nat) (s : RowStream σ) (w : Session σ) :
    s.pulls (a + b) w =
      ((s.pulls a w).1 ++ ((s.pulls a w).2.1.pulls b (s.pulls a w).2.2).1,
        ((s.pulls a w).2.1.pulls b (s.pulls a w).2.2).2) := by
  induction a generalizing s w with
  | zero =>
    rw [Nat.zero_add]
    rfl
  | succ a ih =>
    rw [Nat.add_right_comm, pulls, pulls]
    dsimp only
    rw [ih]
    rfl

-- Rows that were fetched are given without asking the driver.
theorem pulls_fetched (s : RowStream σ) (rows later : List Row)
    (chunks : List (Except String QueryResult)) (w : Session σ) :
    (s.reading (rows ++ later) chunks).pulls rows.length w =
      (rows.map .row, s.reading later chunks, w) := by
  induction rows with
  | nil => rfl
  | cons row rest ih =>
    have hpull : (s.reading (row :: rest ++ later) chunks).pull w =
        (.row row, s.reading (rest ++ later) chunks, w) := rfl
    rw [List.length_cons, pulls, hpull]
    dsimp only
    rw [ih]
    rfl

section

variable {s : RowStream σ} {chunk : Except String QueryResult} {result : QueryResult}
  (rest : List (Except String QueryResult)) {w w' : Session σ}

-- The first of the rows of a chunk has the chunk fetched, and the others are there then.
theorem pulls_chunk (htake : s.executor.takeChunk s.query.id chunk w = (.ok result, w'))
    {rows later : List Row} (hrows : result.rows = rows ++ later) (hne : rows ≠ []) :
    (s.reading [] (chunk :: rest)).pulls rows.length w =
      (rows.map .row, s.reading later rest, w') := by
  obtain ⟨row, more, rfl⟩ := List.exists_cons_of_ne_nil hne
  have hpull : (s.reading [] (chunk :: rest)).pull w =
      (.row row, s.reading (more ++ later) rest, w') := by
    show (s.reading [] (chunk :: rest)).pullChunk (chunk :: rest) w = _
    rw [pullChunk, show (s.reading [] (chunk :: rest)).executor.takeChunk
      (s.reading [] (chunk :: rest)).query.id chunk w = (.ok result, w') from htake]
    dsimp only
    rw [hrows]
    rfl
  rw [List.length_cons, pulls, hpull]
  dsimp only
  rw [pulls_fetched]
  rfl

theorem takeChunks_cons (htake : s.executor.takeChunk s.query.id chunk w = (.ok result, w')) :
    (s.executor.takeChunks s.query.id (chunk :: rest) w).2 =
      (s.executor.takeChunks s.query.id rest w').2 := by
  rw [Executor.takeChunks, htake]

end

-- Pulls take the chunks that hold the rows that are pulled, and leave the others where they are.
theorem pulls_reading {s : RowStream σ} {chunks : List (Except String QueryResult)}
    {results : List QueryResult}
    (h : List.Forall₂ (fun chunk result => s.executor.answer s.query.id chunk = .ok result ∧
      result.rows ≠ []) chunks results)
    {count : Nat} (hcount : count ≤ (results.flatMap QueryResult.rows).length) (w : Session σ) :
    let needed := chunksFor (results.map fun result => result.rows.length) count
    let out := (s.reading [] chunks).pulls count w
    out.1 = (((results.take needed).flatMap QueryResult.rows).take count).map .row ∧
      out.2.2 = (s.executor.takeChunks s.query.id (chunks.take needed) w).2 := by
  induction h generalizing count w with
  | nil =>
    obtain rfl := Nat.le_zero.mp hcount
    exact ⟨rfl, rfl⟩
  | @cons chunk result chunks results hchunk _ ih =>
    intro needed out
    obtain ⟨hanswer, hne⟩ := hchunk
    obtain ⟨w', htake⟩ : ∃ w', s.executor.takeChunk s.query.id chunk w = (.ok result, w') :=
      ⟨_, Prod.ext ((s.executor.takeChunk_fst _ chunk w).trans hanswer) rfl⟩
    cases count with
    | zero => exact ⟨rfl, rfl⟩
    | succ count =>
      have hneeded : needed =
          chunksFor (results.map fun result => result.rows.length)
            (count + 1 - result.rows.length) + 1 := rfl
      by_cases hlength : count + 1 ≤ result.rows.length
      · -- The rows of this chunk suffice.
        have hnone : needed = 1 := by
          rw [hneeded, Nat.sub_eq_zero_of_le hlength, chunksFor]
        have hfirst : (result.rows.take (count + 1)).length = count + 1 :=
          List.length_take_of_le hlength
        have hout : out = ((result.rows.take (count + 1)).map .row,
            s.reading (result.rows.drop (count + 1)) chunks, w') := by
          have hpulls := pulls_chunk chunks htake
            (List.take_append_drop (count + 1) result.rows).symm (by simpa using hne)
          rwa [hfirst] at hpulls
        rw [hout, hnone, List.take_succ_cons, List.take_succ_cons, takeChunks_cons _ htake]
        refine ⟨?_, rfl⟩
        rw [List.take_zero, List.flatMap_singleton]
      · have hsplit : count + 1 = result.rows.length + (count + 1 - result.rows.length) := by
          omega
        have hrest : count + 1 - result.rows.length ≤
            (results.flatMap QueryResult.rows).length := by
          rw [List.flatMap_cons, List.length_append] at hcount
          omega
        have hwhole := pulls_chunk chunks htake (List.append_nil result.rows).symm hne
        obtain ⟨hitems, hsession⟩ := ih hrest w'
        have hout : out = (s.reading [] (chunk :: chunks)).pulls
            (result.rows.length + (count + 1 - result.rows.length)) w := by
          rw [← hsplit]
        rw [hout, pulls_add, hwhole, hneeded, List.take_succ_cons, List.take_succ_cons,
          takeChunks_cons _ htake]
        refine ⟨?_, hsession⟩
        show result.rows.map Pulled.row ++ _ = _
        rw [hitems, List.flatMap_cons, List.take_append,
          List.take_of_length_le (Nat.le_of_not_le hlength), List.map_append]

-- The first pull sends the query, and goes on from the chunks that the driver has for it.
theorem pulls_ofQuery (x : Executor σ) (query : Compiled) (size count : Nat) (w : Session σ) :
    let s := ofQuery x query size
    let opened := x.driver.openStream query size w.database
    s.pulls (count + 1) w =
      (s.reading [] opened.1).pulls (count + 1) { w with database := opened.2 } := by
  intro s opened
  have hpull : s.pull w = (s.reading [] opened.1).pull { w with database := opened.2 } := by
    show s.pullChunk opened.1 _ = (s.reading [] opened.1).pullChunk opened.1 _
    have hsame : ∀ chunks fetched left w,
        s.pullChunk chunks w = (s.reading fetched left).pullChunk chunks w := by
      intro chunks fetched left w
      induction chunks generalizing w with
      | nil => rfl
      | cons chunk rest ih =>
        rw [pullChunk, pullChunk, show (s.reading fetched left).executor = s.executor from rfl,
          show (s.reading fetched left).query = s.query from rfl]
        rcases s.executor.takeChunk s.query.id chunk w with ⟨e | result, w'⟩
        · rfl
        · dsimp only
          cases result.rows with
          | nil => exact ih w'
          | cons row rows => rfl
    exact hsame _ _ _ _
  rw [pulls, pulls, hpull]

end RowStream

namespace Memory

/-! ## Chunks of the driver in memory -/

section

variable {α : Type} {size : Nat}

theorem div_ceil_succ (hsize : 0 < size) (count : Nat) :
    (count + 1 + size - 1) / size = count / size + 1 := by
  rw [show count + 1 + size - 1 = count + size by omega, Nat.add_div_right count hsize]

-- Slices are full up to the last one, so their number for some rows is a quotient.
theorem chunksFor_slices (hsize : 0 < size) {count : Nat} {rows : List α}
    (hcount : count ≤ rows.length) :
    chunksFor ((slices size rows).map List.length) count = (count + size - 1) / size := by
  have hzero : (0 + size - 1) / size = 0 := Nat.div_eq_of_lt (by omega)
  induction rows using slices.induct size generalizing count with
  | case1 =>
    obtain rfl := Nat.le_zero.mp hcount
    rw [slices, hzero]
    rfl
  | case2 row rest ih =>
    cases count with
    | zero => rw [hzero, chunksFor]
    | succ count =>
      rw [List.length_cons] at hcount
      have hleft : count + 1 - (min (size - 1) rest.length + 1) ≤
          (rest.drop (size - 1)).length := by
        rw [List.length_drop]
        omega
      rw [slices, List.map_cons, List.length_cons, List.length_take, chunksFor, ih hleft,
        div_ceil_succ hsize]
      by_cases hlast : count < size
      · -- The first slice suffices.
        have hnone : count + 1 - (min (size - 1) rest.length + 1) = 0 := by omega
        rw [hnone, hzero, Nat.div_eq_of_lt hlast]
      · have hmore : count + 1 - (min (size - 1) rest.length + 1) + size - 1 = count := by omega
        rw [hmore]

theorem chunksFor_le_length (lengths : List Nat) (count : Nat) :
    chunksFor lengths count ≤ lengths.length := by
  induction lengths generalizing count with
  | nil => cases count <;> exact Nat.le_refl 0
  | cons length rest ih =>
    cases count with
    | zero => exact Nat.zero_le _
    | succ count => exact Nat.succ_le_succ (ih _)

theorem ne_nil_of_mem_slices {rows chunk : List α} (h : chunk ∈ slices size rows) :
    chunk ≠ [] := by
  induction rows using slices.induct size with
  | case1 =>
    rw [slices] at h
    exact absurd h List.not_mem_nil
  | case2 row rest ih =>
    rw [slices] at h
    rcases List.mem_cons.mp h with rfl | h
    · exact List.cons_ne_nil _ _
    · exact ih h

end

/-- The hooks accept a chunk with these rows, and give as many rows for it. -/
def KeepsNumber (plugins : List Plugin) (rows : List Row) : Prop :=
  ∃ result, Plugin.revised plugins (.ofRows rows) = .ok result ∧ result.rows.length = rows.length

theorem exists_results {plugins : List Plugin} {chunks : List (List Row)}
    (h : ∀ chunk ∈ chunks, chunk ≠ [] ∧ KeepsNumber plugins chunk) :
    ∃ results : List QueryResult,
      List.Forall₂ (fun chunk result => Plugin.revised plugins (.ofRows chunk) = .ok result ∧
        result.rows ≠ []) chunks results ∧
      (results.map fun result => result.rows.length) = chunks.map List.length := by
  induction chunks with
  | nil => exact ⟨[], .nil, rfl⟩
  | cons chunk rest ih =>
    obtain ⟨⟨hne, result, hresult, hlength⟩, hrest⟩ := List.forall_mem_cons.mp h
    obtain ⟨results, hresults, hlengths⟩ := ih hrest
    have hsome : result.rows ≠ [] := by
      rw [← List.length_pos_iff, hlength]
      exact List.length_pos_of_ne_nil hne
    exact ⟨result :: results, .cons ⟨hresult, hsome⟩ hresults, congrArg₂ List.cons hlength hlengths⟩

section

variable {setup : Setup} {x : Executor Store}

-- Every chunk that is taken is counted once, and every hook sees it once.
theorem takeChunks_snd (hx : x.driver = driver setup) (id : QueryId) {chunks : List (List Row)}
    (h : ∀ chunk ∈ chunks, KeepsNumber x.plugins chunk) (w : Session Store) :
    (x.takeChunks id (chunks.map fun rows => .ok (.ofRows rows)) w).2 =
      ⟨{ w.database with handedOut := w.database.handedOut + chunks.length },
        w.journal ++ chunks.flatMap fun chunk =>
          (Plugin.resultCalls x.plugins (.ofRows chunk)).flatMap fun c => c.1.noteResult c.2⟩ := by
  induction chunks generalizing w with
  | nil =>
    rw [List.flatMap_nil, List.append_nil]
    rfl
  | cons chunk rest ih =>
    obtain ⟨⟨result, hresult, -⟩, hrest⟩ := List.forall_mem_cons.mp h
    have htake : x.takeChunk id (.ok (.ofRows chunk)) w =
        (.ok result,
          ⟨{ w.database with handedOut := w.database.handedOut + 1 },
            w.journal ++ (Plugin.resultCalls x.plugins (.ofRows chunk)).flatMap
              fun c => c.1.noteResult c.2⟩) := by
      rw [Executor.takeChunk, Executor.revise, hx]
      dsimp only
      rw [Plugin.reviseResult_eq, hresult]
      rfl
    rw [List.map_cons, Executor.takeChunks, htake]
    dsimp only
    rw [ih hrest, List.flatMap_cons, List.length_cons, List.append_assoc,
      Nat.add_comm rest.length 1, ← Nat.add_assoc]

theorem openStream_eq (hsetup : setup.failure = none) (query : Compiled) (size : Nat)
    (store : Store) :
    openStream setup query size store =
      ((slices size setup.streamRows).map fun rows => .ok (.ofRows rows),
        { store with
          executed := store.executed ++ [query]
          chunkSizes := store.chunkSizes ++ [size] }) := by
  unfold openStream
  rw [hsetup]

/-- The database and the journal after a query was sent for chunks of a size, and these chunks were
handed out and went through the hooks. -/
def afterFetching (plugins : List Plugin) (query : Compiled) (size : Nat)
    (chunks : List (List Row)) (w : Session Store) : Session Store :=
  ⟨{ w.database with
      executed := w.database.executed ++ [query]
      chunkSizes := w.database.chunkSizes ++ [size]
      handedOut := w.database.handedOut + chunks.length },
    w.journal ++ chunks.flatMap fun chunk =>
      (Plugin.resultCalls plugins (.ofRows chunk)).flatMap fun c => c.1.noteResult c.2⟩

variable {size : Nat}

theorem length_take_slices (hsize : 0 < size) {count : Nat} {rows : List Row}
    (hcount : count ≤ rows.length) :
    ((slices size rows).take ((count + size - 1) / size)).length = (count + size - 1) / size := by
  rw [List.length_take, Nat.min_eq_left]
  rw [← chunksFor_slices hsize hcount, ← List.length_map List.length]
  exact chunksFor_le_length _ _

-- From the first pull on, what was fetched are the first slices of the driver's rows.
theorem pulls_succ (hsetup : setup.failure = none) (hx : x.driver = driver setup)
    (hsize : 0 < size)
    (hkeeps : ∀ chunk ∈ slices size setup.streamRows, KeepsNumber x.plugins chunk)
    (query : Compiled) {count : Nat} (hcount : count + 1 ≤ setup.streamRows.length)
    (w : Session Store) :
    let chunks := (slices size setup.streamRows).take ((count + 1 + size - 1) / size)
    let out := (RowStream.ofQuery x query size).pulls (count + 1) w
    (∃ results, List.Forall₂
        (fun chunk result => Plugin.revised x.plugins (.ofRows chunk) = .ok result)
        chunks results ∧
      out.1 = ((results.flatMap QueryResult.rows).take (count + 1)).map .row) ∧
    out.2.2 = afterFetching x.plugins query size chunks w := by
  intro chunks out
  obtain ⟨results, hresults, hlengths⟩ :=
    exists_results fun chunk hchunk => ⟨ne_nil_of_mem_slices hchunk, hkeeps chunk hchunk⟩
  have hneeded : chunksFor (results.map fun result => result.rows.length) (count + 1) =
      (count + 1 + size - 1) / size := by
    rw [hlengths, chunksFor_slices hsize hcount]
  have htotal : count + 1 ≤ (results.flatMap QueryResult.rows).length := by
    rw [List.length_flatMap, hlengths, ← List.length_flatten, flatten_slices]
    exact hcount
  have hanswers : List.Forall₂
      (fun chunk result => x.answer query.id chunk = .ok result ∧ result.rows ≠ [])
      ((slices size setup.streamRows).map fun rows => .ok (.ofRows rows)) results := by
    rw [List.forall₂_map_left_iff]
    exact hresults.imp fun _ _ h => ⟨answer_ofRows h.1, h.2⟩
  have hout : out = ((RowStream.ofQuery x query size).reading []
      ((slices size setup.streamRows).map fun rows => .ok (.ofRows rows))).pulls (count + 1)
        { w with database := (openStream setup query size w.database).2 } := by
    have hopen : x.driver.openStream query size w.database =
        openStream setup query size w.database := by
      rw [hx]
      rfl
    have hpulls := RowStream.pulls_ofQuery x query size count w
    dsimp only at hpulls
    rw [hopen, openStream_eq hsetup] at hpulls
    rw [openStream_eq hsetup]
    exact hpulls
  have hreading := RowStream.pulls_reading (s := .ofQuery x query size) hanswers htotal
    { w with database := (openStream setup query size w.database).2 }
  dsimp only at hreading
  rw [← hout, hneeded, ← List.map_take] at hreading
  refine ⟨⟨_, List.forall₂_take _ (hresults.imp fun _ _ h => h.1), hreading.1⟩, ?_⟩
  rw [hreading.2, openStream_eq hsetup]
  have htaken : ∀ chunk ∈ chunks, KeepsNumber x.plugins chunk :=
    fun chunk hchunk => hkeeps chunk (List.mem_of_mem_take hchunk)
  exact takeChunks_snd hx query.id htaken _

end

/-! ## Main statement -/

/-- Opening a stream runs the query hooks, once each, and sends nothing; it fails without reaching
the driver if the size of the chunks is zero or the query does not compile.  When a number of rows
has been pulled from it, these are rows of the first chunks, and no more chunks than hold them were
handed out.  The query was sent once, with its chunk size, and the result hooks ran once on each of
these chunks, in order. -/
theorem streams_fetch_what_is_pulled (setup : Setup) (j : Job) :
    (∀ w, (j.builder setup).openStream 0 w = (.error (.shape .emptyChunks), w)) ∧
    (∀ e size w, j.compiled = .error e → 0 < size →
      (j.builder setup).openStream size w = (.error e, w.note j.queryNotes)) ∧
    (Plugin.queryCalls j.plugins j.query).map Prod.fst = j.plugins ∧
    ∀ query size, setup.failure = none → j.compiled = .ok query → 0 < size →
      (∀ chunk ∈ slices size setup.streamRows, KeepsNumber j.plugins chunk) →
      ∃ s : RowStream Store,
        (∀ w, (j.builder setup).openStream size w = (.ok s, w.note j.queryNotes)) ∧
        ∀ count ≤ setup.streamRows.length, ∀ w,
          let fetched := (count + size - 1) / size
          let chunks := (slices size setup.streamRows).take fetched
          let out := s.pulls count w
          chunks.length = fetched ∧
          (∃ results, List.Forall₂
              (fun chunk result => Plugin.revised j.plugins (.ofRows chunk) = .ok result)
              chunks results ∧
            out.1 = ((results.flatMap QueryResult.rows).take count).map .row) ∧
          (∀ chunk ∈ chunks, (Plugin.resultCalls j.plugins (.ofRows chunk)).map Prod.fst =
            j.plugins) ∧
          out.2.2 =
            if count = 0 then w
            else
              ⟨{ w.database with
                  executed := w.database.executed ++ [query]
                  chunkSizes := w.database.chunkSizes ++ [size]
                  handedOut := w.database.handedOut + fetched },
                w.journal ++ chunks.flatMap fun chunk => j.resultNotes (.ofRows chunk)⟩ := by
  refine ⟨fun w => rfl, fun e size w herror hsize => ?_, Plugin.map_fst_queryCalls _ _,
    fun query size hsetup hcompiled hsize hkeeps => ?_⟩
  · rw [Builder.openStream, if_neg hsize.ne', compile_builder, herror]
    rfl
  refine ⟨.ofQuery (j.builder setup).executor query size, fun w => ?_, fun count hcount w => ?_⟩
  · rw [Builder.openStream, if_neg hsize.ne', compile_builder, hcompiled]
    rfl
  intro fetched chunks out
  have hlength : chunks.length = fetched := length_take_slices hsize hcount
  have hcalls : ∀ chunk ∈ chunks,
      (Plugin.resultCalls j.plugins (.ofRows chunk)).map Prod.fst = j.plugins := by
    intro chunk hchunk
    obtain ⟨result, hresult, -⟩ := hkeeps chunk (List.mem_of_mem_take hchunk)
    exact Plugin.map_fst_resultCalls_of_ok hresult
  cases count with
  | zero =>
    have hnone : chunks = [] := by
      rw [← List.length_eq_zero_iff, hlength]
      exact Nat.div_eq_of_lt (by omega)
    rw [hnone]
    exact ⟨by rw [← hlength, hnone], ⟨[], .nil, rfl⟩, List.forall_mem_nil _, rfl⟩
  | succ count =>
    have hdriver : (j.builder setup).executor.driver = driver setup := rfl
    obtain ⟨hitems, hsession⟩ := pulls_succ hsetup hdriver hsize hkeeps query hcount w
    refine ⟨hlength, hitems, hcalls, hsession.trans ?_⟩
    rw [afterFetching, if_neg count.succ_ne_zero, ← hlength]
    rfl

-- Two rows take the first of two chunks, and the third row takes the other.
theorem streams_fetch_what_is_pulled_three_rows :
    let row (k : Int64) : Row := OrderedMap.empty.insert "pet_id" (.int k)
    let setup : Setup := ⟨true, [row 1, row 2, row 3], none⟩
    let j (d : Dialect) : Job :=
      { α := Delete, id := ⟨0, "0"⟩
        node := { Delete.ofTable (.ofName "pet") with returning := some [.star none] }
        dialect := d, plugins := [.camelCase false, .journal "log"] }
    let w : Session Store := ⟨.ofResults [], []⟩
    let note (k : Nat) : String := "log:result:" ++ toString k
    (∃ e, ((j .mysql).builder setup).openStream 2 w = (.error e, w.note ["log:query:delete"])) ∧
      ∃ query s, ((j .postgres).builder setup).openStream 2 w =
          (.ok s, w.note ["log:query:delete"]) ∧
        (s.pulls 2 w).2.2 = ⟨⟨[], [query], [2], 1⟩, [note 2]⟩ ∧
        (s.pulls 3 w).2.2 = ⟨⟨[], [query], [2], 2⟩, [note 2, note 1]⟩ := by
  intro row setup j w note
  constructor
  · obtain ⟨-, hfails, -⟩ := streams_fetch_what_is_pulled setup (j .mysql)
    exact ⟨_, hfails _ 2 w rfl (by decide)⟩
  · obtain ⟨query, hcompiled⟩ : ∃ query, (j .postgres).compiled = .ok query := ⟨_, rfl⟩
    have hslices : slices 2 setup.streamRows = [[row 1, row 2], [row 3]] := by
      simp [slices, setup]
    have hkeeps : ∀ chunk ∈ slices 2 setup.streamRows,
        KeepsNumber (j .postgres).plugins chunk :=
      fun chunk _ => ⟨_, rfl, List.length_map _⟩
    obtain ⟨-, -, -, hopens⟩ := streams_fetch_what_is_pulled setup (j .postgres)
    obtain ⟨s, hopen, hpulls⟩ := hopens query 2 rfl hcompiled (by decide) hkeeps
    refine ⟨query, s, hopen w, ?_, ?_⟩
    · rw [(hpulls 2 (by decide) w).2.2.2, hslices]
      rfl
    · rw [(hpulls 3 (by decide) w).2.2.2, hslices]
      rfl

end Memory

end SqlWeave
