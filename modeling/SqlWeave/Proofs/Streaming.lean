import SqlWeave.Builder
import SqlWeave.Driver.Memory
import SqlWeave.Proofs.Pulling

/-!
# Streams do not depend on their chunks

The driver in memory hands its rows out in chunks of the size that is asked for.  When every result
hook acts on each row by itself, the rows of a stream are those rows, each of them after all hooks,
whatever the size is.  A chunk that a hook refuses ends the stream: the rows of the chunks before it
are given, and then the hook's failure.
-/

namespace SqlWeave

/-! ## Hooks that act on rows -/

theorem mapM_eq_ok_iff {ε α β : Type} {f : α → Except ε β} {xs : List α} {ys : List β} :
    xs.mapM f = .ok ys ↔ List.Forall₂ (fun x y => f x = .ok y) xs ys := by
  induction xs generalizing ys with
  | nil => cases ys <;> simp [pure, Except.pure]
  | cons x rest ih =>
    rw [List.mapM_cons, List.forall₂_cons_left_iff]
    cases hx : f x with
    | error e =>
      refine iff_of_false (fun h => nomatch h) ?_
      rintro ⟨y, ys, hy, -⟩
      exact nomatch hy
    | ok y =>
      show (rest.mapM f >>= fun tail => .ok (y :: tail)) = .ok ys ↔ _
      cases hrest : rest.mapM f with
      | error e =>
        refine iff_of_false (fun h => nomatch h) ?_
        rintro ⟨y, tail, -, htail, -⟩
        exact nomatch hrest.symm.trans (ih.mpr htail)
      | ok tail =>
        constructor
        · intro h
          exact ⟨y, tail, rfl, ih.mp hrest, (Except.ok.inj h).symm⟩
        · rintro ⟨y', tail', hy, htail, rfl⟩
          have htails : tail = tail' := Except.ok.inj (hrest.symm.trans (ih.mpr htail))
          rw [htails, Except.ok.inj hy]
          rfl

namespace Plugin

/-- A result hook that acts on each row by itself. -/
def ActsOnRows (p : Plugin) (f : Row → Except QueryError Row) : Prop :=
  ∀ result, (p.onResult result).map QueryResult.rows = result.rows.mapM f

/-- A row after several hooks, in order. -/
def rowAfter (fs : List (Row → Except QueryError Row)) (row : Row) : Except QueryError Row :=
  fs.foldlM (fun row f => f row) row

variable {plugins : List Plugin} {fs : List (Row → Except QueryError Row)}

-- Rows that get through all hooks get through the first, and then through the others.
theorem exists_rows_between {f : Row → Except QueryError Row} {rows out : List Row}
    (h : List.Forall₂ (fun row row' => rowAfter (f :: fs) row = .ok row') rows out) :
    ∃ between, List.Forall₂ (fun row row' => f row = .ok row') rows between ∧
      List.Forall₂ (fun row row' => rowAfter fs row = .ok row') between out := by
  induction h with
  | nil => exact ⟨[], .nil, .nil⟩
  | @cons row row' rows out hrow _ ih =>
    obtain ⟨between, hfirst, hothers⟩ := ih
    have hstep : rowAfter (f :: fs) row = f row >>= rowAfter fs := List.foldlM_cons
    rw [hstep] at hrow
    cases hf : f row with
    | error e =>
      rw [hf] at hrow
      exact nomatch hrow
    | ok next =>
      rw [hf] at hrow
      exact ⟨next :: between, .cons hf hfirst, .cons hrow hothers⟩

theorem exists_revised (hfs : List.Forall₂ ActsOnRows plugins fs) {result : QueryResult}
    {rows : List Row}
    (h : List.Forall₂ (fun row row' => rowAfter fs row = .ok row') result.rows rows) :
    ∃ result', revised plugins result = .ok result' ∧ result'.rows = rows := by
  induction hfs generalizing result with
  | nil =>
    have hsame : List.Forall₂ Eq result.rows rows := h.imp fun _ _ hrow => Except.ok.inj hrow
    rw [List.forall₂_eq_eq_eq] at hsame
    exact ⟨result, rfl, hsame⟩
  | @cons p f plugins fs hp _ ih =>
    obtain ⟨between, hfirst, hothers⟩ := exists_rows_between h
    have hnext : (p.onResult result).map QueryResult.rows = .ok between :=
      (hp result).trans (mapM_eq_ok_iff.mpr hfirst)
    cases hp' : p.onResult result with
    | error e =>
      rw [hp'] at hnext
      exact nomatch hnext
    | ok next =>
      rw [hp'] at hnext
      have hbetween : next.rows = between := Except.ok.inj hnext
      rw [revised_cons_ok hp']
      exact ih (hbetween ▸ hothers)

-- However rows are cut into chunks, the chunks after all hooks hold the rows after all hooks.
theorem exists_revised_chunks (hfs : List.Forall₂ ActsOnRows plugins fs)
    {chunks : List (List Row)} {rows : List Row}
    (h : List.Forall₂ (fun row row' => rowAfter fs row = .ok row') chunks.flatten rows) :
    ∃ results : List QueryResult,
      List.Forall₂ (fun chunk result => revised plugins (.ofRows chunk) = .ok result)
        chunks results ∧
      results.flatMap QueryResult.rows = rows ∧
      (results.map fun result => result.rows.length) = chunks.map List.length := by
  induction chunks generalizing rows with
  | nil =>
    rw [List.flatten_nil, List.forall₂_nil_left_iff] at h
    exact ⟨[], .nil, h.symm, rfl⟩
  | cons chunk rest ih =>
    rw [List.flatten_cons] at h
    have hchunk := List.forall₂_take chunk.length h
    have hrest := List.forall₂_drop chunk.length h
    rw [List.take_left] at hchunk
    rw [List.drop_left] at hrest
    obtain ⟨result, hresult, hrows⟩ : ∃ result, revised plugins (.ofRows chunk) = .ok result ∧
        result.rows = rows.take chunk.length := exists_revised hfs hchunk
    obtain ⟨results, hresults, hflat, hlengths⟩ := ih hrest
    have hlength : result.rows.length = chunk.length := by
      rw [hrows]
      exact hchunk.length_eq.symm
    refine ⟨result :: results, .cons hresult hresults, ?_, ?_⟩
    · rw [List.flatMap_cons, hrows, hflat, List.take_append_drop]
    · rw [List.map_cons, List.map_cons, hlengths, hlength]

end Plugin

namespace Memory

open RowStream (Pulled)

/-! ## Slices -/

/-- Lengths of slices of a given size, of which only the last may be shorter, and is not empty. -/
def AreFull (size : Nat) (lengths : List Nat) : Prop :=
  (∀ k ∈ lengths.dropLast, k = size) ∧ ∀ k ∈ lengths.getLast?, 0 < k ∧ k ≤ size

section

variable {α : Type} {size : Nat}

theorem flatten_slices (size : Nat) (rows : List α) : (slices size rows).flatten = rows := by
  induction rows using slices.induct size with
  | case1 => rw [slices]; rfl
  | case2 row rest ih =>
    rw [slices, List.flatten_cons, ih, List.cons_append, List.take_append_drop]

theorem slices_eq_nil_iff {rows : List α} : slices size rows = [] ↔ rows = [] := by
  cases rows with
  | nil => exact iff_of_true (by rw [slices]) rfl
  | cons row rest =>
    rw [slices]
    exact iff_of_false (List.cons_ne_nil _ _) (List.cons_ne_nil _ _)

theorem areFull_slices (hsize : 0 < size) (rows : List α) :
    AreFull size ((slices size rows).map List.length) := by
  induction rows using slices.induct size with
  | case1 =>
    rw [slices]
    exact ⟨fun _ h => absurd h List.not_mem_nil, fun _ h => nomatch h⟩
  | case2 row rest ih =>
    rw [slices, List.map_cons, List.length_cons, List.length_take]
    by_cases hrest : rest.drop (size - 1) = []
    · -- The slice is the last one.
      rw [hrest, slices]
      refine ⟨fun _ h => absurd h List.not_mem_nil, fun k hk => ?_⟩
      have hk : k = min (size - 1) rest.length + 1 := (Option.some.inj hk).symm
      omega
    · have hlength : size - 1 < rest.length := by
        by_contra hle
        exact hrest (List.drop_eq_nil_of_le (Nat.le_of_not_lt hle))
      have hne : (slices size (rest.drop (size - 1))).map List.length ≠ [] := by
        intro h
        exact hrest (slices_eq_nil_iff.mp (List.map_eq_nil_iff.mp h))
      have hfull : min (size - 1) rest.length + 1 = size := by omega
      obtain ⟨hinit, hlast⟩ := ih
      rw [hfull]
      refine ⟨?_, ?_⟩
      · rw [List.dropLast_cons_of_ne_nil hne, List.forall_mem_cons]
        exact ⟨rfl, hinit⟩
      · rw [List.getLast?_cons_of_ne_nil hne]
        exact hlast

end

/-! ## Chunks of a stream -/

section

variable {setup : Setup} {x : Executor Store}

-- The chunks of a stream are the slices of the driver's rows, after the plugins.
theorem streamChunks_fst (hsetup : setup.failure = none) (hx : x.driver = driver setup)
    (query : Compiled) (size : Nat) (w : Session Store) :
    (x.streamChunks query size w).1 =
      x.answers query.id ((slices size setup.streamRows).map fun rows => .ok (.ofRows rows)) := by
  have hopen : (x.driver.openStream query size w.database).1 =
      (slices size setup.streamRows).map fun rows => .ok (.ofRows rows) := by
    rw [hx]
    show (openStream setup query size w.database).1 = _
    unfold openStream
    rw [hsetup]
  unfold Executor.streamChunks
  rw [Executor.takeChunks_fst, ← hopen]

theorem answer_ofRows {id : QueryId} {chunk : List Row} {out : Except QueryError QueryResult}
    (h : Plugin.revised x.plugins (.ofRows chunk) = out) :
    x.answer id (.ok (.ofRows chunk)) = inContext (Plugin.resultContext id) out := by
  rw [← h]
  rfl

-- The chunks that the hooks accept come first.
theorem answers_ofRows (id : QueryId) {chunks : List (List Row)} {results : List QueryResult}
    (h : List.Forall₂
      (fun chunk result => Plugin.revised x.plugins (.ofRows chunk) = .ok result) chunks results)
    (rest : List (List Row)) :
    x.answers id ((chunks ++ rest).map fun rows => .ok (.ofRows rows)) =
      results.map .ok ++ x.answers id (rest.map fun rows => .ok (.ofRows rows)) := by
  rw [List.map_append]
  refine Executor.answers_append ?_ _
  rw [List.forall₂_map_left_iff]
  exact h.imp fun _ _ hchunk => answer_ofRows hchunk

theorem flatMap_ofAnswer_ok (results : List QueryResult) :
    (results.map Except.ok).flatMap Pulled.ofAnswer =
      (results.flatMap QueryResult.rows).map .row := by
  rw [List.flatMap_map, List.map_flatMap]
  rfl

end

/-! ## Main statement -/

/-- A stream from the driver in memory, for any size of its chunks.  If every result hook acts on
each row by itself, the stream gives the driver's rows, each after all hooks, and the chunks are
full but for the last one.  If the hooks refuse a chunk, the stream gives the rows of the chunks
before it, then the hook's failure, and then nothing. -/
theorem streams_do_not_depend_on_chunks {setup : Setup} (hsetup : setup.failure = none)
    {x : Executor Store} (hx : x.driver = driver setup) {size : Nat} (hsize : 0 < size) :
    ((slices size setup.streamRows).flatten = setup.streamRows ∧
      AreFull size ((slices size setup.streamRows).map List.length)) ∧
    (∀ {α : Type} [Statement α] (b : Builder Store α) query w w', b.executor = x →
      b.compile w = (.ok query, w') →
        b.openStream size w = (.ok (.ofQuery x query size), w')) ∧
    ∀ (query : Compiled) (w : Session Store),
      let s := RowStream.ofQuery x query size
      (∀ (fs : List (Row → Except QueryError Row)) (rows : List Row),
        List.Forall₂ Plugin.ActsOnRows x.plugins fs →
        List.Forall₂ (fun row row' => Plugin.rowAfter fs row = .ok row') setup.streamRows rows →
          s.Yields w (rows.map .row) ∧ (s.pullAll w).1 = ⟨rows, some none⟩ ∧
          ∃ results : List QueryResult, (x.streamChunks query size w).1 = results.map .ok ∧
            results.flatMap QueryResult.rows = rows ∧
            AreFull size (results.map fun result => result.rows.length)) ∧
      ∀ (before : List (List Row)) chunk after (results : List QueryResult) e,
        slices size setup.streamRows = before ++ chunk :: after →
        List.Forall₂ (fun chunk result => Plugin.revised x.plugins (.ofRows chunk) = .ok result)
          before results →
        Plugin.revised x.plugins (.ofRows chunk) = .error e →
          let rows := results.flatMap QueryResult.rows
          let failure := QueryError.inContext (Plugin.resultContext query.id) e
          s.Yields w (rows.map .row ++ [.failed failure]) ∧
          (s.pullAll w).1 = ⟨rows, some (some failure)⟩ ∧
          (x.streamChunks query size w).1 = results.map .ok ++ [.error failure] := by
  have hfull := areFull_slices hsize setup.streamRows
  refine ⟨⟨flatten_slices size setup.streamRows, hfull⟩, ?_, fun query w => ⟨?_, ?_⟩⟩
  · intro α _ b query w w' hb hcompile
    unfold Builder.openStream
    rw [if_neg hsize.ne', hcompile, ← hb]
    rfl
  · intro fs rows hfs hrows
    rw [← flatten_slices size setup.streamRows] at hrows
    obtain ⟨results, hresults, hflat, hlengths⟩ := Plugin.exists_revised_chunks hfs hrows
    have hchunks : (x.streamChunks query size w).1 = results.map .ok := by
      have hanswers := answers_ofRows query.id hresults []
      rw [List.append_nil] at hanswers
      rw [streamChunks_fst hsetup hx, hanswers]
      exact List.append_nil _
    have hitems : (RowStream.ofQuery x query size).items w = rows.map .row := by
      show (x.streamChunks query size w).1.flatMap Pulled.ofAnswer = _
      rw [hchunks, flatMap_ofAnswer_ok, hflat]
    refine ⟨hitems ▸ RowStream.yields_items _ w, ?_, results, hchunks, hflat, ?_⟩
    · rw [RowStream.pullAll_fst, hitems, RowStream.Batch.ofItems_rows]
    · rw [hlengths]
      exact hfull
  · intro before chunk after results e hslices hbefore herror rows failure
    have hchunks : (x.streamChunks query size w).1 = results.map .ok ++ [.error failure] := by
      rw [streamChunks_fst hsetup hx, hslices, answers_ofRows query.id hbefore, List.map_cons,
        Executor.answers_cons_error (answer_ofRows herror)]
    have hitems : (RowStream.ofQuery x query size).items w =
        rows.map .row ++ [.failed failure] := by
      show (x.streamChunks query size w).1.flatMap Pulled.ofAnswer = _
      rw [hchunks, List.flatMap_append, flatMap_ofAnswer_ok]
      rfl
    refine ⟨hitems ▸ RowStream.yields_items _ w, ?_, hchunks⟩
    rw [RowStream.pullAll_fst, hitems, RowStream.Batch.ofItems_append]
    exact congrArg (RowStream.Batch.mk · _) (List.append_nil rows)

-- Three rows in chunks of two, under a plugin that renames columns and under one that wants pairs.
theorem streams_do_not_depend_on_chunks_three_rows :
    let row (k : Int64) : Row := OrderedMap.empty.insert "pet_id" (.int k)
    let setup : Setup := ⟨true, [row 1, row 2, row 3], none⟩
    let notPair : QueryError := .plugin "not a pair"
    let pairs : Plugin :=
      { Plugin.idle with
        onResult := fun result => if result.rows.length = 2 then .ok result else .error notPair }
    let x (p : Plugin) : Executor Store := ⟨.postgres, driver setup, [p]⟩
    let b : Builder Store Delete := ⟨⟨0, "0"⟩, .ofTable (.ofName "pet"), x pairs⟩
    let w : Session Store := ⟨.ofResults [], []⟩
    ∃ query, b.openStream 2 w = (.ok (.ofQuery (x pairs) query 2), w) ∧
      (RowStream.ofQuery (x (.camelCase false)) query 2).Yields w
        (([row 1, row 2, row 3].map fun r => r.mapColumns Text.camelCase).map .row) ∧
      (RowStream.ofQuery (x pairs) query 2).Yields w
        ([row 1, row 2].map .row ++ [.failed (.inContext (Plugin.resultContext query.id) notPair)])
      := by
  intro row setup notPair pairs x b w
  obtain ⟨query, hcompile⟩ : ∃ query, b.compile w = (.ok query, w) := ⟨_, rfl⟩
  have hcamel : Plugin.ActsOnRows (.camelCase false) fun r => .ok (r.mapColumns Text.camelCase) :=
    fun result => Eq.symm (List.mapM_pure (m := Except QueryError))
  have hslices : slices 2 setup.streamRows = [[row 1, row 2]] ++ [row 3] :: [] := by
    simp [slices, setup]
  have hstream (p : Plugin) :=
    @streams_do_not_depend_on_chunks setup rfl (x p) rfl 2 (by decide)
  refine ⟨query, (hstream pairs).2.1 b query w w rfl hcompile, ?_, ?_⟩
  · refine (((hstream (.camelCase false)).2.2 query w).1 [_] _ (.cons hcamel .nil) ?_).1
    exact .cons rfl (.cons rfl (.cons rfl .nil))
  · exact (((hstream pairs).2.2 query w).2 [[row 1, row 2]] [row 3] [] [.ofRows [row 1, row 2]]
      notPair hslices (.cons rfl .nil) rfl).1

end Memory

end SqlWeave
