import SqlWeave.Proofs.Dispatching

/-!
# Sessions of runs and streams

In a session of runs and streams the driver's prepared results go to the runs that reach it, in
order.  Streams leave them alone.
-/

namespace SqlWeave.Memory

/-! ## Streams -/

section

variable {setup : Setup} {x : Executor Store} {s : RowStream Store}

/-- What pulling from a stream keeps: its executor, and the results that the driver has prepared. -/
structure Pulls (s s' : RowStream Store) (w w' : Session Store) : Prop where
  executor : s'.executor = s.executor
  results : w'.database.results = w.database.results

theorem Pulls.refl (s : RowStream Store) (w : Session Store) : Pulls s s w w := ⟨rfl, rfl⟩

theorem Pulls.trans {s s' s'' : RowStream Store} {w w' w'' : Session Store}
    (h : Pulls s s' w w') (h' : Pulls s' s'' w' w'') : Pulls s s'' w w'' :=
  ⟨h'.executor.trans h.executor, h'.results.trans h.results⟩

theorem results_takeChunk (hx : x.driver = driver setup) (id : QueryId)
    (chunk : Except String QueryResult) (w : Session Store) :
    (x.takeChunk id chunk w).2.database.results = w.database.results := by
  have hdatabase : (x.takeChunk id chunk w).2.database = x.driver.handOut w.database := by
    cases chunk <;> rfl
  rw [hdatabase, hx]
  rfl

theorem results_openStream (hx : x.driver = driver setup) (query : Compiled) (chunkSize : Nat)
    (store : Store) : (x.driver.openStream query chunkSize store).2.results = store.results := by
  rw [hx]
  show (openStream setup query chunkSize store).2.results = _
  unfold openStream
  cases setup.failure <;> rfl

theorem pulls_pullChunk (hs : s.executor.driver = driver setup)
    (chunks : List (Except String QueryResult)) (w : Session Store) :
    Pulls s (s.pullChunk chunks w).2.1 w (s.pullChunk chunks w).2.2 := by
  induction chunks generalizing w with
  | nil => exact ⟨rfl, rfl⟩
  | cons chunk rest ih =>
    have htake := results_takeChunk hs s.query.id chunk w
    rw [RowStream.pullChunk]
    rcases h : s.executor.takeChunk s.query.id chunk w with ⟨e | result, w'⟩
    · rw [h] at htake
      exact ⟨rfl, htake⟩
    · rw [h] at htake
      dsimp only
      cases result.rows with
      | nil => exact Pulls.trans ⟨rfl, htake⟩ (ih w')
      | cons row rows => exact ⟨rfl, htake⟩

theorem pulls_pull (hs : s.executor.driver = driver setup) (w : Session Store) :
    Pulls s (s.pull w).2.1 w (s.pull w).2.2 := by
  unfold RowStream.pull
  cases s.progress with
  | unopened =>
    have hopen := results_openStream hs s.query s.chunkSize w.database
    exact Pulls.trans ⟨rfl, hopen⟩ (pulls_pullChunk hs _ _)
  | reading fetched chunks =>
    cases fetched with
    | nil => exact pulls_pullChunk hs chunks w
    | cons row rows => exact ⟨rfl, rfl⟩

theorem pulls_pullMany (hs : s.executor.driver = driver setup) (count : Nat) (w : Session Store) :
    Pulls s (s.pullMany count w).2.1 w (s.pullMany count w).2.2 := by
  induction count generalizing s w with
  | zero => exact .refl s w
  | succ count ih =>
    have hpull := pulls_pull hs w
    rw [RowStream.pullMany]
    rcases h : s.pull w with ⟨row | e | _, s', w'⟩
    · rw [h] at hpull
      have hs' : s'.executor.driver = driver setup := by
        rw [hpull.executor, hs]
      exact hpull.trans (ih hs' w')
    · rw [h] at hpull
      exact hpull
    · rw [h] at hpull
      exact hpull

theorem results_pullChunks (hs : s.executor.driver = driver setup)
    (chunks : List (Except String QueryResult)) (w : Session Store) :
    (s.pullChunks chunks w).2.database.results = w.database.results := by
  induction chunks generalizing w with
  | nil => rfl
  | cons chunk rest ih =>
    have htake := results_takeChunk hs s.query.id chunk w
    rw [RowStream.pullChunks]
    rcases h : s.executor.takeChunk s.query.id chunk w with ⟨e | result, w'⟩
    · rw [h] at htake
      exact htake
    · rw [h] at htake
      exact (ih w').trans htake

theorem pulls_pullAll (hs : s.executor.driver = driver setup) (w : Session Store) :
    Pulls s (s.pullAll w).2.1 w (s.pullAll w).2.2 := by
  unfold RowStream.pullAll
  cases s.progress with
  | unopened =>
    have hopen := results_openStream hs s.query s.chunkSize w.database
    exact ⟨rfl, (results_pullChunks hs _ _).trans hopen⟩
  | reading fetched chunks => exact ⟨rfl, results_pullChunks hs chunks w⟩

end

/-! ## Sessions -/

/-- What happens in a session. -/
inductive Action where
  | run (j : Job) (t : Terminal)
  | openStream (j : Job) (chunkSize : Nat)
  /-- Pull up to a number of rows from a stream, or all that are left. -/
  | pull (stream : Nat) (count : Option Nat)

/-- Whether the action is a run whose query gets to the driver. -/
def Action.reaches : Action → Bool
  | .run j _ => j.compiled.isOk
  | _ => false

/-- A session and the streams that were opened in it. -/
structure Course where
  session : Session Store
  streams : List (RowStream Store)

namespace Course

variable (setup : Setup)

/-- What a run gives, if the action is one, and how the session goes on. -/
def step (c : Course) : Action → Option (Except QueryError Outcome) × Course
  | .run j t =>
    let (outcome, session) := t.run (j.builder setup) c.session
    (some outcome, { c with session })
  | .openStream j chunkSize =>
    match (j.builder setup).openStream chunkSize c.session with
    | (.ok stream, session) => (none, ⟨session, c.streams ++ [stream]⟩)
    | (.error _, session) => (none, { c with session })
  | .pull i count =>
    match c.streams[i]? with
    | none => (none, c)
    | some stream =>
      let (_, stream, session) :=
        match count with
        | some n => stream.pullMany n c.session
        | none => stream.pullAll c.session
      (none, ⟨session, c.streams.set i stream⟩)

/-- Actions in order: what each of them gives, and how the session ends. -/
def run (c : Course) : List Action → List (Option (Except QueryError Outcome)) × Course
  | [] => ([], c)
  | a :: rest =>
    let (outcome, c) := c.step setup a
    let (outcomes, c) := c.run rest
    (outcome :: outcomes, c)

/-- All streams of the session send to the driver in memory. -/
def IsSound (c : Course) : Prop := ∀ s ∈ c.streams, s.executor.driver = driver setup

end Course

/-- What a run gives: an error of its own, or what comes of the driver's result. -/
def Job.answer (j : Job) (setup : Setup) (t : Terminal) (result : QueryResult) :
    Except QueryError Outcome :=
  match j.compiled with
  | .error e => .error e
  | .ok _ => j.outcome setup t result

section

variable {setup : Setup} {c : Course}

theorem openStream_builder (setup : Setup) (j : Job) (chunkSize : Nat) (w : Session Store) :
    ((j.builder setup).openStream chunkSize w).2.database = w.database ∧
      ∀ s, ((j.builder setup).openStream chunkSize w).1 = .ok s →
        s.executor.driver = driver setup := by
  unfold Builder.openStream
  by_cases hsize : chunkSize = 0
  · rw [if_pos hsize]
    dsimp only
    exact ⟨rfl, fun s hs => nomatch hs⟩
  · rw [if_neg hsize, compile_builder]
    dsimp only
    refine ⟨rfl, fun s hs => ?_⟩
    cases hcompiled : j.compiled with
    | error e =>
      rw [hcompiled] at hs
      exact nomatch hs
    | ok query =>
      rw [hcompiled] at hs
      have hs : s = .ofQuery (j.builder setup).executor query chunkSize := (Except.ok.inj hs).symm
      rw [hs]
      rfl

-- A run that reaches a driver without failures takes the first result, or an empty one.
theorem run_of_no_failure (hsetup : setup.failure = none) {j : Job} {query : Compiled}
    (h : j.compiled = .ok query) (t : Terminal) (w : Session Store) :
    t.run (j.builder setup) w =
      (j.outcome setup t (w.database.results.headD .empty),
        ⟨{ w.database.receive query with results := w.database.results.tail },
          w.journal ++ j.queryNotes ++ j.resultNotes (w.database.results.headD .empty)⟩) := by
  rw [run_of_compiled h, execute_of_no_failure setup query w.database hsetup]
  rfl

/-- Running a select gives the rows of the result, as the plugins have revised it, in their order:
all of them or the first. -/
theorem run_select (hsetup : setup.failure = none) (id : QueryId) (s : Select) (d : Dialect)
    (plugins : List Plugin) (t : Terminal) (w : Session Store) :
    let j : Job := { α := Select, id, node := s, dialect := d, plugins }
    (t.run (j.builder setup) w).1 =
      match j.compiled, Plugin.revised plugins (w.database.results.headD .empty) with
      | .error e, _ => .error e
      | .ok _, .error e => .error (.inContext (Plugin.resultContext id) e)
      | .ok _, .ok result => t.give j.rewritten (result.rows.map .row) := by
  intro j
  cases h : j.compiled with
  | error e => rw [run_of_compiled_error setup j h]
  | ok query =>
    rw [run_of_no_failure hsetup h]
    dsimp only [Job.outcome, j]
    cases Plugin.revised plugins (w.database.results.headD .empty) <;> rfl

theorem outcome_step (hsetup : setup.failure = none) (c : Course) (j : Job) (t : Terminal) :
    (c.step setup (.run j t)).1 =
      some (j.answer setup t (c.session.database.results.headD .empty)) := by
  show some (t.run (j.builder setup) c.session).1 = _
  unfold Job.answer
  cases h : j.compiled with
  | error e => rw [run_of_compiled_error setup j h]
  | ok query => rw [run_of_no_failure hsetup h]

theorem Course.IsSound.pulled {c : Course} (hc : c.IsSound setup) {i : Nat}
    {s s' : RowStream Store} {w' : Session Store} (hi : c.streams[i]? = some s)
    (h : Pulls s s' c.session w') : (⟨w', c.streams.set i s'⟩ : Course).IsSound setup := by
  intro stream hmem
  rcases List.mem_or_eq_of_mem_set hmem with hmem | rfl
  · exact hc stream hmem
  · rw [h.executor]
    exact hc s (List.mem_of_getElem? hi)

-- One action: only a run that reaches the driver takes one of its results.
theorem Course.IsSound.step (hsetup : setup.failure = none) (hc : c.IsSound setup) (a : Action) :
    (c.step setup a).2.IsSound setup ∧
      (c.step setup a).2.session.database.results =
        if a.reaches then c.session.database.results.tail else c.session.database.results := by
  cases a with
  | run j t =>
    refine ⟨hc, ?_⟩
    have hreaches : (Action.run j t).reaches = j.compiled.isOk := rfl
    show (t.run (j.builder setup) c.session).2.database.results = _
    rw [hreaches]
    cases h : j.compiled with
    | error e =>
      rw [run_of_compiled_error setup j h]
      rfl
    | ok query =>
      rw [run_of_no_failure hsetup h]
      rfl
  | openStream j chunkSize =>
    obtain ⟨hdatabase, hdriver⟩ := openStream_builder setup j chunkSize c.session
    rw [Course.step]
    rcases h : (j.builder setup).openStream chunkSize c.session with ⟨e | stream, w⟩
    · rw [h] at hdatabase
      dsimp only
      exact ⟨hc, congrArg Store.results hdatabase⟩
    · rw [h] at hdatabase hdriver
      dsimp only
      refine ⟨?_, congrArg Store.results hdatabase⟩
      intro s hs
      rcases List.mem_append.mp hs with hs | hs
      · exact hc s hs
      · exact List.eq_of_mem_singleton hs ▸ hdriver stream rfl
  | pull i count =>
    rw [Course.step]
    cases h : c.streams[i]? with
    | none => exact ⟨hc, rfl⟩
    | some s =>
      have hs : s.executor.driver = driver setup := hc s (List.mem_of_getElem? h)
      cases count with
      | some n =>
        have hpulls := pulls_pullMany hs n c.session
        exact ⟨hc.pulled h hpulls, hpulls.results⟩
      | none =>
        have hpulls := pulls_pullAll hs c.session
        exact ⟨hc.pulled h hpulls, hpulls.results⟩

-- A session: the results that are gone are those of the runs that reached the driver.
theorem Course.IsSound.outcome_run (hsetup : setup.failure = none) (hc : c.IsSound setup)
    (before after : List Action) (j : Job) (t : Terminal) :
    (c.run setup (before ++ .run j t :: after)).1[before.length]? =
      some (some (j.answer setup t
        (c.session.database.results[before.countP Action.reaches]?.getD .empty))) := by
  -- Each action before the run takes one result or none, so the index goes down with the queue.
  induction before generalizing c with
  | nil =>
    have hhead : c.session.database.results[0]?.getD .empty =
        c.session.database.results.headD .empty := by
      cases c.session.database.results <;> rfl
    rw [List.countP_nil, hhead, ← outcome_step hsetup]
    rfl
  | cons a rest ih =>
    obtain ⟨hsound, hresults⟩ := hc.step hsetup a
    have hrest : (c.run setup (a :: rest ++ .run j t :: after)).1[(a :: rest).length]? =
        ((c.step setup a).2.run setup (rest ++ .run j t :: after)).1[rest.length]? := rfl
    rw [hrest, ih hsound, hresults, List.countP_cons]
    cases a.reaches with
    | true => simp only [if_true, List.getElem?_tail]
    | false => simp only [Bool.false_eq_true, if_false, Nat.add_zero]

end

/-- A run calls every query hook once, in order.  If the query does not compile, it gives that error
and leaves the database alone; else the database receives this one query.  A failing driver's
message is the error of the run, without a result hook.  Otherwise the first prepared result is
taken, and the result hooks run up to the first that fails.  So in a session of runs and streams the
results go to the runs that reach the driver, one by one. -/
theorem one_dispatch_for_each_run (setup : Setup) :
    (∀ (j : Job) (t : Terminal) (w : Session Store),
      (Plugin.queryCalls j.plugins j.query).map Prod.fst = j.plugins ∧
        match j.compiled, setup.failure with
        | .error e, _ => t.run (j.builder setup) w = (.error e, w.note j.queryNotes)
        | .ok query, some message =>
          t.run (j.builder setup) w =
            (.error (.driver message),
              ⟨w.database.receive query, w.journal ++ j.queryNotes⟩)
        | .ok query, none =>
          let result := w.database.results.headD .empty
          let ran := (Plugin.resultCalls j.plugins result).map Prod.fst
          t.run (j.builder setup) w =
              (match Plugin.revised j.plugins result with
                | .error e => .error (.inContext (Plugin.resultContext j.id) e)
                | .ok result' => t.give j.rewritten
                    (Statement.outputs j.α setup.supportsReturning j.rewritten result'),
                ⟨{ w.database.receive query with results := w.database.results.tail },
                  w.journal ++ j.queryNotes ++ j.resultNotes result⟩) ∧
            match Plugin.revised j.plugins result with
            | .ok _ => ran = j.plugins
            | .error e => ∃ before p after given, j.plugins = before ++ p :: after ∧
                ran = before ++ [p] ∧ Plugin.revised before result = .ok given ∧
                p.onResult given = .error e) ∧
      (setup.failure = none →
        ∀ (w : Session Store) (before after : List Action) (j : Job) (t : Terminal),
          ((⟨w, []⟩ : Course).run setup (before ++ .run j t :: after)).1[before.length]? =
            some (some (j.answer setup t
              (w.database.results[before.countP Action.reaches]?.getD .empty)))) := by
  refine ⟨fun j t w => ⟨Plugin.map_fst_queryCalls j.plugins j.query, ?_⟩, ?_⟩
  · cases h : j.compiled with
    | error e => exact run_of_compiled_error setup j h t w
    | ok query =>
      cases hsetup : setup.failure with
      | some message =>
        dsimp only
        rw [run_of_compiled h, execute_of_failure setup query w.database hsetup]
        rfl
      | none =>
        refine ⟨run_of_no_failure hsetup h t w, ?_⟩
        cases hrevised : Plugin.revised j.plugins (w.database.results.headD .empty) with
        | ok result => exact Plugin.map_fst_resultCalls_of_ok hrevised
        | error e => exact Plugin.resultCalls_of_error hrevised
  · intro hsetup w before after j t
    have hsound : (⟨w, []⟩ : Course).IsSound setup := fun _ h => nomatch h
    exact hsound.outcome_run hsetup before after j t

-- The second of two deletes gets the second result, whatever a stream does between them.
theorem one_dispatch_for_each_run_delete :
    let setup : Setup := ⟨true, [.empty], none⟩
    let j : Job :=
      { α := Delete, id := ⟨0, "0"⟩, node := .ofTable (.ofName "t"), dialect := .postgres,
        plugins := [] }
    let w : Session Store := ⟨.ofResults [⟨[], none, some 1⟩, ⟨[], none, some 2⟩], []⟩
    setup.failure = none ∧
      ((⟨w, []⟩ : Course).run setup
        ([.run j .execute, .openStream j 1, .pull 0 none] ++ .run j .takeFirst :: [])).1[3]? =
          some (some (.ok (.first (some (.summary none 2))))) := by
  intro setup j w
  have hanswer : j.answer setup .takeFirst ⟨[], none, some 2⟩ =
      .ok (.first (some (.summary none 2))) := rfl
  have h := (one_dispatch_for_each_run setup).2 rfl w
    [.run j .execute, .openStream j 1, .pull 0 none] [] j .takeFirst
  exact ⟨rfl, h.trans (congrArg (fun outcome => some (some outcome)) hanswer)⟩

end SqlWeave.Memory
