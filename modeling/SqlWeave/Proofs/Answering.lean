import SqlWeave.Postgres.Client
import SqlWeave.Proofs.Pulling
import SqlWeave.Proofs.Streaming

/-!
# What a server's answer comes to

Whether a mutation gives rows is decided twice: by the driver, which fetches them or only counts
them, and by the builder, which hands them out or puts a summary in their place.  The two decide
alike, so no row is fetched in vain and no count is missing.
-/

namespace SqlWeave

/-! ## The result hooks of a run -/

namespace Executor

variable {σ : Type} (x : Executor σ)

theorem execute_fst (query : Compiled) (w : Session σ) :
    (x.execute query w).1 = x.answer query.id (x.driver.execute query w.database).1 :=
  x.revise_fst query.id _ _

end Executor

/-- Result hooks that replace each row by another and change nothing else. -/
def Plugin.MapRows (plugins : List Plugin) (g : Row → Row) : Prop :=
  ∀ result : QueryResult,
    revised plugins result = .ok { result with rows := result.rows.map g }

theorem Plugin.mapRows_nil : MapRows [] id := fun result => by rw [List.map_id]; rfl

theorem Plugin.MapRows.cons {p : Plugin} {plugins : List Plugin} {f g : Row → Row}
    (h : MapRows plugins g)
    (hp : ∀ result : QueryResult,
      p.onResult result = .ok { result with rows := result.rows.map f }) :
    MapRows (p :: plugins) (g ∘ f) := fun result => by
  rw [revised_cons_ok (hp result), h, List.map_map]

theorem Plugin.MapRows.cons_ofRewrite {plugins : List Plugin} {g : Row → Row}
    (h : MapRows plugins g) (r : Rewrite) : MapRows (ofRewrite r :: plugins) g := fun result => by
  rw [revised_cons_ok rfl]
  exact h result

theorem Executor.answer_of_mapRows {σ : Type} {x : Executor σ} {g : Row → Row}
    (h : Plugin.MapRows x.plugins g) (id : QueryId) (result : QueryResult) :
    x.answer id (.ok result) = .ok { result with rows := result.rows.map g } :=
  congrArg (inContext _) (h result)

/-! ## Mutations -/

/-- A kind of statement whose builders give what mutations give, whenever the compiled query is
one. -/
def GivesMutations (α : Type) [Statement α] : Prop :=
  ∀ supportsReturning (q : Query) result, q.isMutation = true →
    Statement.outputs α supportsReturning q result = mutationOutputs supportsReturning q result

theorem givesMutations :
    GivesMutations Insert ∧ GivesMutations Update ∧ GivesMutations Delete ∧
      GivesMutations Query :=
  ⟨fun _ _ _ _ => rfl, fun _ _ _ _ => rfl, fun _ _ _ _ => rfl,
    fun _ _ _ hmutation => if_pos hmutation⟩

namespace Builder

variable {σ α : Type} [Statement α] {b : Builder σ α} {w w' : Session σ} {query : Compiled}

-- What running a mutation gives is settled by the one answer of the driver.
theorem execute_fst_of_isMutation (hkind : GivesMutations α)
    (hcompile : b.compile w = (.ok query, w')) (hmutation : query.query.isMutation = true) :
    (b.execute w).1 =
      (b.executor.answer query.id (b.executor.driver.execute query w.database).1).map
        (mutationOutputs b.executor.driver.supportsReturning query.query) := by
  have hdatabase : w'.database = w.database := by
    have hcompiled : (b.compile w).2.database = w.database := rfl
    rwa [hcompile] at hcompiled
  have houtputs : b.outputs query =
      mutationOutputs b.executor.driver.supportsReturning query.query :=
    funext fun result => hkind _ _ result hmutation
  have hexecute : (b.execute w).1 =
      (b.executor.execute query w').1.map (b.outputs query) := by
    rw [execute, hcompile]
    rfl
  rw [hexecute, houtputs, Executor.execute_fst, hdatabase]

end Builder

namespace Postgres

/-! ## Rows on the wire -/

/-- Why a field cannot be read in a column: rows hold no values of the column's type, or the
content is not a value of it. -/
inductive Column.Refuses (c : Column) : Field → Error → Prop
  | unsupported (field : Field) (h : reader? c.type = none) :
    Refuses c field (.unsupportedType c.name c.type)
  | malformed (content : List UInt8) (reader : List UInt8 → Option Value)
    (h : reader? c.type = some reader) (hcontent : reader content = none) :
    Refuses c (some content) .delegate

theorem Column.read_eq_error_iff {c : Column} {field : Field} {e : Error} :
    c.read field = .error e ↔ c.Refuses field e := by
  constructor
  · intro h
    unfold Column.read at h
    cases htype : reader? c.type with
    | none =>
      rw [htype] at h
      obtain rfl := Except.error.inj h
      exact .unsupported field htype
    | some reader =>
      rw [htype] at h
      cases field with
      | none => exact nomatch h
      | some content =>
        dsimp only at h
        cases hcontent : reader content with
        | none =>
          rw [hcontent] at h
          obtain rfl := Except.error.inj h
          exact .malformed content reader htype hcontent
        | some v =>
          rw [hcontent] at h
          exact nomatch h
  · rintro (⟨_, htype⟩ | ⟨content, reader, htype, hcontent⟩)
    · unfold Column.read
      rw [htype]
    · unfold Column.read
      rw [htype]
      dsimp only
      rw [hcontent]

-- A list that cannot be mapped has an item that cannot.
theorem exists_of_mapM_error {ε α β : Type} {f : α → Except ε β} {xs : List α} {e : ε}
    (h : xs.mapM f = .error e) : ∃ x ∈ xs, f x = .error e := by
  induction xs with
  | nil => exact nomatch h
  | cons x rest ih =>
    rw [List.mapM_cons] at h
    cases hx : f x with
    | error e' =>
      rw [hx] at h
      obtain rfl : e' = e := Except.error.inj h
      exact ⟨x, List.mem_cons_self, hx⟩
    | ok y =>
      rw [hx] at h
      change (rest.mapM f >>= fun tail => .ok (y :: tail)) = .error e at h
      cases hrest : rest.mapM f with
      | error e' =>
        rw [hrest] at h
        obtain rfl : e' = e := Except.error.inj h
        obtain ⟨x', hmem, hx'⟩ := ih hrest
        exact ⟨x', List.mem_cons_of_mem x hmem, hx'⟩
      | ok ys =>
        rw [hrest] at h
        exact nomatch h

theorem eq_error_of_bind {ε α β : Type} {x : Except ε α} {f : α → β} {e : ε}
    (h : (x >>= fun a => .ok (f a)) = .error e) : x = .error e := by
  cases x with
  | error e' => exact congrArg Except.error (Except.error.inj h)
  | ok a => exact nomatch h

-- A row that cannot be read has a field that is refused.
theorem exists_of_readRow_error {columns : List Column} {fields : List Field} {e : Error}
    (h : readRow columns fields = .error e) :
    ∃ p ∈ columns.zip fields, p.1.Refuses p.2 e := by
  have hfields : readFields columns fields = .error e := eq_error_of_bind h
  obtain ⟨⟨column, field⟩, hmem, hentry⟩ := exists_of_mapM_error hfields
  have hread : column.read field = .error e := eq_error_of_bind hentry
  exact ⟨(column, field), hmem, Column.read_eq_error_iff.mp hread⟩

-- Rows can be read unless one of them has a field that is refused.
theorem mapM_readRow (columns : List Column) (rows : List (List Field)) :
    (∃ read, List.Forall₂ (fun fields row => readRow columns fields = .ok row) rows read ∧
      rows.mapM (readRow columns) = .ok read) ∨
    ∃ fields ∈ rows, ∃ p ∈ columns.zip fields, ∃ e, p.1.Refuses p.2 e ∧
      rows.mapM (readRow columns) = .error e := by
  cases hread : rows.mapM (readRow columns) with
  | ok read => exact .inl ⟨read, mapM_eq_ok_iff.mp hread, rfl⟩
  | error e =>
    obtain ⟨fields, hfields, hrow⟩ := exists_of_mapM_error hread
    obtain ⟨p, hp, hrefuses⟩ := exists_of_readRow_error hrow
    exact .inr ⟨fields, hfields, p, hp, e, hrefuses, rfl⟩

/-! ## Counts -/

theorem nat64?_digits {n : Nat} (h : n < Nat.pow 2 64) :
    Text.nat64? (Nat.toDigits 10 n) = some n := by
  have hsign : Text.expect ['+'] (Nat.toDigits 10 n) = none := by
    cases hdigits : Nat.toDigits 10 n with
    | nil => exact absurd hdigits Nat.toDigits_ne_nil
    | cons c rest =>
      have hplus : c ≠ '+' := by
        rintro rfl
        have hdigit : '+' ∈ Nat.toDigits 10 n := hdigits ▸ List.mem_cons_self
        exact absurd (Nat.isDigit_of_mem_toDigits (by decide) (by decide) hdigit) (by decide)
      simp only [Text.expect, if_neg hplus]
  simp only [Text.nat64?, hsign, Option.getD_none, Text.whole_number?_toDigits,
    Option.bind_eq_bind, Option.bind_some, if_pos h]
  rfl

-- The last word of a command's tag is the number of its rows.
theorem affectedRows_of_count (command : String) {n : Nat} (h : n < Nat.pow 2 64) :
    affectedRows (command ++ " " ++ toString n) = n := by
  have hblank : ∀ c ∈ (Nat.toDigits 10 n).reverse, (c != ' ') = true := by
    intro c hc
    have hdigit : c.isDigit = true :=
      Nat.isDigit_of_mem_toDigits (by decide) (by decide) (List.mem_reverse.mp hc)
    rw [bne_iff_ne]
    rintro rfl
    exact absurd hdigit (by decide)
  have hreverse : (command ++ " " ++ toString n).toList.reverse =
      (Nat.toDigits 10 n).reverse ++ ' ' :: command.toList.reverse := by
    rw [String.toList_append, String.toList_append, Nat.toString_eq_repr, Nat.toList_repr]
    simp
  have hword : (command ++ " " ++ toString n).toList.reverse.takeWhile (· != ' ') =
      (Nat.toDigits 10 n).reverse := by
    rw [hreverse, List.takeWhile_append_of_pos hblank, List.takeWhile_cons_of_neg (by decide),
      List.append_nil]
  rw [affectedRows, hword, List.reverse_reverse, nat64?_digits h]
  rfl

/-! ## Clients -/

namespace Client

variable (c : Client)

theorem server_connect : c.connect.2.server = c.server := by
  unfold connect
  dsimp only
  split_ifs <;> rfl

theorem server_prepare (sql : String) : (c.prepare sql).2.server = c.server := by
  unfold prepare
  dsimp only
  split_ifs <;> rfl

theorem server_run (params : List Value) : (c.run params).2.server = c.server := by
  unfold run
  split <;> rfl

theorem server_start (sql : Sql) : (c.start sql).2.server = c.server := by
  have hconnect := c.server_connect
  unfold start
  rcases hc : c.connect with ⟨e | ⟨⟩, c₁⟩ <;> rw [hc] at hconnect
  · exact hconnect
  · have hprepare := c₁.server_prepare sql.text
    dsimp only
    rcases hp : c₁.prepare sql.text with ⟨e | ⟨⟩, c₂⟩ <;> rw [hp] at hprepare
    · exact hprepare.trans hconnect
    · exact (c₂.server_run sql.params).trans (hprepare.trans hconnect)

-- A statement that gets through is answered by the server.
theorem response_of_start {sql : Sql} {r : Response} (h : (c.start sql).1 = .ok r) :
    c.server.response = .ok r := by
  have hconnect := c.server_connect
  unfold start at h
  rcases hc : c.connect with ⟨e | ⟨⟩, c₁⟩ <;> rw [hc] at h hconnect
  · exact nomatch h
  · have hprepare := c₁.server_prepare sql.text
    dsimp only at h hconnect
    rcases hp : c₁.prepare sql.text with ⟨e | ⟨⟩, c₂⟩ <;> rw [hp] at h hprepare
    · exact nomatch h
    · dsimp only at h hprepare
      rw [← hconnect, ← hprepare]
      unfold run at h
      split at h
      · exact nomatch h
      · exact h

variable {c}

theorem data_of_start {sql : Sql} {r : Response} (h : (c.start sql).1 = .ok r) :
    r.columns = c.server.columns ∧ r.rows = c.server.rows := by
  have hresponse := c.response_of_start h
  unfold Server.response at hresponse
  split at hresponse
  · exact nomatch hresponse
  · rw [← Except.ok.inj hresponse]
    exact ⟨rfl, rfl⟩

theorem fetchesRows_iff {q : Query} (h : q.isMutation = true) :
    fetchesRows q = true ↔ q.returning.isSome ∨ q.explain.isSome := by
  rw [fetchesRows, h, Bool.not_true, Bool.false_or, Bool.or_eq_true]

-- The builder hands rows out just where the driver asks for rows.
theorem mutationOutputs_of_isMutation {q : Query} (h : q.isMutation = true)
    (result : QueryResult) :
    mutationOutputs true q result =
      if fetchesRows q then result.rows.map .row
      else [.summary result.insertId (result.affectedRows.getD 0)] := by
  have hsame : fetchesRows q = wantsRows true q := by
    rw [fetchesRows, wantsRows, h, Bool.and_true, Bool.not_true, Bool.false_or, Bool.or_comm]
  rw [hsame]
  rfl

-- A statement on a connection that is made gets through unless it cannot be prepared or bound.
theorem start_fst {sql : Sql} {fields : List Field} (hconnected : c.connected = true)
    (hprepared : c.server.failure ≠ some .preparing)
    (hsent : (Message.prepare sql.text).canBeSent = true)
    (hbound : bindAll sql.params c.server.paramTypes = some fields) :
    (c.start sql).1 = c.server.response := by
  have hconnect : c.connect = (.ok (), c) := by
    rw [connect, hconnected]
    rfl
  have hprepare : c.prepare sql.text = (.ok (), c.send [.prepare sql.text]) := by
    rw [prepare, hsent, if_neg]
    exact not_or_intro hprepared Bool.false_ne_true
  rw [start, hconnect]
  dsimp only
  rw [hprepare]
  dsimp only
  rw [run, show (c.send [.prepare sql.text]).server = c.server from rfl, hbound]

theorem execute_fst (c : Client) (query : Compiled) :
    (c.execute query).1 = (c.start query.sql).1.bind (result c.server query.query) := by
  rw [← c.server_start query.sql]
  rfl

theorem driver_execute (describe : Error → String) (query : Compiled) :
    ((driver describe).execute query c).1 =
      ((c.start query.sql).1.bind (result c.server query.query)).mapError describe :=
  congrArg (Except.mapError describe) (c.execute_fst query)

section

variable (server : Server) {q : Query} {r : Response}

theorem result_of_fails (h : r.fails = true) : result server q r = .error .delegate := by
  unfold result Response.allRows
  rw [if_pos h, if_pos h]
  split <;> rfl

theorem result_of_fetchesRows (hmutation : q.isMutation = true) (hfetches : fetchesRows q = true)
    (h : r.fails = false) :
    result server q r =
      (r.rows.mapM (readRow r.columns)).map fun rows => ⟨rows, none, some rows.length⟩ := by
  have hrows : r.allRows = r.rows.mapM (readRow r.columns) := by
    rw [Response.allRows, h, if_neg Bool.false_ne_true, Response.converted, List.mapM_map]
    rfl
  rw [result, if_pos hfetches, hrows, hmutation]
  rfl

theorem result_of_not_fetchesRows (hfetches : fetchesRows q = false) (h : r.fails = false) :
    result server q r = .ok ⟨[], none, some (affectedRows server.tag)⟩ := by
  rw [result, hfetches, h, if_neg Bool.false_ne_true, if_neg Bool.false_ne_true]

end

end Client

/-! ## Main statement -/

/-- A mutation run on a server, under any plugins.  The driver asks for rows exactly when the
mutation gives something back or is to be explained, and exactly then the builder hands rows out.  A
failure of the connection or of the server is handed out as it is.  Where rows are asked for, the
hooks are told all rows of the server, in its order, and all that they make of them is handed out,
unless a field cannot be read.  Where they are not, the hooks are told the number of rows that the
server reports, and one summary is handed out. -/
theorem mutations_give_rows_or_count {α : Type} [Statement α] (hkind : GivesMutations α)
    {describe : Error → String} {b : Builder Client α}
    (hb : b.executor.driver = Client.driver describe) {w w' : Session Client} {query : Compiled}
    (hcompile : b.compile w = (.ok query, w')) (hmutation : query.query.isMutation = true) :
    let q := query.query
    let server := w.database.server
    let answer := (w.database.start query.sql).1
    let given := (b.execute w).1
    let failed (e : Error) : Except QueryError (List Output) := .error (.driver (describe e))
    let told (result : QueryResult) :=
      inContext (Plugin.resultContext query.id) (Plugin.revised b.executor.plugins result)
    (Client.fetchesRows q = true ↔ q.returning.isSome ∨ q.explain.isSome) ∧
    (∀ result, mutationOutputs true q result =
      if Client.fetchesRows q then result.rows.map .row
      else [.summary result.insertId (result.affectedRows.getD 0)]) ∧
    (∀ e, answer = .error e → given = failed e) ∧
    ∀ r, answer = .ok r →
      (r.fails = true → given = failed .delegate) ∧
      (r.fails = false → q.returning.isSome ∨ q.explain.isSome →
        (∃ rows,
          List.Forall₂ (fun fields row => readRow server.columns fields = .ok row)
            server.rows rows ∧
          given = (told ⟨rows, none, some rows.length⟩).map (fun result =>
            result.rows.map .row) ∧
          ∀ g, Plugin.MapRows b.executor.plugins g →
            given = .ok (rows.map fun row => .row (g row))) ∨
        ∃ fields ∈ server.rows, ∃ p ∈ server.columns.zip fields, ∃ e,
          p.1.Refuses p.2 e ∧ given = failed e) ∧
      (r.fails = false → q.returning = none → q.explain = none →
        given = (told ⟨[], none, some (affectedRows server.tag)⟩).map (fun result =>
          [.summary result.insertId (result.affectedRows.getD 0)]) ∧
        ∀ g, Plugin.MapRows b.executor.plugins g →
          given = .ok [.summary none (affectedRows server.tag)] ∧
          ∀ command n, server.tag = command ++ " " ++ toString n → n < Nat.pow 2 64 →
            given = .ok [.summary none n]) := by
  intro q server answer given failed told
  have houtputs := Client.mutationOutputs_of_isMutation hmutation
  have hgiven : given = (b.executor.answer query.id
      ((answer.bind (Client.result server q)).mapError describe)).map (mutationOutputs true q) := by
    rw [← Client.driver_execute]
    show (b.execute w).1 = _
    rw [Builder.execute_fst_of_isMutation hkind hcompile hmutation, hb]
    rfl
  refine ⟨Client.fetchesRows_iff hmutation, houtputs, fun e he => ?_, fun r hr => ?_⟩
  · rw [hgiven, he]
    rfl
  rw [hr] at hgiven
  change given = (b.executor.answer query.id
    ((Client.result server q r).mapError describe)).map (mutationOutputs true q) at hgiven
  refine ⟨fun hfails => ?_, fun hfails hasked => ?_, fun hfails hreturning hexplain => ?_⟩
  · rw [hgiven, Client.result_of_fails server hfails]
    rfl
  · have hasks : Client.fetchesRows q = true := (Client.fetchesRows_iff hmutation).mpr hasked
    have hall : mutationOutputs true q = fun result => result.rows.map .row :=
      funext fun result => (houtputs result).trans (if_pos hasks)
    obtain ⟨hcolumns, hrows⟩ := Client.data_of_start hr
    rw [Client.result_of_fetchesRows server hmutation hasks hfails, hcolumns, hrows, hall]
      at hgiven
    obtain ⟨rows, hforall, hread⟩ | ⟨fields, hfields, p, hp, e, hrefuses, hread⟩ :=
      mapM_readRow server.columns server.rows
    · rw [hread] at hgiven
      refine .inl ⟨rows, hforall, hgiven, fun g hg => ?_⟩
      have htold := congrArg (Except.map fun result => result.rows.map Output.row)
        (Executor.answer_of_mapRows hg query.id ⟨rows, none, some rows.length⟩)
      exact hgiven.trans (htold.trans (congrArg Except.ok List.map_map))
    · rw [hread] at hgiven
      exact .inr ⟨fields, hfields, p, hp, e, hrefuses, hgiven⟩
  · have hcounts : Client.fetchesRows q = false := by
      rw [Client.fetchesRows, hmutation, hreturning, hexplain]
      rfl
    have hone : mutationOutputs true q = fun result =>
        [.summary result.insertId (result.affectedRows.getD 0)] :=
      funext fun result => (houtputs result).trans (if_neg (hcounts ▸ Bool.false_ne_true))
    rw [Client.result_of_not_fetchesRows server hcounts hfails, hone] at hgiven
    refine ⟨hgiven, fun g hg => ?_⟩
    have hcount : given = .ok [.summary none (affectedRows server.tag)] :=
      hgiven.trans (congrArg (Except.map _) (Executor.answer_of_mapRows hg query.id _))
    refine ⟨hcount, fun command n htag hn => ?_⟩
    rw [hcount, htag, affectedRows_of_count command hn]

-- Two rows are deleted, and given back or only counted.
theorem mutations_give_rows_or_count_delete :
    let rows : List Row := [.ofList [("is_tame", .bool true)], .ofList [("is_tame", .null)]]
    let server : Server :=
      ⟨true, false, [], [⟨"is_tame", .bool⟩], [[some [1]], [none]], "DELETE 2", none⟩
    let w : Session Client := ⟨⟨server, ⟨"user", ""⟩, true, []⟩, []⟩
    let camel : Plugin :=
      { Plugin.idle with onResult := fun result => .ok (Plugin.camelColumns result) }
    let b (node : Delete) : Builder Client Delete :=
      ⟨⟨0, "0"⟩, node, ⟨.postgres, Client.driver fun _ => "lost", [.schema "app", camel]⟩⟩
    let pets : Delete := .ofTable (.ofName "pet")
    let returning : Delete := { pets with returning := some [.reference none "is_tame"] }
    ((b pets).execute w).1 = .ok [.summary none 2] ∧
      ((b returning).execute w).1 =
        .ok (rows.map fun row => .row (row.mapColumns Text.camelCase)) := by
  intro rows server w camel b pets returning
  have hhooks : Plugin.MapRows [.schema "app", camel]
      (id ∘ fun row => row.mapColumns Text.camelCase) :=
    .cons_ofRewrite (.cons Plugin.mapRows_nil fun _ => rfl) (.schema "app")
  have hstart {sql : Sql} (hsent : (Message.prepare sql.text).canBeSent = true)
      (hparams : sql.params = []) :
      (w.database.start sql).1 = .ok ⟨server.columns, server.rows, false⟩ :=
    Client.start_fst rfl (fun h => nomatch h) hsent
      (by rw [hparams]; rfl : Postgres.bindAll sql.params server.paramTypes = some [])
  constructor
  · obtain ⟨query, hcompile, hmutation, hreturning, hexplain, hsent, hparams⟩ :
        ∃ query, (b pets).compile w = (.ok query, w) ∧ query.query.isMutation = true ∧
          query.query.returning = none ∧ query.query.explain = none ∧
          (Message.prepare query.sql.text).canBeSent = true ∧ query.sql.params = [] :=
      ⟨_, rfl, rfl, rfl, rfl, by decide +kernel, rfl⟩
    obtain ⟨-, -, -, hresponse⟩ := mutations_give_rows_or_count givesMutations.2.2.1
      (b := b pets) rfl hcompile hmutation
    obtain ⟨-, -, hcount⟩ := hresponse _ (hstart hsent hparams)
    exact ((hcount rfl hreturning hexplain).2 _ hhooks).2 "DELETE" 2 (by decide +kernel) (by decide)
  · obtain ⟨query, hcompile, hmutation, hreturning, hsent, hparams⟩ :
        ∃ query, (b returning).compile w = (.ok query, w) ∧ query.query.isMutation = true ∧
          query.query.returning.isSome = true ∧
          (Message.prepare query.sql.text).canBeSent = true ∧ query.sql.params = [] :=
      ⟨_, rfl, rfl, rfl, by decide +kernel, rfl⟩
    obtain ⟨-, -, -, hresponse⟩ := mutations_give_rows_or_count givesMutations.2.2.1
      (b := b returning) rfl hcompile hmutation
    obtain ⟨-, hrows, -⟩ := hresponse _ (hstart hsent hparams)
    have hread : List.Forall₂ (fun fields row => readRow server.columns fields = .ok row)
        server.rows rows := .cons rfl (.cons rfl .nil)
    obtain ⟨rows', hread', -, hgiven⟩ | ⟨fields, hfields, p, hp, e, hrefuses, -⟩ :=
      hrows rfl (.inl hreturning)
    · have hsame : rows' = rows :=
        Except.ok.inj ((mapM_eq_ok_iff.mpr hread').symm.trans (mapM_eq_ok_iff.mpr hread))
      rw [← hsame]
      exact hgiven _ hhooks
    · have hfine : ∀ fields ∈ server.rows, ∀ p ∈ server.columns.zip fields,
          ∃ v, p.1.read p.2 = .ok v := by
        simp only [server, List.forall_mem_cons, List.zip_cons_cons, List.zip_nil_left]
        exact ⟨⟨⟨_, rfl⟩, nofun⟩, ⟨⟨_, rfl⟩, nofun⟩, nofun⟩
      obtain ⟨v, hv⟩ := hfine fields hfields p hp
      exact nomatch hv.symm.trans (Column.read_eq_error_iff.mpr hrefuses)

end Postgres

end SqlWeave
