import SqlWeave.Driver.Memory
import SqlWeave.Executor
import SqlWeave.Proofs.Hooks
import SqlWeave.Proofs.Rewriting
import SqlWeave.Text.Blank

/-!
# Chains of plugins that rewrite names

Mapping the names of a query by one function and then by another is mapping them once, by both.  So
a plugin that maps names by an idempotent function does the same when it is installed twice, and an
executor cannot tell the difference.
-/

namespace SqlWeave

theorem Rewrite.names_andThen_names (f g : String → String) :
    (names f).andThen (names g) = names (g ∘ f) := by
  have htable : Table.mapNames g ∘ Table.mapNames f = Table.mapNames (g ∘ f) :=
    funext fun t => t.mapNames_mapNames f g
  show (⟨Table.mapNames g ∘ Table.mapNames f, Table.mapNames g ∘ Table.mapNames f, g ∘ f⟩ : Rewrite)
    = ⟨Table.mapNames (g ∘ f), Table.mapNames (g ∘ f), g ∘ f⟩
  rw [htable]

theorem Query.rewrite_names_names (f g : String → String) (q : Query) :
    (q.rewrite (.names f)).rewrite (.names g) = q.rewrite (.names (g ∘ f)) := by
  rw [Query.rewrite_rewrite, Rewrite.names_andThen_names]

-- An idempotent function finds nothing more to change.
theorem Query.rewrite_names_idem {f : String → String} (hf : ∀ s, f (f s) = f s) (q : Query) :
    (q.rewrite (.names f)).rewrite (.names f) = q.rewrite (.names f) := by
  have hff : f ∘ f = f := funext hf
  rw [Query.rewrite_names_names, hff]

/-! ## Lists of plugins that do the same -/

namespace Plugin

theorem rewriteQuery_append (ps qs : List Plugin) (q : Query) :
    rewriteQuery (ps ++ qs) q =
      ((rewriteQuery ps q).1 ++ (rewriteQuery qs (rewriteQuery ps q).2).1,
        (rewriteQuery qs (rewriteQuery ps q).2).2) := by
  induction ps generalizing q with
  | nil => rfl
  | cons p rest ih =>
    rw [List.cons_append, rewriteQuery, rewriteQuery, ih]
    simp only [List.append_assoc]

-- The hooks of the second list run only if none of the first list fails.
theorem reviseResult_append (id : QueryId) (ps qs : List Plugin) (result : QueryResult) :
    reviseResult id (ps ++ qs) result =
      match reviseResult id ps result with
      | (notes, .ok result') =>
        (notes ++ (reviseResult id qs result').1, (reviseResult id qs result').2)
      | (notes, .error e) => (notes, .error e) := by
  induction ps generalizing result with
  | nil => rfl
  | cons p rest ih =>
    rw [List.cons_append, reviseResult, reviseResult]
    cases inContext (resultContext id) (p.onResult result) with
    | error e => rfl
    | ok result' =>
      simp only [ih]
      rcases reviseResult id rest result' with ⟨notes, e | result''⟩
      · rfl
      · simp only [List.append_assoc]

/-- The plugins of both lists do the same to every query and to every result, and note the same. -/
structure Alike (ps qs : List Plugin) : Prop where
  query : ∀ q, rewriteQuery ps q = rewriteQuery qs q
  result : ∀ id result, reviseResult id ps result = reviseResult id qs result

-- Plugins that run before or after them make no difference.
theorem Alike.among {ps qs : List Plugin} (h : Alike ps qs) (before after : List Plugin) :
    Alike (before ++ (ps ++ after)) (before ++ (qs ++ after)) where
  query q := by
    simp only [rewriteQuery_append, h.query]
  result id result := by
    simp only [reviseResult_append, h.result]

theorem alike_twice {f : String → String} (hf : ∀ s, f (f s) = f s) :
    Alike [ofRewrite (.names f), ofRewrite (.names f)] [ofRewrite (.names f)] where
  query q := congrArg (Prod.mk []) (q.rewrite_names_idem hf)
  result _ _ := rfl

end Plugin

/-! ## Executors that do the same -/

namespace Executor

variable {σ : Type}

/-- The executors have the same dialect and driver, and plugins that do the same. -/
structure Alike (x y : Executor σ) : Prop where
  dialect : x.dialect = y.dialect
  driver : x.driver = y.driver
  plugins : Plugin.Alike x.plugins y.plugins

variable {x y : Executor σ} (h : Alike x y)
include h

theorem Alike.compile (id : QueryId) (q : Query) (w : Session σ) :
    x.compile id q w = y.compile id q w := by
  unfold Executor.compile
  rw [h.plugins.query, h.dialect]

theorem Alike.revise (id : QueryId) (answer : Except String QueryResult) (w : Session σ) :
    x.revise id answer w = y.revise id answer w := by
  cases answer with
  | error message => rfl
  | ok result =>
    have hresult := h.plugins.result id result
    unfold Executor.revise
    simp only [hresult]

theorem Alike.execute (query : Compiled) (w : Session σ) :
    x.execute query w = y.execute query w := by
  unfold Executor.execute
  simp only [h.driver, h.revise]

theorem Alike.takeChunks (id : QueryId) (chunks : List (Except String QueryResult))
    (w : Session σ) : x.takeChunks id chunks w = y.takeChunks id chunks w := by
  induction chunks generalizing w with
  | nil => rfl
  | cons chunk rest ih =>
    have hchunk : x.takeChunk id chunk w = y.takeChunk id chunk w := by
      unfold Executor.takeChunk
      rw [h.driver, h.revise]
    rw [Executor.takeChunks, Executor.takeChunks, hchunk]
    simp only [ih]

theorem Alike.streamChunks (query : Compiled) (chunkSize : Nat) (w : Session σ) :
    x.streamChunks query chunkSize w = y.streamChunks query chunkSize w := by
  unfold Executor.streamChunks
  simp only [h.driver, h.takeChunks]

end Executor

/-! ## Main statement -/

/-- Mapping names by the identity changes no query, and mapping them by two functions in turn is
mapping them by the composition.  So a plugin that maps names by an idempotent function may as well
be installed once: at any place among other query hooks the rewritten query is the same, and if the
plugin has no other hook, all that an executor does is the same. -/
theorem rewriting_names_composes :
    (∀ q : Query, q.rewrite (.names id) = q) ∧
    (∀ (f g : String → String) (q : Query),
      (q.rewrite (.names f)).rewrite (.names g) = q.rewrite (.names (g ∘ f))) ∧
    ∀ f : String → String, (∀ s, f (f s) = f s) →
      (∀ (p : Plugin) (before after : List Plugin) (q : Query),
        p.onQuery = Query.rewrite (.names f) →
        Plugin.rewritten (before ++ p :: p :: after) q =
          Plugin.rewritten (before ++ p :: after) q) ∧
      ∀ {σ : Type} (x : Executor σ) (later : List Plugin),
        let p := Plugin.ofRewrite (.names f)
        let once := (x.withPlugin p).withPlugins later
        let twice := ((x.withPlugin p).withPlugin p).withPlugins later
        (∀ id q w, twice.compile id q w = once.compile id q w) ∧
        (∀ query w, twice.execute query w = once.execute query w) ∧
        ∀ query chunkSize w,
          twice.streamChunks query chunkSize w = once.streamChunks query chunkSize w := by
  refine ⟨Query.rewrite_identity, Query.rewrite_names_names, fun f hf => ⟨?_, ?_⟩⟩
  · intro p before after q hp
    rw [Plugin.rewritten_append, Plugin.rewritten_append]
    show Plugin.rewritten after (p.onQuery (p.onQuery _)) = Plugin.rewritten after (p.onQuery _)
    rw [hp, Query.rewrite_names_idem hf]
  · intro σ x later p once twice
    have hplugins : Plugin.Alike twice.plugins once.plugins := by
      have hamong := (Plugin.alike_twice hf).among x.plugins later
      simpa [twice, once, p, Executor.withPlugin, Executor.withPlugins] using hamong
    have halike : Executor.Alike twice once := ⟨rfl, rfl, hplugins⟩
    exact ⟨halike.compile, halike.execute, halike.streamChunks⟩

-- A plugin that ignores blanks around names, installed twice.
theorem rewriting_names_composes_trim :
    let p := Plugin.ofRewrite (.names Text.trim)
    let x : Executor Memory.Store := .ofDriver .postgres (Memory.driver ⟨true, [], none⟩)
    let q : Query := .delete (.ofTable ⟨none, " person "⟩)
    let w : Session Memory.Store := ⟨.ofResults [], []⟩
    (∀ s, Text.trim (Text.trim s) = Text.trim s) ∧ p.onQuery = Query.rewrite (.names Text.trim) ∧
      Plugin.rewritten ([] ++ p :: p :: []) q = .delete (.ofTable ⟨none, "person"⟩) ∧
      ((((x.withPlugin p).withPlugin p).withPlugins []).compile ⟨0, "0"⟩ q w).1.map (·.sql.text) =
        .ok "DELETE FROM \"person\"" := by
  have h := rewriting_names_composes.2.2 Text.trim Text.trim_idem
  intro p x q w
  have hquery := h.1 p [] [] q rfl
  have hcompile := (h.2 x []).1 ⟨0, "0"⟩ q w
  refine ⟨Text.trim_idem, rfl, hquery.trans ?_, ?_⟩
  · rfl
  · rw [hcompile]
    rfl

end SqlWeave
