import SqlWeave.Proofs.Chaining
import SqlWeave.Proofs.Creating

/-!
# Schemas that find nothing to do

A table that was given a schema keeps it, so a schema given later is absorbed, also when the names
were mapped in between.  Giving a schema before the names are mapped is giving the mapped schema
after it, so the order of the two is free exactly when the schema is mapped to itself.
-/

namespace SqlWeave

namespace Rewrite

/-- After the first rewriting the second finds nothing to change. -/
def Absorbs (r r' : Rewrite) : Prop := r.andThen r' = r

theorem within_some_absorbs_schema (s s' : String) (f : String → String) :
    (within (some s) f).Absorbs (.schema s') := by
  have htable : ((within (some s) f).andThen (.schema s')).table = (within (some s) f).table := by
    funext t
    rcases t with ⟨_ | own, name⟩ <;> rfl
  rw [Absorbs, andThen, within, mk.injEq]
  exact ⟨htable, rfl, rfl⟩

theorem schema_eq_within (s : String) : schema s = within (some s) id := by
  have htable : (schema s).table = (within (some s) id).table := by
    funext t
    rcases t with ⟨_ | own, name⟩ <;> rfl
  have hqualifier : (schema s).qualifier = Table.mapNames id :=
    funext fun t => t.mapNames_id.symm
  rw [schema, within, mk.injEq]
  exact ⟨htable, hqualifier, rfl⟩

theorem schema_absorbs_schema (s s' : String) : (schema s).Absorbs (.schema s') := by
  rw [schema_eq_within s]
  exact within_some_absorbs_schema s s' id

theorem schema_andThen_names (s : String) (f : String → String) :
    (schema s).andThen (.names f) = (names f).andThen (.schema (f s)) := by
  have htable : ((schema s).andThen (.names f)).table =
      ((names f).andThen (.schema (f s))).table := by
    funext t
    rcases t with ⟨_ | own, name⟩ <;> rfl
  rw [andThen, andThen, mk.injEq]
  exact ⟨htable, rfl, rfl⟩

end Rewrite

namespace Query

theorem rewrite_of_absorbs {r r' : Rewrite} (h : r.Absorbs r') (q : Query) :
    (q.rewrite r).rewrite r' = q.rewrite r := by
  rw [rewrite_rewrite, h]

theorem rewrite_schema_names (s : String) (f : String → String) (q : Query) :
    (q.rewrite (.schema s)).rewrite (.names f) =
      (q.rewrite (.names f)).rewrite (.schema (f s)) := by
  rw [rewrite_rewrite, Rewrite.schema_andThen_names, ← rewrite_rewrite]

-- A table without a schema tells whether the schema was mapped.
theorem rewrite_schema_names_comm_iff (s : String) (f : String → String) :
    (∀ q : Query,
      (q.rewrite (.schema s)).rewrite (.names f) = (q.rewrite (.names f)).rewrite (.schema s)) ↔
        f s = s := by
  constructor
  · intro h
    have htable := h (.delete (.ofTable (.ofName "")))
    simp only [rewrite, Delete.rewrite, Query.delete.injEq, Delete.mk.injEq] at htable
    have hschema : some (f s) = some s := congrArg Table.schema htable.1
    exact Option.some.inj hschema
  · intro hs q
    rw [rewrite_schema_names, hs]

end Query

/-! ## Schemas among plugins -/

namespace Plugin

theorem reviseResult_schema_cons (id : QueryId) (s : String) (ps : List Plugin)
    (result : QueryResult) :
    reviseResult id (schema s :: ps) result = reviseResult id ps result := by
  have hrevised : inContext (resultContext id) ((schema s).onResult result) = .ok result := rfl
  rw [reviseResult, hrevised]
  rfl

section

variable {s : String} {between : List Plugin} {fs : List (String → String)}
  (h : List.Forall₂ (fun p f => p.onQuery = Query.rewrite (.names f)) between fs)
include h

theorem rewritten_schema_renamings (q : Query) :
    rewritten (.schema s :: between) q = q.rewrite (.within (some s) (renamings fs)) := by
  have hrenamings := rewritten_renamings h (some s) id q
  rw [← Rewrite.schema_eq_within] at hrenamings
  exact hrenamings

-- Names that were mapped in between do not take the schema away.
theorem alike_schema_absorbed (s' : String) :
    Alike (.schema s :: between ++ [.schema s']) (.schema s :: between) where
  query q := by
    have habsorbed : (rewritten (.schema s :: between) q).rewrite (.schema s') =
        rewritten (.schema s :: between) q := by
      rw [rewritten_schema_renamings h]
      exact q.rewrite_of_absorbs (Rewrite.within_some_absorbs_schema s s' _)
    have hlast : rewriteQuery [.schema s'] (rewriteQuery (.schema s :: between) q).2 =
        ([], (rewriteQuery (.schema s :: between) q).2) := by
      rw [rewriteQuery_eq (.schema s :: between)]
      exact congrArg (Prod.mk []) habsorbed
    rw [rewriteQuery_append, hlast, List.append_nil]
  result id result := by
    rw [reviseResult_append]
    rcases reviseResult id (.schema s :: between) result with ⟨notes, e | result'⟩
    · rfl
    · exact congrArg (·, Except.ok result') (List.append_nil notes)

end

-- What a plugin notes about queries may tell the orders apart, so the plugin must note nothing.
theorem alike_schema_swapped {p : Plugin} {s : String} {f : String → String} (hs : f s = s)
    (hp : p.onQuery = Query.rewrite (.names f)) (hnotes : ∀ q, p.noteQuery q = []) :
    Alike [.schema s, p] [p, .schema s] where
  query q := by
    have hswap := (Query.rewrite_schema_names_comm_iff s f).mpr hs q
    simp only [rewriteQuery, hnotes, hp, List.append_nil, List.nil_append]
    exact congrArg (Prod.mk []) hswap
  result id result := by
    rw [reviseResult_schema_cons]
    simp only [reviseResult]
    cases inContext (resultContext id) (p.onResult result) <;> rfl

end Plugin

/-- Whoever runs queries cannot tell the executors apart. -/
structure Executor.Interchangeable {σ : Type} (x y : Executor σ) : Prop where
  compile : ∀ id q w, x.compile id q w = y.compile id q w
  execute : ∀ query w, x.execute query w = y.execute query w
  streamChunks : ∀ query chunkSize w,
    x.streamChunks query chunkSize w = y.streamChunks query chunkSize w

theorem Executor.Alike.interchangeable {σ : Type} {x y : Executor σ} (h : x.Alike y) :
    x.Interchangeable y :=
  ⟨h.compile, h.execute, h.streamChunks⟩

theorem Executor.interchangeable_of_alike {σ : Type} (x : Executor σ) {ps qs : List Plugin}
    (h : Plugin.Alike ps qs) (later : List Plugin) :
    ((x.withPlugins ps).withPlugins later).Interchangeable
      ((x.withPlugins qs).withPlugins later) := by
  have hamong := h.among x.plugins later
  have halike : Executor.Alike ((x.withPlugins ps).withPlugins later)
      ((x.withPlugins qs).withPlugins later) := by
    refine ⟨rfl, rfl, ?_⟩
    simpa only [Executor.withPlugins, List.append_assoc] using hamong
  exact halike.interchangeable

/-! ## Main statement -/

/-- Giving a schema to the tables of a query leaves nothing to a schema given later, and mapping the
names of a query in a schema is giving the mapped schema to the query with its names mapped.  So of
two schemas installed in an executor the second may as well be left out, whatever maps names between
them; and a schema and a plugin that maps names may be installed in either order exactly when the
schema is mapped to itself. -/
theorem schema_absorbs_and_commutes :
    (∀ (s s' : String) (q : Query),
      (q.rewrite (.schema s)).rewrite (.schema s') = q.rewrite (.schema s)) ∧
    (∀ (s : String) (f : String → String) (q : Query),
      (q.rewrite (.schema s)).rewrite (.names f) =
        (q.rewrite (.names f)).rewrite (.schema (f s))) ∧
    (∀ {σ : Type} (x : Executor σ) (s s' : String) (between later : List Plugin)
      (fs : List (String → String)),
      List.Forall₂ (fun p f => p.onQuery = Query.rewrite (.names f)) between fs →
        (((x.withPlugins (.schema s :: between)).withPlugin (.schema s')).withPlugins
          later).Interchangeable ((x.withPlugins (.schema s :: between)).withPlugins later)) ∧
    ∀ (s : String) (f : String → String),
      ((∀ q : Query, (q.rewrite (.schema s)).rewrite (.names f) =
        (q.rewrite (.names f)).rewrite (.schema s)) ↔ f s = s) ∧
      ∀ {σ : Type} (x : Executor σ) (p : Plugin) (later : List Plugin), f s = s →
        p.onQuery = Query.rewrite (.names f) → (∀ q, p.noteQuery q = []) →
          (((x.withPlugin (.schema s)).withPlugin p).withPlugins later).Interchangeable
            (((x.withPlugin p).withPlugin (.schema s)).withPlugins later) := by
  refine ⟨fun s s' q => q.rewrite_of_absorbs (Rewrite.schema_absorbs_schema s s'),
    Query.rewrite_schema_names, ?_, fun s f => ⟨Query.rewrite_schema_names_comm_iff s f, ?_⟩⟩
  · intro σ x s s' between later fs h
    have hall := x.interchangeable_of_alike (Plugin.alike_schema_absorbed (s := s) h s') later
    have hsplit : x.withPlugins (.schema s :: between ++ [.schema s']) =
        (x.withPlugins (.schema s :: between)).withPlugin (.schema s') := by
      simp only [Executor.withPlugin, Executor.withPlugins, List.append_assoc]
    rwa [hsplit] at hall
  · intro σ x p later hs hp hnotes
    have hall := x.interchangeable_of_alike (Plugin.alike_schema_swapped hs hp hnotes) later
    have hsplit (p p' : Plugin) : x.withPlugins [p, p'] = (x.withPlugin p).withPlugin p' := by
      simp only [Executor.withPlugin, Executor.withPlugins, List.append_assoc]
      rfl
    rwa [hsplit, hsplit] at hall

-- Two schemas around the plugin for camel case, and one schema on either side of it.
theorem schema_absorbs_and_commutes_camelCase :
    let camel := Plugin.camelCase false
    let x : Executor Memory.Store := .ofDriver .postgres (Memory.driver ⟨true, [], none⟩)
    let id : QueryId := ⟨0, "0"⟩
    let w : Session Memory.Store := ⟨.ofResults [], []⟩
    let q : Query := .delete (.ofTable (.ofName "petOwner"))
    let text := "DELETE FROM \"app\".\"pet_owner\""
    List.Forall₂ (fun p f => p.onQuery = Query.rewrite (.names f)) [camel] [Text.snakeCase] ∧
      Text.snakeCase "app" = "app" ∧ camel.onQuery = Query.rewrite (.names Text.snakeCase) ∧
      (∀ q, camel.noteQuery q = []) ∧
      ((((x.withPlugins [.schema "app", camel]).withPlugin (.schema "b")).compile id q w).1.map
        (·.sql.text) = .ok text) ∧
      ((((x.withPlugin camel).withPlugin (.schema "app")).compile id q w).1.map (·.sql.text) =
        .ok text) := by
  intro camel x id w q text
  have hrenames : List.Forall₂ (fun p f => p.onQuery = Query.rewrite (.names f))
      [camel] [Text.snakeCase] := .cons rfl .nil
  have hschema : Text.snakeCase "app" = "app" := by decide +kernel
  have hname : Text.snakeCase "petOwner" = "pet_owner" := by decide +kernel
  obtain ⟨-, -, habsorbed, horder⟩ := schema_absorbs_and_commutes
  have htwice := (habsorbed x "app" "b" [camel] [] [Text.snakeCase] hrenames).compile id q w
  have hswapped :=
    ((horder "app" Text.snakeCase).2 x camel [] hschema rfl fun _ => rfl).compile id q w
  have htext : ((x.withPlugins [.schema "app", camel]).compile id q w).1.map (·.sql.text) =
      .ok text := by
    let table : Table := ⟨some (Text.snakeCase "app"), Text.snakeCase "petOwner"⟩
    show ((Query.delete (.ofTable table)).compileAs .postgres id).map (·.sql.text) = _
    unfold table
    rw [hschema, hname]
    rfl
  refine ⟨hrenames, hschema, rfl, fun _ => rfl, ?_, ?_⟩
  · exact (congrArg (fun out => out.1.map (·.sql.text)) htwice).trans htext
  · exact (congrArg (fun out => out.1.map (·.sql.text)) hswapped).symm.trans htext

end SqlWeave
