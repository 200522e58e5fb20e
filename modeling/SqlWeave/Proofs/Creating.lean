import SqlWeave.Creator
import SqlWeave.Driver.Memory
import SqlWeave.Proofs.Hooks
import SqlWeave.Proofs.Layout

/-!
# Runs of calls on creators

Schemas are put before the other plugins, so the schema that is given last runs first and leaves
nothing to the schemas given before it.  The other plugins run in the order of the calls, on tables
that have their schema.
-/

namespace SqlWeave

open TablePlace (writtenTables)

/-- A call on a creator that gives a creator with other plugins. -/
inductive CreatorCall where
  | plugin (p : Plugin)
  | schema (name : String)
  | noPlugins

namespace CreatorCall

def toEdit : CreatorCall → CreatorEdit
  | .plugin p => .plugin p
  | .schema name => .schema name
  | .noPlugins => .noPlugins

def isReset : CreatorCall → Bool
  | .noPlugins => true
  | _ => false

def plugin? : CreatorCall → Option Plugin
  | .plugin p => some p
  | _ => none

def schema? : CreatorCall → Option String
  | .schema name => some name
  | _ => none

/-- The calls after the last one that takes all plugins away. -/
def sinceReset (calls : List CreatorCall) : List CreatorCall :=
  calls.rtakeWhile fun call => !call.isReset

/-- The schemas that were not taken away, in the order of the calls. -/
def schemas (calls : List CreatorCall) : List String := (sinceReset calls).filterMap schema?

/-- The plugins that were not taken away and are not those of schemas given by the calls, in the
order of the calls.  The creator's own plugins come first. -/
def others (own : List Plugin) (calls : List CreatorCall) : List Plugin :=
  (if calls.any isReset then [] else own) ++ (sinceReset calls).filterMap plugin?

/-- The plugins after calls on a creator with some plugins of its own: the schemas from the last one
to the first, and then the others. -/
def plugins (own : List Plugin) (calls : List CreatorCall) : List Plugin :=
  ((schemas calls).map Plugin.schema).reverse ++ others own calls

section

variable (own : List Plugin) (calls : List CreatorCall) {call : CreatorCall}

theorem sinceReset_concat (h : call.isReset = false) :
    sinceReset (calls ++ [call]) = sinceReset calls ++ [call] := by
  refine List.rtakeWhile_concat_pos _ calls call ?_
  rw [h]
  rfl

theorem schemas_concat (h : call.isReset = false) :
    schemas (calls ++ [call]) = schemas calls ++ call.schema?.toList := by
  rw [schemas, sinceReset_concat calls h, List.filterMap_append, schemas]
  cases call <;> rfl

theorem others_concat (h : call.isReset = false) :
    others own (calls ++ [call]) = others own calls ++ call.plugin?.toList := by
  have hany : (calls ++ [call]).any isReset = calls.any isReset := by
    rw [List.any_append, List.any_cons, h, List.any_nil, Bool.or_false, Bool.or_false]
  rw [others, hany, sinceReset_concat calls h, List.filterMap_append, others, List.append_assoc]
  cases call <;> rfl

theorem plugins_concat_plugin (p : Plugin) :
    plugins own (calls ++ [.plugin p]) = plugins own calls ++ [p] := by
  have hschemas := schemas_concat calls (rfl : isReset (.plugin p) = false)
  have hothers := others_concat own calls (rfl : isReset (.plugin p) = false)
  rw [plugins, hschemas, hothers, plugins, List.append_assoc]
  exact congrArg (fun names => (List.map Plugin.schema names).reverse ++ _) (List.append_nil _)

theorem plugins_concat_schema (s : String) :
    plugins own (calls ++ [.schema s]) = .schema s :: plugins own calls := by
  have hschemas := schemas_concat calls (rfl : isReset (.schema s) = false)
  have hothers := others_concat own calls (rfl : isReset (.schema s) = false)
  rw [plugins, hschemas, hothers, List.map_append, List.reverse_append, plugins]
  exact congrArg (fun ps => Plugin.schema s :: (_ ++ ps)) (List.append_nil _)

theorem plugins_concat_noPlugins : plugins own (calls ++ [.noPlugins]) = [] := by
  have hsince : sinceReset (calls ++ [.noPlugins]) = [] :=
    List.rtakeWhile_concat_neg _ calls .noPlugins (by decide)
  have hany : (calls ++ [noPlugins]).any isReset = true := by
    rw [List.any_append]
    exact Bool.or_true _
  rw [plugins, schemas, others, hany, hsince]
  rfl

end

end CreatorCall

namespace Creator

variable {σ : Type}

/-- The creator after calls in order. -/
def run (c : Creator σ) (calls : List CreatorCall) : Creator σ :=
  calls.foldl (fun c call => c.edit call.toEdit) c

/-- The creators that calls give one after the other, from the first creator on. -/
def stages (c : Creator σ) (calls : List CreatorCall) : List (Creator σ) :=
  calls.scanl (fun c call => c.edit call.toEdit) c

theorem run_concat (c : Creator σ) (calls : List CreatorCall) (call : CreatorCall) :
    c.run (calls ++ [call]) = (c.run calls).edit call.toEdit :=
  List.foldl_append

theorem plugins_run (c : Creator σ) (calls : List CreatorCall) :
    (c.run calls).executor.plugins = CreatorCall.plugins c.executor.plugins calls := by
  induction calls using List.reverseRecOn with
  | nil => exact (List.append_nil _).symm
  | append_singleton calls call ih =>
    rw [run_concat]
    cases call with
    | plugin p =>
      rw [CreatorCall.plugins_concat_plugin, ← ih]
      rfl
    | schema s =>
      rw [CreatorCall.plugins_concat_schema, ← ih]
      rfl
    | noPlugins =>
      rw [CreatorCall.plugins_concat_noPlugins]
      rfl

theorem getElem?_stages (c : Creator σ) {calls : List CreatorCall} {n : Nat}
    (hn : n ≤ calls.length) : (c.stages calls)[n]? = some (c.run (calls.take n)) := by
  rw [stages, List.getElem?_scanl, if_pos hn]
  rfl

end Creator

/-! ## Schemas before renamings -/

/-- One renaming after the other. -/
def renamings (fs : List (String → String)) (s : String) : String := fs.foldl (fun s f => f s) s

/-- The rewriting that gives a schema, if there is one, to the tables without a schema, and then
renames everything, the schema included. -/
def Rewrite.within (schema : Option String) (f : String → String) : Rewrite where
  table t := ⟨(t.schema.or schema).map f, f t.name⟩
  qualifier := Table.mapNames f
  identifier := f

namespace Rewrite

theorem within_none_id : within none id = identity := by
  have htable : (within none id).table = Table.mapNames id := by
    funext t
    rcases t with ⟨_ | schema, name⟩ <;> rfl
  rw [within, mk.injEq]
  exact ⟨htable, rfl, rfl⟩

theorem within_andThen_schema (schema : Option String) (s : String) :
    (within schema id).andThen (.schema s) = within (schema.or (some s)) id := by
  have htable : ((within schema id).andThen (.schema s)).table =
      (within (schema.or (some s)) id).table := by
    funext t
    rcases t with ⟨_ | own, name⟩ <;> cases schema <;> rfl
  rw [andThen, within, mk.injEq]
  exact ⟨htable, rfl, rfl⟩

theorem within_andThen_names (schema : Option String) (f g : String → String) :
    (within schema f).andThen (.names g) = within schema (g ∘ f) := by
  have htable : ((within schema f).andThen (.names g)).table = (within schema (g ∘ f)).table := by
    funext t
    show (⟨((t.schema.or schema).map f).map g, g (f t.name)⟩ : Table) = _
    rw [Option.map_map]
    rfl
  have hqualifier : Table.mapNames g ∘ Table.mapNames f = Table.mapNames (g ∘ f) :=
    funext (Table.mapNames_mapNames f g)
  rw [andThen, within, mk.injEq]
  exact ⟨htable, hqualifier, rfl⟩

end Rewrite

namespace Plugin

-- The first schema to run is the one that tables without a schema get.
theorem rewritten_schemas (names : List String) (schema : Option String) (q : Query) :
    rewritten (names.map Plugin.schema) (q.rewrite (.within schema id)) =
      q.rewrite (.within (schema.or names.head?) id) := by
  -- What has run so far is one rewriting, whose schema is the first that was met.
  induction names generalizing schema with
  | nil =>
    rw [List.head?_nil, Option.or_none]
    rfl
  | cons s rest ih =>
    have hstep : (Plugin.schema s).onQuery (q.rewrite (.within schema id)) =
        q.rewrite (.within (schema.or (some s)) id) := by
      show (q.rewrite (.within schema id)).rewrite (.schema s) = _
      rw [Query.rewrite_rewrite, Rewrite.within_andThen_schema]
    have hor : (schema.or (some s)).or rest.head? = schema.or (some s) := by
      cases schema <;> rfl
    show rewritten (rest.map Plugin.schema) ((Plugin.schema s).onQuery _) = _
    rw [hstep, ih, hor, List.head?_cons]

theorem rewritten_renamings {plugins : List Plugin} {fs : List (String → String)}
    (h : List.Forall₂ (fun p f => p.onQuery = Query.rewrite (.names f)) plugins fs)
    (schema : Option String) (g : String → String) (q : Query) :
    rewritten plugins (q.rewrite (.within schema g)) =
      q.rewrite (.within schema (renamings fs ∘ g)) := by
  induction h generalizing g with
  | nil => rfl
  | @cons p f plugins fs hp _ ih =>
    have hstep : p.onQuery (q.rewrite (.within schema g)) = q.rewrite (.within schema (f ∘ g)) := by
      rw [hp, Query.rewrite_rewrite, Rewrite.within_andThen_names]
    show rewritten plugins (p.onQuery _) = _
    rw [hstep, ih]
    rfl

end Plugin

-- The schema given last runs first, the schemas before it find nothing to do, and the rest renames.
theorem CreatorCall.rewritten_plugins {own more : List Plugin} {calls : List CreatorCall}
    {fs : List (String → String)}
    (h : List.Forall₂ (fun p f => p.onQuery = Query.rewrite (.names f))
      (others own calls ++ more) fs)
    (q : Query) :
    Plugin.rewritten (plugins own calls ++ more) q =
      q.rewrite (.within (schemas calls).getLast? (renamings fs)) := by
  have hstart : q.rewrite (.within none id) = q := by
    rw [Rewrite.within_none_id, Query.rewrite_identity]
  have hschemas := Plugin.rewritten_schemas (schemas calls).reverse none q
  rw [hstart, List.map_reverse, List.head?_reverse, Option.none_or] at hschemas
  rw [plugins, List.append_assoc, Plugin.rewritten_append, hschemas, Plugin.rewritten_renamings h]
  rfl

theorem Builder.foldl_withPlugin {σ α : Type} (b : Builder σ α) (more : List Plugin) :
    more.foldl Builder.withPlugin b = { b with executor := b.executor.withPlugins more } := by
  induction more generalizing b with
  | nil =>
    show b = { b with executor := { b.executor with plugins := b.executor.plugins ++ [] } }
    rw [List.append_nil]
  | cons p rest ih =>
    show rest.foldl Builder.withPlugin (b.withPlugin p) = _
    rw [ih]
    show ({ b with executor := { b.executor with plugins := _ ++ [p] ++ rest } } : Builder σ α) = _
    rw [List.append_assoc]
    rfl

namespace Creator

variable {σ α : Type} [Statement α]

/-- The plugins after a run of calls, on the creator and then on a builder, and what they do to the
tables without a schema when the others only rename: such a table is written in the schema given
last, and both of its names are those after the renamings. -/
theorem schema_given_last (c : Creator σ) (calls : List CreatorCall) (id : QueryId) (node : α)
    (more : List Plugin) :
    let own := c.executor.plugins
    let b := more.foldl Builder.withPlugin ⟨id, node, (c.run calls).executor⟩
    b.executor.plugins = CreatorCall.plugins own calls ++ more ∧
      (∀ n ≤ calls.length, ∃ stage, (c.stages calls)[n]? = some stage ∧
        stage.executor.plugins = CreatorCall.plugins own (calls.take n)) ∧
      ∀ fs, List.Forall₂ (fun p f => p.onQuery = Query.rewrite (.names f))
          (CreatorCall.others own calls ++ more) fs →
        let q := b.toQuery
        let r := Rewrite.within (CreatorCall.schemas calls).getLast? (renamings fs)
        (∀ s ∈ (CreatorCall.schemas calls).getLast?, ∀ name,
          (Part.table (.ofName name)).pieces r =
            [.name (renamings fs s), .text ".", .name (renamings fs name)]) ∧
        ∃ parts : List Part, parts.filterMap Part.table? = writtenTables q.ownTables ∧
          q.pieces = parts.flatMap (Part.pieces .identity) ∧
          ∀ w, (b.compile w).1 =
            (Sql.ofPieces b.executor.dialect
              (q.explain.elim [] Explain.pieces ++ parts.flatMap (Part.pieces r))).map
              fun sql => ⟨sql, q.rewrite r, id⟩ := by
  intro own b
  have hb : b = ⟨id, node, (c.run calls).executor.withPlugins more⟩ :=
    Builder.foldl_withPlugin _ more
  have hplugins : b.executor.plugins = CreatorCall.plugins own calls ++ more := by
    rw [hb, ← plugins_run]
    rfl
  refine ⟨hplugins, ?_, ?_⟩
  · intro n hn
    exact ⟨c.run (calls.take n), c.getElem?_stages hn, c.plugins_run (calls.take n)⟩
  · intro fs hfs q r
    obtain ⟨parts, htables, hidentity, hparts⟩ := q.exists_parts
    have hrewritten : Plugin.rewritten b.executor.plugins q = q.rewrite r := by
      rw [hplugins]
      exact CreatorCall.rewritten_plugins hfs q
    have hcompile : ∀ w, (b.compile w).1 = (q.rewrite r).compileAs b.executor.dialect b.id := by
      intro w
      show ((Plugin.rewriteQuery b.executor.plugins q).2.compileAs b.executor.dialect b.id) = _
      rw [Plugin.rewriteQuery_eq, hrewritten]
    have htable : ∀ s ∈ (CreatorCall.schemas calls).getLast?, ∀ name,
        (Part.table (.ofName name)).pieces r =
          [.name (renamings fs s), .text ".", .name (renamings fs name)] := by
      intro s hs name
      have hr : r = .within (some s) (renamings fs) := congrArg (Rewrite.within · _) hs
      rw [hr]
      rfl
    have hid : b.id = id := by rw [hb]
    refine ⟨htable, parts, htables, hidentity, fun w => ?_⟩
    rw [hcompile, hid, Query.compileAs, Query.compile, Query.rootPieces_eq_append,
      Query.explain_rewrite, hparts]

-- One schema is taken away and two are stacked, with a renaming before and one after the last.
theorem schema_given_last_of_three :
    let suffix (s : String) (name : String) : String := name ++ s
    let rename (s : String) : Plugin := .ofRewrite (.names (suffix s))
    let calls : List CreatorCall :=
      [.schema "a", .noPlugins, .schema "b", .plugin (rename "1"), .schema "c"]
    let c : Creator Memory.Store := .ofDriver .postgres (Memory.driver ⟨true, [], none⟩)
    let b : Builder Memory.Store Delete :=
      ⟨⟨0, "0"⟩, .ofTable (.ofName "t"), (c.run calls).executor⟩
    List.Forall₂ (fun p f => p.onQuery = Query.rewrite (.names f))
        (CreatorCall.others [] calls ++ [rename "2"]) [suffix "1", suffix "2"] ∧
      (b.withPlugin (rename "2")).executor.plugins =
        [.schema "c", .schema "b", rename "1", rename "2"] ∧
      ∃ parts : List Part, parts.filterMap Part.table? = [.ofName "t"] ∧
        ∀ w, ((b.withPlugin (rename "2")).compile w).1 =
          (Sql.ofPieces .postgres (parts.flatMap
            (Part.pieces (.within (some "c") (renamings [suffix "1", suffix "2"]))))).map
            fun sql => ⟨sql, .delete (.ofTable ⟨some "c12", "t12"⟩), b.id⟩ := by
  intro suffix rename calls c b
  have hrename : List.Forall₂ (fun p f => p.onQuery = Query.rewrite (.names f))
      (CreatorCall.others [] calls ++ [rename "2"]) [suffix "1", suffix "2"] :=
    .cons rfl (.cons rfl .nil)
  obtain ⟨hplugins, -, hcompile⟩ := schema_given_last c calls b.id b.node [rename "2"]
  obtain ⟨-, parts, htables, -, hw⟩ := hcompile _ hrename
  exact ⟨hrename, hplugins, parts, htables, hw⟩

end Creator

end SqlWeave
