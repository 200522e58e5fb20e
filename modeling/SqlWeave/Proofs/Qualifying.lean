import SqlWeave.Plugin
import SqlWeave.Proofs.Tables
import SqlWeave.Proofs.Veil

/-!
# Tables in a schema

The plugin that gives a schema to tables reaches every table that a statement reads or writes, in
selects at any depth, and changes nothing else.  What it does not reach are the options of requests
to explain a statement, which are left as they are.
-/

namespace SqlWeave

/-- The table in its own schema if it has one, else in the given one. -/
def Table.qualified (s : String) (t : Table) : Table := t.inSchema (t.schema.getD s)

theorem Table.qualified_eq_self_iff (s : String) (t : Table) :
    t.qualified s = t ↔ t.schema.isSome = true := by
  rcases t with ⟨_ | schema, name⟩ <;> simp [qualified, inSchema]

theorem Rewrite.schema_table (s : String) (t : Table) :
    (Rewrite.schema s).table t = t.qualified s := by
  rcases t with ⟨_ | schema, name⟩ <;> rfl

/-- The second statement is the first with a schema for every table without one that is read or
written, and with nothing else changed: columns, aliases, values and raw text are the same. -/
structure Query.IsQualified (s : String) (q q' : Query) : Prop where
  tables : q'.tables.map TablePlace.table = q.tables.map fun p => p.table.qualified s
  rest : q'.veil .tableless = q.veil .tableless

theorem TablePlace.rewrite_schema (s : String) (p : TablePlace) :
    p.rewrite (.schema s) =
      if p.explained then p else { p with table := p.table.qualified s } := by
  rw [rewrite, Rewrite.schema_table]

-- A place gets its schema unless a request to explain keeps it from one that it lacks.
theorem TablePlace.table_rewrite_schema_iff (s : String) (p : TablePlace) :
    (p.rewrite (.schema s)).table = p.table.qualified s ↔
      (p.explained = true → p.table.schema.isSome = true) := by
  rw [rewrite_schema]
  cases p.explained with
  | true => simp [← Table.qualified_eq_self_iff s, eq_comm]
  | false => simp

/-- What the plugin does: tables at all places but those in requests to explain get the schema if
they have none, and the rest of the tree is as it was.  So the result is the statement in the
schema exactly when the requests to explain hold no table without a schema. -/
theorem schema_reaches_tables (s : String) (q : Query) :
    let q' := (Plugin.schema s).onQuery q
    q'.tables = q.tables.map (fun p =>
        if p.explained then p else { p with table := p.table.qualified s }) ∧
      q'.veil .tableless = q.veil .tableless ∧
      (q.IsQualified s q' ↔
        ∀ p ∈ q.tables, p.explained = true → p.table.schema.isSome = true) := by
  intro q'
  have htables : q'.tables = q.tables.map (TablePlace.rewrite (.schema s)) :=
    q.tables_rewrite (.schema s)
  have hrest : q'.veil .tableless = q.veil .tableless :=
    q.veil_rewrite (Rewrite.schema_hiddenBy_tableless s)
  refine ⟨?_, hrest, ?_⟩
  · rw [htables]
    exact List.map_congr_left fun p _ => p.rewrite_schema s
  · have hqualified : q.IsQualified s q' ↔
        ∀ p ∈ q.tables, (p.rewrite (.schema s)).table = p.table.qualified s := by
      rw [← List.map_inj_left, ← Function.comp_def, ← List.map_map, ← htables]
      exact ⟨fun h => h.tables, fun h => ⟨h, hrest⟩⟩
    rw [hqualified]
    exact forall₂_congr fun p _ => p.table_rewrite_schema_iff s

-- A table in the options of a request to explain stays without a schema.
theorem explained_table_without_schema :
    let person : Select := .ofSources [.table (.ofName "person") none]
    let q : Query := .select { person with explain := some ⟨none, some (.subquery person)⟩ }
    ¬ q.IsQualified "app" ((Plugin.schema "app").onQuery q) := by
  intro person q h
  have htables : ((Plugin.schema "app").onQuery q).tables.map TablePlace.table =
      [⟨none, "person"⟩, ⟨some "app", "person"⟩] := rfl
  have hqualified : (q.tables.map fun p => p.table.qualified "app") =
      [⟨some "app", "person"⟩, ⟨some "app", "person"⟩] := rfl
  have h := h.tables
  rw [htables, hqualified] at h
  exact absurd h (by decide)

end SqlWeave
