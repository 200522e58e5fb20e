import SqlWeave.Builder

/-!
# Creators

Where queries against a database start.  A builder takes over the plugins that its creator has at
that moment; plugins installed later concern only the creators they are installed on.
-/

namespace SqlWeave

/-- A starting point for queries. -/
structure Creator (σ : Type) where
  executor : Executor σ

/-- A change of the plugins of a creator. -/
inductive CreatorEdit where
  | plugin (p : Plugin)
  /-- Run one more plugin before the others. -/
  | pluginAtFront (p : Plugin)
  | plugins (ps : List Plugin)
  /-- Give a schema to tables without one, before the other plugins run. -/
  | schema (name : String)
  | noPlugins

namespace Creator

variable {σ : Type}

def ofDriver (dialect : Dialect) (driver : Driver σ) : Creator σ := ⟨.ofDriver dialect driver⟩

def edit (c : Creator σ) : CreatorEdit → Creator σ
  | .plugin p => ⟨c.executor.withPlugin p⟩
  | .pluginAtFront p => ⟨c.executor.withPluginAtFront p⟩
  | .plugins ps => ⟨c.executor.withPlugins ps⟩
  | .schema name => ⟨c.executor.withPluginAtFront (.schema name)⟩
  | .noPlugins => ⟨c.executor.withoutPlugins⟩

def insertInto (c : Creator σ) (id : QueryId) (table : String) : Builder σ Insert :=
  ⟨id, .ofTable (Shorthand.table table), c.executor⟩

def replaceInto (c : Creator σ) (id : QueryId) (table : String) : Builder σ Insert :=
  ⟨id, { Insert.ofTable (Shorthand.table table) with replace := true }, c.executor⟩

/-- Start a select from a table, which may have an alias. -/
def selectFrom (c : Creator σ) (id : QueryId) (source : String) : Builder σ Select :=
  ⟨id, .ofSources [Shorthand.source source], c.executor⟩

def selectFromSubquery (c : Creator σ) (id : QueryId) (query : Select) (label : String) :
    Builder σ Select :=
  ⟨id, .ofSources [.subquery query label], c.executor⟩

def updateTable (c : Creator σ) (id : QueryId) (table : String) : Builder σ Update :=
  ⟨id, .ofTable (Shorthand.table table), c.executor⟩

def deleteFrom (c : Creator σ) (id : QueryId) (table : String) : Builder σ Delete :=
  ⟨id, .ofTable (Shorthand.table table), c.executor⟩

end Creator

end SqlWeave
