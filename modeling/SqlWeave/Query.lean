import SqlWeave.Construct
import SqlWeave.Expr

/-!
# Statements

Inserts, updates and deletes, and the root of a query tree.
-/

namespace SqlWeave

/-- A column and the value it is set to. -/
structure ColumnUpdate where
  column : String
  value : Expr

/-- Where the rows of an insert come from. -/
inductive InsertSource where
  | rows (rows : List (List Expr))
  /-- An expression that yields rows, such as a select. -/
  | expr (e : Expr)
  /-- One row of defaults. -/
  | defaults

/-- What a conflict clause applies to. -/
inductive ConflictTarget where
  | unspecified
  | columns (names : List String)
  | constraint (name : String)
  | expr (e : Expr)

/-- What is done about a conflict. -/
inductive ConflictAction where
  | nothing
  | update (updates : List ColumnUpdate) (filter : Option Expr)

/-- A conflict clause.  The index filter selects a partial unique index. -/
structure Conflict where
  target : ConflictTarget
  indexFilter : Option Expr
  action : ConflictAction

/-- An insert statement.  The columns are unknown until values or columns are given. -/
structure Insert where
  into : Table
  columns : Option (List String)
  source : Option InsertSource
  ignore : Bool
  replace : Bool
  onConflict : Option Conflict
  onDuplicateKey : Option (List ColumnUpdate)
  returning : Option (List Expr)
  explain : Option Explain

structure Update where
  table : Table
  updates : List ColumnUpdate
  filter : Option Expr
  returning : Option (List Expr)
  explain : Option Explain

structure Delete where
  source : Table
  filter : Option Expr
  returning : Option (List Expr)
  explain : Option Explain

/-- The root of a query tree. -/
inductive Query where
  | select (s : Select)
  | insert (i : Insert)
  | update (u : Update)
  | delete (d : Delete)

/-- The insert into a table that gives nothing else yet. -/
def Insert.ofTable (into : Table) : Insert :=
  ⟨into, none, none, false, false, none, none, none, none⟩

def Update.ofTable (table : Table) : Update := ⟨table, [], none, none, none⟩

def Delete.ofTable (source : Table) : Delete := ⟨source, none, none, none⟩

/-- The conflict clause that does nothing about any conflict. -/
def Conflict.unspecified : Conflict := ⟨.unspecified, none, .nothing⟩

namespace Query

/-- The construct that the statement is. -/
def construct : Query → Construct
  | .select _ => .select
  | .insert _ => .insert
  | .update _ => .update
  | .delete _ => .delete

def isMutation : Query → Bool
  | .select _ => false
  | _ => true

/-- What the statement gives back about the rows it changes. -/
def returning : Query → Option (List Expr)
  | .select _ => none
  | .insert i => i.returning
  | .update u => u.returning
  | .delete d => d.returning

/-- The request to explain the statement. -/
def explain : Query → Option Explain
  | .select s => s.explain
  | .insert i => i.explain
  | .update u => u.explain
  | .delete d => d.explain

end Query

end SqlWeave
