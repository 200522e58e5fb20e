import SqlWeave.Query

/-!
# Errors

Why building, compiling or running a query fails.  Every error has one message.
-/

namespace SqlWeave

inductive ShapeFault where
  /-- A list of rows to insert without any row. -/
  | noRows
  /-- A row names a column that is not among the columns fixed for the insert. -/
  | unknownColumn (column : String)
  /-- Columns are fixed after the rows are given. -/
  | columnsAfterValues
  /-- A list of updates without any update. -/
  | emptyUpdate
  /-- An insert names columns and has no source of rows. -/
  | noSource (table : String)
  /-- An update sets no column. -/
  | noUpdates (table : String)
  /-- A stream of chunks without rows. -/
  | emptyChunks
  /-- A fault in the caller's own words. -/
  | other (text : String)
  deriving DecidableEq

def ShapeFault.message : ShapeFault → String
  | .noRows => "insert values must contain at least one row"
  | .unknownColumn column => s!"column '{column}' is not one of the insert's columns"
  | .columnsAfterValues => "insert columns must be set before the values"
  | .emptyUpdate => "update must set at least one column"
  | .noSource table => s!"insert into table '{table}' names columns but has no values"
  | .noUpdates table => s!"update of table '{table}' has no values to set"
  | .emptyChunks => "stream chunk size must be positive"
  | .other text => text

/-- Why a query fails. -/
inductive QueryError where
  /-- A malformed argument of a builder call, or a statement left incomplete. -/
  | shape (fault : ShapeFault)
  /-- The dialect cannot write a construct. -/
  | unsupported (dialect : String) (construct : Construct)
  /-- A query that had to give a result gave none. -/
  | noResult (query : Query)
  /-- The caller's own error. -/
  | custom (message : String)
  /-- The database driver's own failure. -/
  | driver (message : String)
  | plugin (message : String)
  /-- An error, and what was being done when it arose. -/
  | inContext (context : String) (cause : QueryError)

def QueryError.message : QueryError → String
  | .shape fault => "Shape error: " ++ fault.message
  | .unsupported dialect construct =>
    s!"Dialect '{dialect}' does not support {construct.describe}"
  | .noResult query => s!"No result for {query.construct.describe} query"
  | .custom message => message
  | .driver message => "Driver: " ++ message
  | .plugin message => "Plugin: " ++ message
  | .inContext context cause => context ++ " " ++ cause.message

/-- Put the error of a failed computation into a context. -/
def inContext {α : Type} (context : String) : Except QueryError α → Except QueryError α
  | .ok a => .ok a
  | .error e => .error (.inContext context e)

end SqlWeave
