import SqlWeave.Postgres.Environment
import SqlWeave.Postgres.WireType

/-!
# Errors of the Postgres driver
-/

namespace SqlWeave.Postgres

/-- Why talking to a database fails. -/
inductive Error where
  /-- The configuration is not usable. -/
  | config (message : String)
  /-- A setting cannot be read. -/
  | setting (fault : SettingFault)
  /-- The connection, the server or a conversion failed. -/
  | delegate
  /-- No connection could be had. -/
  | pool
  /-- A column has a type that rows cannot hold. -/
  | unsupportedType (column : String) (type : WireType)
  /-- An error, and what was being done when it arose. -/
  | inContext (context : String) (cause : Error)

/-- The message of an error.  What went wrong outside this library has no message here. -/
def Error.message? : Error → Option String
  | .config message => some ("Configuration error: " ++ message)
  | .setting fault => some fault.message
  | .delegate => none
  | .pool => none
  | .unsupportedType column type =>
    some s!"Unsupported column type {type.label} for column '{column}'"
  | .inContext context cause => cause.message?.map fun message => context ++ " " ++ message

end SqlWeave.Postgres
