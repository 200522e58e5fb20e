import SqlWeave.Postgres.Error

/-!
# Configuration
-/

namespace SqlWeave.Postgres

/-- The settings of a connection pool. -/
structure Config where
  url : String
  user : Option String
  password : Option String
  poolSize : Nat
  checksAtStart : Bool

namespace Config

def urlKey : String := "QUARRY_POSTGRES_URL"

def userKey : String := "QUARRY_POSTGRES_USER"

def passwordKey : String := "QUARRY_POSTGRES_PASSWORD"

def poolSizeKey : String := "QUARRY_CONNECTION_POOL_SIZE"

def checkKey : String := "QUARRY_CHECK_CONNECTION_ON_STARTUP"

/-- How many connections there may be unless the configuration says otherwise. -/
def defaultPoolSize : Nat := 10

/-- The configuration with defaults for all but the connection string. -/
def ofUrl (url : String) : Config := ⟨url, none, none, defaultPoolSize, true⟩

/-- The outcome of reading a setting as an outcome of the driver. -/
def setting {α : Type} : Except SettingFault α → Except Error α := Except.mapError .setting

/-- The configuration that an environment describes.  The first setting that is missing or
malformed is reported: the connection string, the pool's size, the check at the start. -/
def ofEnvironment (env : Environment) : Except Error Config := do
  let some url := env.get? urlKey | throw (.config s!"Env {urlKey} must be provided")
  let poolSize := (← setting (env.size poolSizeKey)).getD defaultPoolSize
  if poolSize = 0 then throw (.config s!"Env {poolSizeKey} must be positive")
  let checksAtStart ← setting (env.flag checkKey true)
  return ⟨url, env.get? userKey, env.get? passwordKey, poolSize, checksAtStart⟩

end Config

end SqlWeave.Postgres
