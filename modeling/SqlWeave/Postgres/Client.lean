import SqlWeave.Driver
import SqlWeave.Postgres.Config
import SqlWeave.Postgres.Server

/-!
# Clients

Queries on a pool of one connection.  The connection is made when it is first needed, and it is
kept whatever becomes of the queries on it.
-/

namespace SqlWeave.Postgres

/-- Who connects. -/
structure Credentials where
  user : String
  password : String

/-- A pool of one connection to a server, and what the server has received so far. -/
structure Client where
  server : Server
  credentials : Credentials
  connected : Bool
  received : List Message

namespace Client

def send (c : Client) (messages : List Message) : Client :=
  { c with received := c.received ++ messages }

def greeting (server : Server) (credentials : Credentials) : List Message :=
  .user credentials.user ::
    if server.asksPassword then [.password credentials.password] else []

/-- Make the connection unless there is one. -/
def connect (c : Client) : Except Error Unit × Client :=
  let messages := greeting c.server c.credentials
  if c.connected then (.ok (), c)
  else if !c.server.reachable then (.error .pool, c)
  else if messages.all Message.canBeSent then
    (.ok (), { c with connected := true }.send messages)
  else (.error .pool, c.send (messages.takeWhile Message.canBeSent))

/-- Prepare a statement, once there is a connection. -/
def prepare (c : Client) (sql : String) : Except Error Unit × Client :=
  let message := Message.prepare sql
  if c.server.failure = some .preparing ∨ !message.canBeSent then (.error .delegate, c)
  else (.ok (), c.send [message])

def run (c : Client) (params : List Value) : Except Error Response × Client :=
  match bindAll params c.server.paramTypes with
  | none => (.error .delegate, c)
  | some fields => (c.server.response, c.send [.execute fields])

/-- Connect, prepare and run.  The first failure ends it. -/
def start (c : Client) (sql : Sql) : Except Error Response × Client :=
  match c.connect with
  | (.error e, c) => (.error e, c)
  | (.ok (), c) =>
    match c.prepare sql.text with
    | (.error e, c) => (.error e, c)
    | (.ok (), c) => c.run sql.params

/-- Whether the rows of the server's answer are fetched.  A statement that changes data is answered
with rows only if it gives some back or is to be explained. -/
def fetchesRows (q : Query) : Bool := !q.isMutation || q.returning.isSome || q.explain.isSome

/-- The result of a response to a query.  Where no rows are fetched, it is the number of rows that
the server reports; a mutation that fetches them counts those. -/
def result (server : Server) (q : Query) (r : Response) : Except Error QueryResult :=
  if fetchesRows q then
    r.allRows.map fun rows => ⟨rows, none, if q.isMutation then some rows.length else none⟩
  else if r.fails then .error .delegate
  else .ok ⟨[], none, some (affectedRows server.tag)⟩

def execute (c : Client) (query : Compiled) : Except Error QueryResult × Client :=
  let (answer, c) := c.start query.sql
  (answer.bind (result c.server query.query), c)

/-- Run a query whose rows are fetched in chunks. -/
def stream (c : Client) (query : Compiled) (chunkSize : Nat) :
    Except Panic (List (Except Error QueryResult)) × Client :=
  match c.start query.sql with
  | (.error e, c) => (.ok [.error e], c)
  | (.ok r, c) => (r.chunks chunkSize, c)

/-- The driver of a server, given the texts of its errors.  A driver cannot say that it stops the
program: a panic is given as a failure with its message. -/
def driver (describe : Error → String) : Driver Client where
  supportsReturning := true
  execute query c :=
    let (result, c) := c.execute query
    (result.mapError describe, c)
  openStream query chunkSize c :=
    match c.stream query chunkSize with
    | (.ok chunks, c) => (chunks.map (·.mapError describe), c)
    | (.error panic, c) => ([.error panic.message], c)
  handOut c := c

/-- The pool that a configuration describes.  The credentials are those of the connection string,
which is malformed if it has none, and the configuration may override them. -/
def create (config : Config) (ofUrl : Option Credentials) (server : Server) :
    Except Error Unit × Client :=
  match ofUrl with
  | none =>
    (.error (.inContext "Failed to parse PostgreSQL connection string" .delegate),
      ⟨server, ⟨"", ""⟩, false, []⟩)
  | some credentials =>
    let c : Client :=
      ⟨server, ⟨config.user.getD credentials.user, config.password.getD credentials.password⟩,
        false, []⟩
    if config.checksAtStart then
      let (out, c) := c.connect
      (out.mapError (.inContext "Failed to connect to the database"), c)
    else (.ok (), c)

end Client

end SqlWeave.Postgres
