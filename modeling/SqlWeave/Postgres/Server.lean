import SqlWeave.Postgres.Column
import SqlWeave.Result

/-!
# Servers

What a server tells about a statement, what it answers when the statement is run, and what it
receives in the course of it.
-/

namespace SqlWeave.Postgres

/-- The steps of running a statement. -/
inductive Stage where
  | preparing
  /-- Before the first row. -/
  | executing
  /-- After the last row. -/
  | finishing
  deriving DecidableEq

structure Server where
  reachable : Bool
  asksPassword : Bool
  paramTypes : List WireType
  columns : List Column
  rows : List (List Field)
  /-- The tag of a completed command, whose last word is the number of rows it concerned. -/
  tag : String
  /-- The step at which statements fail, if they fail. -/
  failure : Option Stage

inductive Message where
  | user (name : String)
  | password (secret : String)
  /-- A statement to prepare. -/
  | prepare (sql : String)
  /-- A prepared statement to run. -/
  | execute (params : List Field)

/-- Whether a message can be sent.  The protocol ends its texts with a zero, which they therefore
cannot hold; the fields of parameters are sent with their length and may hold anything. -/
def Message.canBeSent : Message → Bool
  | .user s | .password s | .prepare s => !s.toList.contains '\x00'
  | .execute _ => true

/-- Why a program is stopped in the course of a call, which then gives nothing. -/
inductive Panic where
  /-- A buffer was to take up more than any allocation can. -/
  | capacityOverflow
  deriving DecidableEq

def Panic.message : Panic → String
  | .capacityOverflow => "capacity overflow"

namespace Buffer

/-- The bytes of the largest allocation there can be. -/
def maxBytes : Nat := Nat.pow 2 63 - 1

/-- The bytes that a row takes up in a buffer: nine words, which are the table of its columns, the
list of its entries and two keys for hashing. -/
def rowBytes : Nat := 72

end Buffer

structure Response where
  columns : List Column
  rows : List (List Field)
  fails : Bool

namespace Response

def converted (r : Response) : List (Except Error Row) := r.rows.map (readRow r.columns)

/-- All rows, if the response does not fail and all of them can be converted.  A failure of the
server comes before any of a conversion. -/
def allRows (r : Response) : Except Error (List Row) :=
  if r.fails then .error .delegate else r.converted.mapM id

/-- The rows in chunks, as they arrive: a chunk is complete when it has the given size, and after a
regular end the incomplete one is given too.  A failure is the last item, and the rows of the
incomplete chunk are dropped.  A size of zero is never reached. -/
def chunksFrom (size : Nat) (fails : Bool) (pending : List Row) :
    List (Except Error Row) → List (Except Error QueryResult)
  | [] =>
    if fails then [.error .delegate]
    else if pending.isEmpty then []
    else [.ok (.ofRows pending)]
  | .error e :: _ => [.error e]
  | .ok row :: rest =>
    let pending := pending ++ [row]
    if pending.length = size then .ok (.ofRows pending) :: chunksFrom size fails [] rest
    else chunksFrom size fails pending rest

/-- The chunks of a given size.  A buffer for a whole chunk is made before the first row arrives,
and another of the same size after each full chunk, so that making them fails at the first or not at
all.  Whether there is memory for it is not asked here. -/
def chunks (r : Response) (size : Nat) : Except Panic (List (Except Error QueryResult)) :=
  if Buffer.maxBytes < size * Buffer.rowBytes then .error .capacityOverflow
  else .ok (chunksFrom size r.fails [] r.converted)

end Response

/-- The number at the end of a command's tag; anything else counts as zero. -/
def affectedRows (tag : String) : Nat :=
  (Text.nat64? (tag.toList.reverse.takeWhile (· != ' ')).reverse).getD 0

namespace Server

/-- What the server answers to a statement that is run, unless it fails before the first row. -/
def response (s : Server) : Except Error Response :=
  if s.failure = some .executing then .error .delegate
  else .ok ⟨s.columns, s.rows, s.failure = some .finishing⟩

end Server

end SqlWeave.Postgres
