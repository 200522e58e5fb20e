import SqlWeave.Assignments
import SqlWeave.Builder
import SqlWeave.Builder.Clause
import SqlWeave.Builder.Conflict
import SqlWeave.Builder.Insert
import SqlWeave.Builder.Select
import SqlWeave.Builder.Update
import SqlWeave.Bytes
import SqlWeave.Calendar
import SqlWeave.Calendar.Text
import SqlWeave.Construct
import SqlWeave.Creator
import SqlWeave.Dialect
import SqlWeave.Driver
import SqlWeave.Driver.Memory
import SqlWeave.Error
import SqlWeave.Executor
import SqlWeave.Expr
import SqlWeave.Json
import SqlWeave.Json.Parser
import SqlWeave.Json.Printer
import SqlWeave.Number.Binary
import SqlWeave.Number.Shortest
import SqlWeave.Operator
import SqlWeave.OrderedMap
import SqlWeave.Plugin
import SqlWeave.Postgres.Client
import SqlWeave.Postgres.Column
import SqlWeave.Postgres.Config
import SqlWeave.Postgres.Environment
import SqlWeave.Postgres.Error
import SqlWeave.Postgres.Param
import SqlWeave.Postgres.Server
import SqlWeave.Postgres.WireType
import SqlWeave.Predicate
import SqlWeave.Proofs.Alignment
import SqlWeave.Proofs.Checking
import SqlWeave.Proofs.Collecting
import SqlWeave.Proofs.Filtering
import SqlWeave.Proofs.Firm
import SqlWeave.Proofs.FixedColumns
import SqlWeave.Proofs.Identifier
import SqlWeave.Proofs.InPlace
import SqlWeave.Proofs.Inserting
import SqlWeave.Proofs.Layout
import SqlWeave.Proofs.Leaf
import SqlWeave.Proofs.Mask
import SqlWeave.Proofs.Narrowing
import SqlWeave.Proofs.Parsing
import SqlWeave.Proofs.Phrase
import SqlWeave.Proofs.Placeholder
import SqlWeave.Proofs.Quoting
import SqlWeave.Proofs.Reading
import SqlWeave.Proofs.Rewriting
import SqlWeave.Proofs.Scan
import SqlWeave.Proofs.Sameness
import SqlWeave.Proofs.Slot
import SqlWeave.Proofs.Spacing
import SqlWeave.Proofs.Tables
import SqlWeave.Proofs.Tree
import SqlWeave.Proofs.Truth
import SqlWeave.Proofs.Veil
import SqlWeave.Proofs.Writing
import SqlWeave.Query
import SqlWeave.Raw
import SqlWeave.Result
import SqlWeave.Rewrite
import SqlWeave.Row
import SqlWeave.Same
import SqlWeave.Shorthand
import SqlWeave.Sql.Call
import SqlWeave.Sql.OfExpr
import SqlWeave.Sql.OfQuery
import SqlWeave.Sql.Piece
import SqlWeave.Sql.Text
import SqlWeave.Stream
import SqlWeave.Text.Alphanumeric
import SqlWeave.Text.Blank
import SqlWeave.Text.Case
import SqlWeave.Text.Cut
import SqlWeave.Text.Reader
import SqlWeave.Text.Words
import SqlWeave.Uuid
import SqlWeave.Value
import SqlWeave.Proofs.Grouping
import SqlWeave.Proofs.ReadingBack
import SqlWeave.Proofs.Renaming
import SqlWeave.Proofs.Hooks
import SqlWeave.Proofs.Qualifying
import SqlWeave.Proofs.Creating
import SqlWeave.Proofs.Dispatching
import SqlWeave.Proofs.Sessions
import SqlWeave.Proofs.Pulling
import SqlWeave.Proofs.Streaming
import SqlWeave.Proofs.Chaining
import SqlWeave.Proofs.Clauses
import SqlWeave.Proofs.Conflicts
import SqlWeave.Proofs.Absorbing
import SqlWeave.Proofs.Letters
import SqlWeave.Proofs.Subtree
import SqlWeave.Proofs.Adjacent
import SqlWeave.Proofs.Commenting
import SqlWeave.Proofs.Casing
import SqlWeave.Proofs.Keys
import SqlWeave.Proofs.Answering
import SqlWeave.Proofs.Tabulating
import SqlWeave.Proofs.Places
import SqlWeave.Proofs.Framing
import SqlWeave.Proofs.Appending
import SqlWeave.Proofs.Supplying
import SqlWeave.Proofs.Fetching
import SqlWeave.Proofs.Merging
import SqlWeave.Proofs.Chunking
import SqlWeave.Proofs.Listing
import SqlWeave.Proofs.Emptiness
import SqlWeave.Proofs.Binding
import SqlWeave.Proofs.Spelling
import SqlWeave.Proofs.AllColumns
import SqlWeave.Proofs.Parts
import SqlWeave.Proofs.Assembling
import SqlWeave.Proofs.Setting
