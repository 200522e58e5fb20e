import SqlWeave.Sql.Text

/-!
# Writing by hand

SQL can also be written call by call.  A call that fails keeps what it wrote before, and further
calls go on from there.
-/

namespace SqlWeave.Sql

mutual

/-- A call that writes. -/
inductive Call where
  | text (s : String)
  | char (c : Char)
  | space
  | identifier (name : String)
  | table (t : Table)
  | param (v : Value)
  | require (c : Construct)
  /-- Parts of a tree, given in pieces, with a separator between each two. -/
  | elements (groups : List (List Piece)) (separator : String)
  /-- Items that a function of the caller's writes, with a separator between each two. -/
  | items (items : List Item) (separator : String)

/-- What the function of a caller does with one item: the calls it makes, going on after those that
fail, and the error it gives in the end, if any. -/
structure Item where
  calls : List Call
  failure : Option QueryError

end

mutual

/-- Make a call: what is written after it, and its error, if it fails. -/
def Call.run (d : Dialect) (sql : Sql) : Call → Sql × Option QueryError
  | .text s => (sql.append s, none)
  | .char c => (sql.append (String.singleton c), none)
  | .space => (sql.append " ", none)
  | .identifier name => (sql.append (d.quoted name), none)
  | .table t => sql.writeAll d t.pieces
  | .param v => (sql.bind d v, none)
  | .require c => sql.writeAll d [.require c]
  | .elements groups separator => sql.writeAll d (Piece.separated separator groups)
  | .items items separator => Item.runAll d separator false sql items

/-- Make calls in order, whether they fail or not. -/
def Call.runAll (d : Dialect) (sql : Sql) : List Call → Sql
  | [] => sql
  | c :: rest => Call.runAll d (c.run d sql).1 rest

/-- Write items in order, up to the first that fails. -/
def Item.runAll (d : Dialect) (separator : String) (started : Bool) (sql : Sql) :
    List Item → Sql × Option QueryError
  | [] => (sql, none)
  | ⟨calls, failure⟩ :: rest =>
    let sql := if started then sql.append separator else sql
    let sql := Call.runAll d sql calls
    match failure with
    | some e => (sql, some e)
    | none => Item.runAll d separator true sql rest

end

end SqlWeave.Sql
