import SqlWeave.Error

/-!
# Pieces of a statement

A statement is written as a list of pieces, from left to right.  The pieces of a tree do not depend
on the dialect: a piece says what is to be written or checked, and the dialect says how.
-/

namespace SqlWeave

/-- A piece of a statement. -/
inductive Piece where
  /-- Text that is the same everywhere. -/
  | text (s : String)
  /-- An identifier, to be quoted. -/
  | name (s : String)
  /-- A value, to be written as a placeholder. -/
  | param (v : Value)
  /-- The dialect's marker for a column's default. -/
  | defaultMarker
  /-- The dialect's keywords of an insert that ignores rows. -/
  | ignoreKeyword
  /-- The dialect's clause for a format of explanations. -/
  | explainFormat (format : String)
  /-- What follows takes a construct that the dialect has to support. -/
  | require (c : Construct)
  /-- The statement cannot be completed. -/
  | refuse (fault : ShapeFault)

namespace Piece

/-- Groups of pieces with a text between each two. -/
def separated (separator : String) : List (List Piece) → List Piece
  | [] => []
  | [group] => group
  | group :: rest => group ++ .text separator :: separated separator rest

/-- Fragments of text, each followed by the group at its position; groups beyond the last fragment
are dropped. -/
def interleaved : List String → List (List Piece) → List Piece
  | [], _ => []
  | fragment :: fragments, [] => .text fragment :: interleaved fragments []
  | fragment :: fragments, group :: groups =>
    .text fragment :: (group ++ interleaved fragments groups)

def parenthesized (pieces : List Piece) : List Piece :=
  .text "(" :: pieces ++ [.text ")"]

/-- Identifiers separated by commas. -/
def nameList (names : List String) : List Piece :=
  separated ", " (names.map fun n => [.name n])

end Piece

def Table.pieces (t : Table) : List Piece :=
  match t.schema with
  | some schema => [.name schema, .text ".", .name t.name]
  | none => [.name t.name]

def Table.qualifier : Option Table → List Piece
  | some t => t.pieces ++ [.text "."]
  | none => []

end SqlWeave
