import SqlWeave.Construct
import SqlWeave.Text.Case

/-!
# Dialects

What differs between databases as far as the text of statements is concerned: quotes,
placeholders, a few keywords, and which constructs exist at all.
-/

namespace SqlWeave

/-- The writing rules of a database. -/
structure Dialect where
  name : String
  /-- The quote around identifiers.  Inside an identifier it is written twice. -/
  quote : Char
  /-- The placeholder of the parameter at a position, counted from one. -/
  placeholder : Nat → String
  /-- What stands for a column's default in a row of values. -/
  defaultMarker : String
  /-- The keywords of an insert that ignores rows it cannot insert. -/
  ignoreKeyword : String
  /-- The clause that asks for an explanation in a format. -/
  explainFormat : String → String
  supports : Construct → Bool

namespace Dialect

/-- The rules that most databases share, under a name. -/
def standard (name : String) : Dialect where
  name
  quote := '"'
  placeholder _ := "?"
  defaultMarker := "DEFAULT"
  ignoreKeyword := "IGNORE"
  explainFormat format := "FORMAT=" ++ format
  supports _ := true

/-- PostgreSQL, which numbers its placeholders. -/
def postgres : Dialect :=
  { standard "postgres" with
    placeholder := fun n => "$" ++ toString n
    explainFormat := fun format => "(FORMAT " ++ Text.upperText format ++ ")"
    supports := fun
      | .onDuplicateKey | .insertIgnore | .replace => false
      | _ => true }

/-- MySQL, which quotes identifiers with grave accents. -/
def mysql : Dialect :=
  { standard "mysql" with
    quote := '\x60'
    supports := fun
      | .returning | .onConflict => false
      | _ => true }

/-- SQLite, which has no keyword for a column's default in a row of values. -/
def sqlite : Dialect :=
  { standard "sqlite" with
    defaultMarker := "NULL"
    ignoreKeyword := "OR IGNORE"
    explainFormat := fun _ => "QUERY PLAN"
    supports := fun
      | .onDuplicateKey => false
      | _ => true }

/-- An identifier in quotes. -/
def quoted (d : Dialect) (name : String) : String :=
  String.ofList
    (d.quote :: name.toList.flatMap (fun c => if c = d.quote then [c, c] else [c]) ++ [d.quote])

end Dialect

end SqlWeave
