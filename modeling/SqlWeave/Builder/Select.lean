import SqlWeave.Builder.Clause

/-!
# Building selects
-/

namespace SqlWeave

inductive SelectEdit where
  | select (call : Selecting)
  /-- All columns of a table. -/
  | selectAllFrom (table : String)
  | distinct
  /-- A join on the equality of two columns. -/
  | joinOn (kind : JoinKind) (table left right : String)
  | join (join : Join)
  | filter (call : Narrowing)
  | groupBy (columns : List String)
  | having (predicate : Expr)
  | orderBy (column : String) (direction : Option Direction)
  | limit (count : Int64)
  | offset (count : Int64)
  | explain (request : Explain)

namespace Select

/-- The select after a call.  Lists grow at their end, predicates are conjoined, and a limit, an
offset or a request to explain replaces the one before it. -/
def edit (s : Select) : SelectEdit → Select
  | .select call => { s with selections := s.selections ++ call.selections }
  | .selectAllFrom table => { s with selections := s.selections ++ [.star (some (.ofName table))] }
  | .distinct => { s with distinct := true }
  | .joinOn kind table left right =>
    { s with
      joins := s.joins ++
        [⟨kind, Shorthand.source table, Predicate.compareColumns left .eq right⟩] }
  | .join join => { s with joins := s.joins ++ [join] }
  | .filter call => { s with filter := conjoin s.filter call.predicate }
  | .groupBy columns => { s with groupBy := s.groupBy ++ columns.map Shorthand.reference }
  | .having predicate => { s with having := conjoin s.having predicate }
  | .orderBy column direction =>
    { s with orderBy := s.orderBy ++ [⟨Shorthand.reference column, direction⟩] }
  | .limit count => { s with limit := some (.value (.int count)) }
  | .offset count => { s with offset := some (.value (.int count)) }
  | .explain request => { s with explain := some request }

def run (s : Select) (edits : List SelectEdit) : Select := edits.foldl edit s

end Select

end SqlWeave
