import SqlWeave.Expr

/-!
# Assembling raw SQL

Raw SQL is assembled from pieces of text, values and expressions.  There is always one fragment of
text more than there are parameters.
-/

namespace SqlWeave

/-- Raw SQL being assembled: fragments that a parameter follows, and the fragment being written. -/
structure Raw where
  done : List (String × Expr)
  last : String

/-- A step of the assembly. -/
inductive Raw.Part where
  | sql (s : String)
  | value (v : Value)
  | expr (e : Expr)

namespace Raw

def ofSql (s : String) : Raw := ⟨[], s⟩

def push (r : Raw) : Part → Raw
  | .sql s => { r with last := r.last ++ s }
  | .value v => ⟨r.done ++ [(r.last, .value v)], ""⟩
  | .expr e => ⟨r.done ++ [(r.last, e)], ""⟩

def pushAll (r : Raw) (parts : List Part) : Raw := parts.foldl push r

def toExpr (r : Raw) : Expr :=
  .raw (r.done.map Prod.fst ++ [r.last]) (r.done.map Prod.snd)

end Raw

end SqlWeave
