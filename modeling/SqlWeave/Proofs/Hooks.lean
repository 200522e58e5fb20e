import Mathlib
import SqlWeave.Plugin

/-!
# The hooks of a list of plugins

Each query hook runs once, on what the hooks before it made of the query.  Result hooks run in the
same way up to the first that fails.
-/

namespace SqlWeave.Plugin

/-- What the query hooks of plugins make of a query, in the order of the list. -/
def rewritten (plugins : List Plugin) (q : Query) : Query :=
  plugins.foldl (fun q p => p.onQuery q) q

/-- The query hooks that run, each with the query that it is given. -/
def queryCalls (plugins : List Plugin) (q : Query) : List (Plugin × Query) :=
  plugins.zip (plugins.scanl (fun q p => p.onQuery q) q)

theorem map_fst_queryCalls (plugins : List Plugin) (q : Query) :
    (queryCalls plugins q).map Prod.fst = plugins := by
  refine List.map_fst_zip ?_
  rw [List.length_scanl]
  exact Nat.le_succ _

theorem rewritten_append (plugins plugins' : List Plugin) (q : Query) :
    rewritten (plugins ++ plugins') q = rewritten plugins' (rewritten plugins q) :=
  List.foldl_append

-- What `rewriteQuery` computes, apart from the order in which it does so.
theorem rewriteQuery_eq (plugins : List Plugin) (q : Query) :
    rewriteQuery plugins q =
      ((queryCalls plugins q).flatMap fun c => c.1.noteQuery c.2, rewritten plugins q) := by
  induction plugins generalizing q with
  | nil => rfl
  | cons p rest ih =>
    have hcalls : queryCalls (p :: rest) q = (p, q) :: queryCalls rest (p.onQuery q) := by
      rw [queryCalls, List.scanl_cons]
      rfl
    rw [rewriteQuery, ih, hcalls]
    rfl

/-- What the result hooks of plugins make of a result, in the order of the list, unless one
fails. -/
def revised (plugins : List Plugin) (result : QueryResult) : Except QueryError QueryResult :=
  plugins.foldlM (fun result p => p.onResult result) result

/-- The result hooks that run, each with the result that it is given. -/
def resultCalls : List Plugin → QueryResult → List (Plugin × QueryResult)
  | [], _ => []
  | p :: rest, result =>
    (p, result) ::
      match p.onResult result with
      | .ok result' => resultCalls rest result'
      | .error _ => []

theorem revised_cons_ok {p : Plugin} {result result' : QueryResult}
    (h : p.onResult result = .ok result') (rest : List Plugin) :
    revised (p :: rest) result = revised rest result' := by
  rw [revised, List.foldlM_cons, h]
  rfl

theorem revised_cons_error {p : Plugin} {result : QueryResult} {e : QueryError}
    (h : p.onResult result = .error e) (rest : List Plugin) :
    revised (p :: rest) result = .error e := by
  rw [revised, List.foldlM_cons, h]
  rfl

theorem reviseResult_eq (id : QueryId) (plugins : List Plugin) (result : QueryResult) :
    reviseResult id plugins result =
      ((resultCalls plugins result).flatMap fun c => c.1.noteResult c.2,
        inContext (resultContext id) (revised plugins result)) := by
  induction plugins generalizing result with
  | nil => rfl
  | cons p rest ih =>
    cases h : p.onResult result with
    | ok result' =>
      rw [reviseResult, resultCalls, h, revised_cons_ok h]
      simp only [inContext, ih, List.flatMap_cons]
    | error e =>
      rw [reviseResult, resultCalls, h, revised_cons_error h]
      simp only [inContext, List.flatMap_cons, List.flatMap_nil, List.append_nil]

-- All result hooks run if none fails.
theorem map_fst_resultCalls_of_ok {plugins : List Plugin} {result result' : QueryResult}
    (h : revised plugins result = .ok result') :
    (resultCalls plugins result).map Prod.fst = plugins := by
  induction plugins generalizing result with
  | nil => rfl
  | cons p rest ih =>
    cases hp : p.onResult result with
    | ok next =>
      rw [revised_cons_ok hp] at h
      rw [resultCalls, hp, List.map_cons, ih h]
    | error e =>
      rw [revised_cons_error hp] at h
      exact nomatch h

-- Else those up to the first that fails run, and its failure is the failure of them all.
theorem resultCalls_of_error {plugins : List Plugin} {result : QueryResult} {e : QueryError}
    (h : revised plugins result = .error e) :
    ∃ before p after given, plugins = before ++ p :: after ∧
      (resultCalls plugins result).map Prod.fst = before ++ [p] ∧
      revised before result = .ok given ∧ p.onResult given = .error e := by
  induction plugins generalizing result with
  | nil => exact nomatch h
  | cons p rest ih =>
    cases hp : p.onResult result with
    | ok next =>
      rw [revised_cons_ok hp] at h
      obtain ⟨before, q, after, given, hrest, hcalls, hbefore, hq⟩ := ih h
      refine ⟨p :: before, q, after, given, ?_, ?_, ?_, hq⟩
      · rw [hrest, List.cons_append]
      · rw [resultCalls, hp, List.map_cons, hcalls, List.cons_append]
      · rw [revised_cons_ok hp, hbefore]
    | error e' =>
      rw [revised_cons_error hp] at h
      refine ⟨[], p, rest, result, rfl, ?_, rfl, hp.trans h⟩
      rw [resultCalls, hp]
      rfl

end SqlWeave.Plugin
