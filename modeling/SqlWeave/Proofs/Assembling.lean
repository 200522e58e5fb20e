import SqlWeave.Proofs.Appending
import SqlWeave.Proofs.Parts
import SqlWeave.Raw

/-!
# Raw SQL as it is assembled

Each call on raw SQL that is being assembled adds its own part at the end of what is written, and
changes nothing else.  So the SQL is the first text and then the parts in the order of the calls,
wherever it is written, and after a rewriting of names it is the same with the names of the parts
rewritten.
-/

namespace SqlWeave

/-! ## One after the other -/

namespace Sql

/-- Go on from what is written, unless something has failed. -/
def andThen (out : Sql × Option QueryError) (go : Sql → Sql × Option QueryError) :
    Sql × Option QueryError :=
  match out with
  | (sql, none) => go sql
  | (sql, some e) => (sql, some e)

theorem andThen_assoc (out : Sql × Option QueryError) (f g : Sql → Sql × Option QueryError) :
    andThen (andThen out f) g = andThen out fun sql => andThen (f sql) g := by
  rcases out with ⟨sql, _ | e⟩ <;> rfl

theorem andThen_eq_none_iff {start : Sql × Option QueryError}
    {go : Sql → Sql × Option QueryError} {out : Sql} :
    andThen start go = (out, none) ↔ ∃ mid, start = (mid, none) ∧ go mid = (out, none) := by
  rcases start with ⟨sql, _ | e⟩ <;> simp [andThen]

theorem andThen_none (out : Sql × Option QueryError) : andThen out (·, none) = out := by
  rcases out with ⟨sql, _ | e⟩ <;> rfl

variable {d : Dialect}

theorem writeAll_append (sql : Sql) (a b : List Piece) :
    sql.writeAll d (a ++ b) = andThen (sql.writeAll d a) fun sql => sql.writeAll d b := by
  induction a generalizing sql with
  | nil => rfl
  | cons piece rest ih =>
    rw [List.cons_append, writeAll, writeAll]
    cases sql.write d piece with
    | ok sql => exact ih sql
    | error e => rfl

-- What is written from a state on is what is written by itself, with its placeholders shifted.
theorem writeAll_eq_none_iff {sql out : Sql} {pieces : List Piece} :
    sql.writeAll d pieces = (out, none) ↔
      ∃ own, ofPieces (d.shift sql.params.length) pieces = .ok own ∧ out = sql ++ own := by
  simp only [ofPieces_eq_ok_iff, findSome?_failure_shift, flatMap_symbols_shift]
  rw [writeAll_eq, Prod.mk.injEq]
  constructor
  · rintro ⟨rfl, hnone⟩
    refine ⟨_, ⟨hnone, rfl⟩, ?_⟩
    rw [Piece.symbolsBeforeFailure_eq hnone, extend_eq_append]
  · rintro ⟨own, ⟨hnone, rfl⟩, rfl⟩
    rw [Piece.symbolsBeforeFailure_eq hnone, extend_eq_append]
    exact ⟨rfl, hnone⟩

end Sql

namespace Raw

open Sql (andThen andThen_assoc andThen_none writeAll_append)

/-! ## Parts -/

namespace Part

/-- The parameter that a part brings; a text brings none. -/
def param? : Part → Option Expr
  | .sql _ => none
  | .value v => some (.value v)
  | .expr e => some e

/-- The part with its names rewritten.  Texts and values have none. -/
def rewrite (r : Rewrite) : Part → Part
  | .expr e => .expr (e.rewrite r)
  | part => part

/-- A part written at the end of what is there: a text as it is, and a parameter as it is written
anywhere. -/
def write (d : Dialect) (sql : Sql) : Part → Sql × Option QueryError
  | .sql s => (sql.append s, none)
  | .value v => sql.writeAll d (Expr.value v).pieces
  | .expr e => sql.writeAll d e.pieces

/-- What is written of a part by itself, with the placeholders after the first `k`. -/
def render (d : Dialect) (k : Nat) : Part → Except QueryError Sql
  | .sql s => .ok ⟨s, []⟩
  | .value v => (Expr.value v).toSql (d.shift k)
  | .expr e => e.toSql (d.shift k)

theorem write_eq_none_iff {d : Dialect} {sql out : Sql} {part : Part} :
    part.write d sql = (out, none) ↔
      ∃ own, part.render d sql.params.length = .ok own ∧ out = sql ++ own := by
  cases part with
  | sql s =>
    have happend : sql.append s = sql ++ ⟨s, []⟩ :=
      congrArg (Sql.mk (sql.text ++ s)) (List.append_nil _).symm
    simp [write, render, happend, eq_comm]
  | value v => exact Sql.writeAll_eq_none_iff
  | expr e => exact Sql.writeAll_eq_none_iff

end Part

/-- Parts written in order, up to the first that fails. -/
def writeParts (d : Dialect) (sql : Sql) : List Part → Sql × Option QueryError
  | [] => (sql, none)
  | part :: rest => andThen (part.write d sql) fun sql => writeParts d sql rest

/-- The parts have these renderings, in order, with placeholders counted on from the first `k`. -/
inductive Rendered (d : Dialect) : Nat → List Part → List Sql → Prop
  | nil (k : Nat) : Rendered d k [] []
  | cons {k : Nat} {part : Part} {rest : List Part} {own : Sql} {texts : List Sql}
      (head : part.render d k = .ok own) (tail : Rendered d (k + own.params.length) rest texts) :
    Rendered d k (part :: rest) (own :: texts)

theorem writeParts_eq_none_iff {d : Dialect} {sql out : Sql} {parts : List Part} :
    writeParts d sql parts = (out, none) ↔ ∃ texts, Rendered d sql.params.length parts texts ∧
      out = ⟨sql.text ++ String.join (texts.map Sql.text),
        sql.params ++ texts.flatMap Sql.params⟩ := by
  induction parts generalizing sql with
  | nil =>
    constructor
    · rintro ⟨⟩
      exact ⟨[], .nil _, by simp⟩
    · rintro ⟨texts, ⟨⟩, rfl⟩
      simp [writeParts]
  | cons part rest ih =>
    rw [writeParts, Sql.andThen_eq_none_iff]
    simp only [Part.write_eq_none_iff, ih]
    constructor
    · rintro ⟨mid, ⟨own, hown, rfl⟩, texts, htexts, rfl⟩
      refine ⟨own :: texts, .cons hown ?_, ?_⟩
      · rwa [← List.length_append]
      · show (⟨sql.text ++ own.text ++ _, sql.params ++ own.params ++ _⟩ : Sql) = _
        simp [String.append_assoc]
    · rintro ⟨_, htexts, rfl⟩
      cases htexts with
      | @cons _ _ _ own texts hown hrest =>
        refine ⟨sql ++ own, ⟨own, hown, rfl⟩, texts, ?_, ?_⟩
        · show Rendered d (sql.params ++ own.params).length rest texts
          rwa [List.length_append]
        · show _ = (⟨sql.text ++ own.text ++ _, sql.params ++ own.params ++ _⟩ : Sql)
          simp [String.append_assoc]

/-! ## The two lists of raw SQL -/

/-- The fragments and the parameters after a call.  A text goes to the end of the last fragment; a
parameter goes to the end of the parameters, and an empty fragment follows it. -/
def Part.grow (lists : List String × List Expr) : Part → List String × List Expr
  | .sql s => (lists.1.modifyLast (· ++ s), lists.2)
  | .value v => (lists.1 ++ [""], lists.2 ++ [.value v])
  | .expr e => (lists.1 ++ [""], lists.2 ++ [e])

/-- The fragments and the parameters of what is assembled so far. -/
def lists (r : Raw) : List String × List Expr :=
  (r.done.map Prod.fst ++ [r.last], r.done.map Prod.snd)

theorem toExpr_eq (r : Raw) : r.toExpr = .raw r.lists.1 r.lists.2 := rfl

theorem length_lists (r : Raw) : r.lists.1.length = r.lists.2.length + 1 := by
  simp [lists]

theorem lists_push (r : Raw) (part : Part) : (r.push part).lists = part.grow r.lists := by
  cases part with
  | sql s => simp [push, lists, Part.grow, List.modifyLast_concat]
  | value v => simp [push, lists, Part.grow]
  | expr e => simp [push, lists, Part.grow]

theorem lists_pushAll (r : Raw) (parts : List Part) :
    (r.pushAll parts).lists = parts.foldl Part.grow r.lists :=
  (List.foldl_hom lists fun r part => (r.lists_push part).symm).symm

theorem params_foldl_grow (lists : List String × List Expr) (parts : List Part) :
    (parts.foldl Part.grow lists).2 = lists.2 ++ parts.filterMap Part.param? := by
  induction parts generalizing lists with
  | nil => exact (List.append_nil _).symm
  | cons part rest ih =>
    rw [List.foldl_cons, ih]
    cases part with
    | sql s => rfl
    | value v => exact List.append_assoc ..
    | expr e => exact List.append_assoc ..

-- A rewriting leaves the fragments as they are.
theorem Part.grow_rewrite (r : Rewrite) (lists : List String × List Expr) (part : Part) :
    (part.rewrite r).grow (lists.1, lists.2.map (Expr.rewrite r)) =
      ((part.grow lists).1, (part.grow lists).2.map (Expr.rewrite r)) := by
  cases part with
  | sql s => rfl
  | value v => simp [rewrite, grow, Expr.rewrite]
  | expr e => simp [rewrite, grow]

theorem foldl_grow_rewrite (r : Rewrite) (lists : List String × List Expr) (parts : List Part) :
    (parts.map (Part.rewrite r)).foldl Part.grow (lists.1, lists.2.map (Expr.rewrite r)) =
      ((parts.foldl Part.grow lists).1,
        (parts.foldl Part.grow lists).2.map (Expr.rewrite r)) := by
  rw [List.foldl_map]
  exact List.foldl_hom (fun l : List String × List Expr => (l.1, l.2.map (Expr.rewrite r)))
    (Part.grow_rewrite r)

theorem rewrite_toExpr (r : Rewrite) (start : String) (parts : List Part) :
    ((ofSql start).pushAll parts).toExpr.rewrite r =
      ((ofSql start).pushAll (parts.map (Part.rewrite r))).toExpr := by
  rw [toExpr_eq, toExpr_eq, lists_pushAll, lists_pushAll, Expr.rewrite, Expr.rewriteList_eq_map]
  have hgrow := foldl_grow_rewrite r ([start], []) parts
  exact (congrArg (fun l : List String × List Expr => Expr.raw l.1 l.2) hgrow).symm

theorem foldl_rewrite_toExpr (rewrites : List Rewrite) (start : String) (parts : List Part) :
    rewrites.foldl (fun e r => e.rewrite r) ((ofSql start).pushAll parts).toExpr =
      ((ofSql start).pushAll
        (parts.map fun part => rewrites.foldl (fun part r => part.rewrite r) part)).toExpr := by
  induction rewrites generalizing parts with
  | nil => simp
  | cons r rest ih =>
    rw [List.foldl_cons, rewrite_toExpr, ih, List.map_map]
    rfl

/-! ## What is written of raw SQL -/

theorem interleaved_done (done : List (String × Expr)) (last : String) :
    Piece.interleaved (done.map Prod.fst ++ [last]) (Expr.piecesOfList (done.map Prod.snd)) =
      (done.flatMap fun (fragment, param) => .text fragment :: param.pieces) ++ [.text last] := by
  induction done with
  | nil => rfl
  | cons entry rest ih =>
    obtain ⟨fragment, param⟩ := entry
    simp only [List.map_cons, List.cons_append, Expr.piecesOfList, Piece.interleaved, ih,
      List.flatMap_cons, List.append_assoc]

theorem pieces_toExpr (r : Raw) :
    r.toExpr.pieces =
      (.require .raw :: r.done.flatMap fun (fragment, param) => .text fragment :: param.pieces) ++
        [.text r.last] := by
  rw [toExpr, Expr.pieces, interleaved_done]
  rfl

-- A call adds its own part at the end.
theorem writeAll_push (d : Dialect) (sql : Sql) (r : Raw) (part : Part) :
    sql.writeAll d (r.push part).toExpr.pieces =
      andThen (sql.writeAll d r.toExpr.pieces) fun sql => part.write d sql := by
  have hparam (e : Expr) : sql.writeAll d (Raw.mk (r.done ++ [(r.last, e)]) "").toExpr.pieces =
      andThen (sql.writeAll d r.toExpr.pieces) fun sql => sql.writeAll d e.pieces := by
    have hpieces : (Raw.mk (r.done ++ [(r.last, e)]) "").toExpr.pieces =
        r.toExpr.pieces ++ e.pieces ++ [.text ""] := by
      simp [pieces_toExpr]
    have hempty : (fun sql : Sql => sql.writeAll d [.text ""]) = (·, none) :=
      funext fun sql => congrArg (fun s => (Sql.mk s sql.params, none)) String.append_empty
    rw [hpieces, writeAll_append, writeAll_append, hempty, andThen_none]
  cases part with
  | sql s =>
    rw [pieces_toExpr, pieces_toExpr, writeAll_append, writeAll_append, andThen_assoc]
    refine congrArg (andThen _) (funext fun sql => ?_)
    exact congrArg (fun text => (Sql.mk text sql.params, none)) String.append_assoc.symm
  | value v => exact hparam (.value v)
  | expr e => exact hparam e

theorem writeAll_pushAll (d : Dialect) (sql : Sql) (r : Raw) (parts : List Part) :
    sql.writeAll d (r.pushAll parts).toExpr.pieces =
      andThen (sql.writeAll d r.toExpr.pieces) fun sql => writeParts d sql parts := by
  induction parts generalizing r with
  | nil => exact (andThen_none _).symm
  | cons part rest ih =>
    show sql.writeAll d ((r.push part).pushAll rest).toExpr.pieces = _
    rw [ih, writeAll_push, andThen_assoc]
    rfl

theorem writeAll_ofSql (d : Dialect) (sql : Sql) (start : String) :
    sql.writeAll d (ofSql start).toExpr.pieces =
      if d.supports .raw then (sql.append start, none)
      else (sql, some (.unsupported d.name .raw)) := by
  rw [pieces_toExpr]
  show sql.writeAll d [.require .raw, .text start] = _
  rw [Sql.writeAll, Sql.write]
  cases d.supports .raw <;> rfl

/-! ## Main statement -/

/-- Raw SQL has one fragment more than it has parameters, which are those of its parts in order.  In
any dialect and after anything it is written part by part, up to the first part that fails; if none
fails, what is added is the first text and what each part is by itself, in order, with the
parameters in the same order.  Plugins that rewrite names make of it what is assembled of the
rewritten parts, wherever it is written in a statement. -/
theorem raw_sql_is_written_as_assembled (start : String) (parts : List Part)
    (rewrites : List Rewrite) :
    let assembled := ((ofSql start).pushAll parts).toExpr
    let node := rewrites.foldl (fun e r => e.rewrite r) assembled
    let parts' := parts.map fun part => rewrites.foldl (fun part r => part.rewrite r) part
    let lists := parts'.foldl Part.grow ([start], [])
    (node = .raw lists.1 lists.2 ∧ lists.1.length = lists.2.length + 1 ∧
      lists.2 = parts'.filterMap Part.param?) ∧
    (∀ (d : Dialect) (sql : Sql),
      sql.writeAll d node.pieces =
        (if d.supports .raw then writeParts d (sql.append start) parts'
          else (sql, some (.unsupported d.name .raw))) ∧
      ∀ out, sql.writeAll d node.pieces = (out, none) ↔
        d.supports .raw = true ∧ ∃ texts, Rendered d sql.params.length parts' texts ∧
          out = ⟨sql.text ++ start ++ String.join (texts.map Sql.text),
            sql.params ++ texts.flatMap Sql.params⟩) ∧
    ∀ (plugins : List Plugin) (q : Query),
      plugins.map Plugin.onQuery = rewrites.map Query.rewrite → q.Holds assembled →
        (Plugin.rewritten plugins q).Holds node := by
  intro assembled node parts' lists
  have hnode : node = ((ofSql start).pushAll parts').toExpr :=
    foldl_rewrite_toExpr rewrites start parts
  have hlists : ((ofSql start).pushAll parts').lists = lists := lists_pushAll _ _
  refine ⟨⟨?_, ?_, params_foldl_grow _ _⟩, fun d sql => ?_, fun plugins q hplugins h => ?_⟩
  · rw [hnode, toExpr_eq, hlists]
  · rw [← hlists]
    exact length_lists _
  · have hwrite : sql.writeAll d node.pieces =
        if d.supports .raw then writeParts d (sql.append start) parts'
        else (sql, some (.unsupported d.name .raw)) := by
      rw [hnode, writeAll_pushAll, writeAll_ofSql]
      cases d.supports .raw <;> rfl
    refine ⟨hwrite, fun out => ?_⟩
    rw [hwrite]
    cases d.supports .raw with
    | false => simp
    | true =>
      rw [if_pos rfl, writeParts_eq_none_iff, and_iff_right rfl]
      rfl
  · exact h.rewritten hplugins

-- Raw SQL in raw SQL, after a parameter, with the column of the inner one renamed.
theorem raw_sql_is_written_as_assembled_nested :
    let inner := ((ofSql "lower(").pushAll [.expr (.reference none "name"), .sql ")"]).toExpr
    let parts : List Part := [.value (.text "Ani"), .sql ",", .sql " ", .expr inner, .sql ")"]
    let assembled := ((ofSql "concat(").pushAll parts).toExpr
    let p := Plugin.ofRewrite (.names (· ++ "2"))
    let q := Query.delete { Delete.ofTable (.ofName "person") with filter := some assembled }
    let node := assembled.rewrite (.names (· ++ "2"))
    q.Holds assembled ∧ (Plugin.rewritten [p] q).Holds node ∧
      (Sql.mk "SELECT $1, " [.int 1]).writeAll .postgres node.pieces =
        (⟨"SELECT $1, concat($2, lower(\"name2\"))", [.int 1, .text "Ani"]⟩, none) := by
  intro inner parts assembled p q node
  obtain ⟨-, hwrite, hplugins⟩ :=
    raw_sql_is_written_as_assembled "concat(" parts [.names (· ++ "2")]
  have hholds : q.Holds assembled := ⟨.expr assembled, List.mem_cons_self, .refl⟩
  refine ⟨hholds, hplugins [p] q rfl hholds, ?_⟩
  exact ((hwrite .postgres _).2 _).mpr ⟨rfl,
    [⟨"$2", [.text "Ani"]⟩, ⟨",", []⟩, ⟨" ", []⟩, ⟨"lower(\"name2\")", []⟩, ⟨")", []⟩],
    .cons rfl (.cons rfl (.cons rfl (.cons rfl (.cons rfl (.nil _))))), rfl⟩

end Raw

end SqlWeave
