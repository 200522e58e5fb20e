import SqlWeave.Proofs.Framing
import SqlWeave.Proofs.Placeholder

/-!
# Writing at the end

Whatever is written goes to the end of what is there, and of what is there only the number of the
parameters matters: placeholders are counted on from it.  So a select inside a statement, and a
statement behind its request to explain, are written as they would be by themselves, with their
placeholders shifted.
-/

namespace SqlWeave

/-- The dialect whose first placeholder is the one after `k` placeholders. -/
def Dialect.shift (d : Dialect) (k : Nat) : Dialect := d.numbering fun n => d.placeholder (k + n)

/-- Two texts one after the other, and the parameters of both. -/
instance : Append Sql := ⟨fun a b => ⟨a.text ++ b.text, a.params ++ b.params⟩⟩

theorem Symbol.layout_shift (d : Dialect) (k n : Nat) (symbols : List Symbol) :
    layout (d.shift k).placeholder n symbols = layout d.placeholder (k + n) symbols := by
  induction symbols generalizing n with
  | nil => rfl
  | cons s rest ih =>
    cases s with
    | char c => rw [layout, layout, ih]
    | param v => rw [layout, layout, ih, Nat.add_assoc]; rfl

theorem Piece.failure_numbering_eq (d : Dialect) (placeholder : Nat → String) :
    failure (d.numbering placeholder) = failure d :=
  funext (failure_numbering d placeholder)

namespace Sql

variable {d : Dialect}

theorem eq_of_toList {a b : Sql} (htext : a.text.toList = b.text.toList)
    (hparams : a.params = b.params) : a = b := by
  cases a
  cases b
  rw [mk.injEq]
  exact ⟨String.toList_inj.mp htext, hparams⟩

-- What is added does not depend on what is there, apart from the number of its parameters.
theorem extend_eq_append (sql : Sql) (symbols : List Symbol) :
    sql.extend d symbols = sql ++ ofSymbols (d.shift sql.params.length) symbols := by
  apply eq_of_toList
  · show _ = (sql.text ++ (ofSymbols (d.shift sql.params.length) symbols).text).toList
    rw [text_extend, String.toList_append, text_ofSymbols, Symbol.layout_shift]
  · show _ = sql.params ++ (ofSymbols (d.shift sql.params.length) symbols).params
    rw [params_extend, params_ofSymbols]

theorem ofSymbols_append (a b : List Symbol) :
    ofSymbols d (a ++ b) =
      ofSymbols d a ++ ofSymbols (d.shift (ofSymbols d a).params.length) b := by
  rw [ofSymbols, extend_append, extend_eq_append]
  rfl

theorem findSome?_failure_shift (k : Nat) (pieces : List Piece) :
    pieces.findSome? (Piece.failure (d.shift k)) = pieces.findSome? (Piece.failure d) := by
  rw [Dialect.shift, Piece.failure_numbering_eq]

theorem flatMap_symbols_shift (k : Nat) (pieces : List Piece) :
    pieces.flatMap (Piece.symbols (d.shift k)) = pieces.flatMap (Piece.symbols d) :=
  List.flatMap_congr fun piece _ => piece.symbols_numbering d _

-- Pieces that are written after others only have their placeholders shifted.
theorem ofPieces_append_eq_ok_iff {a b : List Piece} {sql : Sql} :
    ofPieces d (a ++ b) = .ok sql ↔ ∃ head tail, ofPieces d a = .ok head ∧
      ofPieces (d.shift head.params.length) b = .ok tail ∧ sql = head ++ tail := by
  simp only [ofPieces_eq_ok_iff, findSome?_failure_shift, flatMap_symbols_shift,
    List.findSome?_append, List.flatMap_append, ofSymbols_append, Option.or_eq_none_iff]
  constructor
  · rintro ⟨⟨ha, hb⟩, rfl⟩
    exact ⟨_, _, ⟨ha, rfl⟩, ⟨hb, rfl⟩, rfl⟩
  · rintro ⟨head, tail, ⟨ha, rfl⟩, ⟨hb, rfl⟩, rfl⟩
    exact ⟨⟨ha, hb⟩, rfl⟩

/-- The second is the first with its placeholders shifted by `k`: between the same literal pieces,
placeholders are counted from `k + 1` on, and the parameters are the same. -/
structure Shifted (d : Dialect) (k : Nat) (own inner : Sql) : Prop where
  params : inner.params = own.params
  text : ∃ pieces, own.Alternates d.placeholder pieces ∧
    inner.Alternates (d.shift k).placeholder pieces

theorem exists_shifted {pieces : List Piece} {own : Sql} (h : ofPieces d pieces = .ok own)
    (k : Nat) : ∃ inner, ofPieces (d.shift k) pieces = .ok inner ∧ own.Shifted d k inner := by
  obtain ⟨hok, rfl⟩ := ofPieces_eq_ok_iff.mp h
  refine ⟨ofSymbols (d.shift k) (pieces.flatMap (Piece.symbols d)), ?_, ?_, ?_⟩
  · rw [ofPieces_eq_ok_iff, findSome?_failure_shift, flatMap_symbols_shift]
    exact ⟨hok, rfl⟩
  · rw [params_ofSymbols, params_ofSymbols]
  · exact ⟨_, alternates_ofSymbols _, alternates_ofSymbols _⟩

theorem ofPieces_of_shift {pieces : List Piece} {k : Nat} {inner : Sql}
    (h : ofPieces (d.shift k) pieces = .ok inner) :
    ∃ own, ofPieces d pieces = .ok own ∧ own.Shifted d k inner := by
  have hok : pieces.findSome? (Piece.failure d) = none := by
    rw [← findSome?_failure_shift k]
    exact (ofPieces_eq_ok_iff.mp h).1
  have hown := ofPieces_eq_ok_iff.mpr ⟨hok, rfl⟩
  obtain ⟨inner', hinner, hshifted⟩ := exists_shifted hown k
  rw [h] at hinner
  cases hinner
  exact ⟨_, hown, hshifted⟩

end Sql

/-- What is written by itself: expressions, clauses and statements. -/
inductive Fragment where
  | expr (e : Expr)
  | column (name : String)
  | columnUpdate (u : ColumnUpdate)
  | source (x : Source)
  | join (j : Join)
  | orderItem (i : OrderItem)
  | rows (lines : List (List Expr))
  | conflict (c : Conflict)
  | duplicateKey (updates : List ColumnUpdate)
  | returning (selections : List Expr)
  | explain (request : Explain)
  | statement (q : Query)

def Fragment.pieces : Fragment → List Piece
  | .expr e => e.pieces
  | .column name => [.name name]
  | .columnUpdate u => u.pieces
  | .source x => x.pieces
  | .join j => j.pieces
  | .orderItem i => i.pieces
  | .rows lines => rowsPieces lines
  | .conflict c => c.pieces
  | .duplicateKey updates =>
    .require .onDuplicateKey :: .text " ON DUPLICATE KEY UPDATE " :: updateList updates
  | .returning selections => returningClause (some selections)
  | .explain request => request.pieces
  | .statement q => q.pieces

theorem Sql.writeAll_numbering (d : Dialect) (placeholder : Nat → String) (sql : Sql)
    (pieces : List Piece) :
    sql.writeAll (d.numbering placeholder) pieces =
      (⟨sql.text ++ String.ofList (Symbol.fill placeholder (sql.params.length + 1)
          (Symbol.literals (Piece.symbolsBeforeFailure d pieces))),
        sql.params ++ Symbol.params (Piece.symbolsBeforeFailure d pieces)⟩,
        pieces.findSome? (Piece.failure d)) := by
  rw [writeAll_eq, Piece.symbolsBeforeFailure_numbering, Piece.failure_numbering_eq,
    Symbol.fill_literals]
  congr 1
  apply eq_of_toList
  · rw [text_extend, String.toList_append, String.toList_ofList]
    rfl
  · exact params_extend _ _ _

namespace Query

/-- The statement inside which a select is compiled: what is written before it and after it does not
depend on it, and it is written as by itself, with its placeholders shifted. -/
theorem Around.compile_fill {a : Around} (ha : a.isWritten = true) (d : Dialect) :
    ∃ before after, ∀ x sql, (a.fill x).compile d = .ok sql →
      ∃ head own inner tail, Sql.ofPieces d before = .ok head ∧
        (Query.select x).toSql d = .ok own ∧
        (Query.select x).toSql (d.shift head.params.length) = .ok inner ∧
        own.Shifted d head.params.length inner ∧
        Sql.ofPieces (d.shift (head ++ inner).params.length) after = .ok tail ∧
        sql = head ++ inner ++ tail := by
  obtain ⟨before, after, hframed⟩ := a.framed
  refine ⟨before, after, fun x sql hsql => ?_⟩
  have hpieces : (a.fill x).rootPieces = before ++ x.pieces ++ after := by
    rw [← if_pos ha (t := x.pieces) (e := [])]
    exact hframed x
  rw [compile, hpieces] at hsql
  obtain ⟨front, tail, hfront, htail, rfl⟩ := Sql.ofPieces_append_eq_ok_iff.mp hsql
  obtain ⟨head, inner, hhead, hinner, rfl⟩ := Sql.ofPieces_append_eq_ok_iff.mp hfront
  obtain ⟨own, hown, hshifted⟩ := Sql.ofPieces_of_shift hinner
  exact ⟨head, own, inner, tail, hhead, hown, hinner, hshifted, htail, rfl⟩

theorem compile_eq_ok_iff_of_explain {d : Dialect} {q : Query} {request : Explain} {sql : Sql}
    (h : q.explain = some request) :
    q.compile d = .ok sql ↔ ∃ head own inner, Sql.ofPieces d request.pieces = .ok head ∧
      (q.withExplain none).compile d = .ok own ∧
      (q.withExplain none).compile (d.shift head.params.length) = .ok inner ∧
      own.Shifted d head.params.length inner ∧ sql = head ++ inner := by
  have hroot : q.rootPieces = request.pieces ++ q.pieces := by
    rw [rootPieces_eq_append, h, Option.elim_some]
  have hplain : (q.withExplain none).rootPieces = q.pieces := by
    rw [rootPieces_eq_append, explain_withExplain, pieces_withExplain]
    rfl
  rw [compile, compile, hroot, hplain, Sql.ofPieces_append_eq_ok_iff]
  constructor
  · rintro ⟨head, inner, hhead, hinner, rfl⟩
    obtain ⟨own, hown, hshifted⟩ := Sql.ofPieces_of_shift hinner
    exact ⟨head, own, inner, hhead, hown, by rw [compile, hplain]; exact hinner, hshifted, rfl⟩
  · rintro ⟨head, own, inner, hhead, -, hinner, -, rfl⟩
    rw [compile, hplain] at hinner
    exact ⟨head, inner, hhead, hinner, rfl⟩

theorem Around.compile_withExplain (a : Around) (d : Dialect) (x : Select)
    (explain : Option Explain) :
    (a.fill { x with explain }).compile d = (a.fill x).compile d := by
  obtain ⟨before, after, hframed⟩ := a.framed
  have hsame : (a.fill { x with explain }).rootPieces = (a.fill x).rootPieces :=
    calc (a.fill { x with explain }).rootPieces
      _ = before ++ (if a.isWritten then ({ x with explain } : Select).pieces else []) ++ after :=
        hframed _
      _ = before ++ (if a.isWritten then x.pieces else []) ++ after := by
        rw [x.pieces_withExplain]
      _ = (a.fill x).rootPieces := (hframed x).symm
  rw [compile, compile, hsame]

end Query

/-! ## Main statement -/

/-- Every fragment adds the same literal pieces and parameters wherever it is written, every select
inside a statement has a place there and is written as by itself, its request to explain is not
written, and a statement that is to be explained follows its request. -/
theorem rendering_composes (d : Dialect) :
    (∀ f : Fragment, ∃ (literals : List (List Char)) (params : List Value)
        (failure : Option QueryError), literals.length = params.length + 1 ∧
      ∀ (placeholder : Nat → String) (sql : Sql), sql.writeAll (d.numbering placeholder) f.pieces =
        (⟨sql.text ++ String.ofList (Symbol.fill placeholder (sql.params.length + 1) literals),
          sql.params ++ params⟩, failure)) ∧
    (∀ (q : Query) (x : Select), q.Nests x →
      ∃ a : Query.Around, a.isWritten = true ∧ a.fill x = q) ∧
    (∀ a : Query.Around, a.isWritten = true → ∃ before after, ∀ x sql,
      (a.fill x).compile d = .ok sql →
        ∃ head own inner tail, Sql.ofPieces d before = .ok head ∧
          (Query.select x).toSql d = .ok own ∧
          (Query.select x).toSql (d.shift head.params.length) = .ok inner ∧
          own.Shifted d head.params.length inner ∧
          Sql.ofPieces (d.shift (head ++ inner).params.length) after = .ok tail ∧
          sql = head ++ inner ++ tail) ∧
    (∀ (a : Query.Around) (x : Select) (explain : Option Explain),
      (a.fill { x with explain }).compile d = (a.fill x).compile d) ∧
    ∀ (q : Query) (request : Explain), q.explain = some request →
      ∀ sql, q.compile d = .ok sql ↔
        ∃ head own inner, Sql.ofPieces d request.pieces = .ok head ∧
          (q.withExplain none).compile d = .ok own ∧
          (q.withExplain none).compile (d.shift head.params.length) = .ok inner ∧
          own.Shifted d head.params.length inner ∧ sql = head ++ inner := by
  refine ⟨fun f => ?_, fun q x => Query.Nests.exists_around, fun a ha => a.compile_fill ha d,
    fun a x explain => a.compile_withExplain d x explain,
    fun q request h sql => Query.compile_eq_ok_iff_of_explain h⟩
  exact ⟨Symbol.literals (Piece.symbolsBeforeFailure d f.pieces), _,
    f.pieces.findSome? (Piece.failure d), Symbol.length_literals _,
    fun placeholder sql => sql.writeAll_numbering d placeholder f.pieces⟩

-- The inner select is written after one parameter, and the whole statement after its request.
theorem rendering_composes_exists :
    let x : Select := { Select.ofSources [.table (.ofName "pet") none] with
      filter := some (.binary (.reference none "species") .eq (.value (.text "cat")))
      explain := some ⟨none, none⟩ }
    let request : Explain := ⟨some "json", some (.value (.int 1))⟩
    let young : Expr := .binary (.reference none "age") .lt (.value (.int 40))
    let a : Query.Around := .select
      { Select.ofSources [.table (.ofName "person") none] with explain := some request } .filter
      (.place (.right young .and) (.place (.operand .exist) (.subquery .here)))
    (a.fill x).Nests x ∧ ∃ sql, (a.fill x).compile .postgres = .ok sql ∧
      (∃ head own inner tail, (Query.select x).toSql .postgres = .ok own ∧
        own.Shifted .postgres head.params.length inner ∧ sql = head ++ inner ++ tail) ∧
      ∃ head own inner, Sql.ofPieces .postgres request.pieces = .ok head ∧
        ((a.fill x).withExplain none).compile .postgres = .ok own ∧
        own.Shifted .postgres head.params.length inner ∧ sql = head ++ inner := by
  intro x request young a
  obtain ⟨-, hplaces, hinside, -, hexplain⟩ := rendering_composes .postgres
  have hnests : (a.fill x).Nests x := by
    have hexists : Subtree.Has (.expr (.unary .exist (.subquery x))) (.select x) :=
      .head (b := .expr (.subquery x)) List.mem_cons_self (.single List.mem_cons_self)
    refine ⟨_, List.mem_append_right _ List.mem_cons_self,
      .expr (young.and (.unary .exist (.subquery x))), ?_, .head ?_ hexists⟩
    · simp [Subtree.parts, Select.parts, Select.put, Expr.Around.fill,
        Expr.Place.put, Select.Around.fill, Expr.and]
    · exact List.mem_cons_of_mem _ List.mem_cons_self
  have hok : (a.fill x).compile .postgres =
      .ok (Sql.ofSymbols .postgres ((a.fill x).symbols .postgres)) :=
    Sql.ofPieces_eq_ok_iff.mpr ⟨rfl, rfl⟩
  obtain ⟨before, after, hwritten⟩ := hinside a rfl
  obtain ⟨head, own, inner, tail, -, hown, -, hshifted, -, hsql⟩ := hwritten x _ hok
  obtain ⟨front, rest, moved, hfront, hrest, -, hmoved, hsplit⟩ :=
    (hexplain (a.fill x) request rfl _).mp hok
  exact ⟨hnests, _, hok, ⟨head, own, inner, tail, hown, hshifted, hsql⟩, front, rest, moved, hfront,
    hrest, hmoved, hsplit⟩

end SqlWeave
