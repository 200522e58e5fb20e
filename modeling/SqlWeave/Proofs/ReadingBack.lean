import SqlWeave.Proofs.Checking
import SqlWeave.Proofs.Firm
import SqlWeave.Proofs.Grouping

/-!
# Reading compiled expressions back

From the text of a basic expression the reader gets the items that `Expr.itemsBefore` gives, and so
the tree that `Expr.reread` gives.
-/

namespace SqlWeave

open SqlWeave.Symbol (ofString)
open Reading (Node Quote Reads)

/-- The nodes of a binary operator. -/
def BinaryOp.nodes : BinaryOp → List Node
  | .eq => [.sign '=']
  | .notEq => [.sign '<', .sign '>']
  | .lt => [.sign '<']
  | .lte => [.sign '<', .sign '=']
  | .gt => [.sign '>']
  | .gte => [.sign '>', .sign '=']
  | .like => [.word "LIKE".toList]
  | .notLike => [.word "NOT".toList, .word "LIKE".toList]
  | .ilike => [.word "ILIKE".toList]
  | .isIn => [.word "IN".toList]
  | .notIn => [.word "NOT".toList, .word "IN".toList]
  | .is => [.word "IS".toList]
  | .isNot => [.word "IS".toList, .word "NOT".toList]
  | .and => [.word "AND".toList]
  | .or => [.word "OR".toList]
  | .add => [.sign '+']
  | .sub => [.sign '-']
  | .mul => [.sign '*']
  | .div => [.sign '/']
  | .concat => [.sign '|', .sign '|']

theorem BinaryOp.reads (o : BinaryOp) : Reads (ofString o.sql) o.nodes := by
  cases o <;> exact ⟨rfl, rfl⟩

theorem BinaryOp.itemsBefore_nodes (p : Precedence) (o : BinaryOp) {items : List Item}
    (h : Opens items) :
    Node.itemsBefore p o.nodes items = some ((Item.op o).before items) := by
  -- Two signs or words are put together whatever begins the right side.
  cases h <;> cases o <;> rfl

/-- Items that no item before them is put together with, unless it begins an operand. -/
def Follows (items : List Item) : Prop := ∀ item ∈ items.head?, ∃ o, item = .op o

theorem follows_nil : Follows [] := fun _ h => absurd h (by simp)

theorem follows_before (o : BinaryOp) {items : List Item} (h : Opens items) :
    Follows ((Item.op o).before items) := by
  intro x hx
  cases h <;> cases o <;> exact ⟨_, (Option.some.inj hx).symm⟩

theorem mapM_char? (cs : List Char) : (cs.map Symbol.char).mapM Symbol.char? = some cs := by
  induction cs with
  | nil => rfl
  | cons c cs ih =>
    rw [List.map_cons, List.mapM_cons, ih]
    rfl

/-- Pieces that read well, and as items before others. -/
def ReadsBefore (d : Dialect) (p : Precedence) (pieces : List Piece) (items result : List Item) :
    Prop :=
  ∃ nodes, Reads (pieces.flatMap (Piece.symbols d)) nodes ∧
    Node.itemsBefore p nodes items = some result

namespace ReadsBefore

variable {d : Dialect} {p : Precedence} {a b pieces : List Piece}
variable {items following result inner : List Item}

theorem param (v : Value) : ReadsBefore d p [.param v] items (.operand (.value v) :: items) :=
  ⟨[.param v], ⟨rfl, rfl⟩, rfl⟩

theorem keywordNull : ReadsBefore d p [.text "NULL"] items (.operand (.value .null) :: items) :=
  ⟨[.word "NULL".toList], ⟨rfl, rfl⟩, rfl⟩

theorem group {e : Expr} (h : ReadsBefore d p pieces [] inner) (he : Item.tree? p inner = some e) :
    ReadsBefore d p (Piece.parenthesized pieces) items (.operand e :: items) := by
  obtain ⟨nodes, hreads, hitems⟩ := h
  refine ⟨[.group .round nodes], ?_, ?_⟩
  · rw [Piece.parenthesized, List.cons_append, List.flatMap_cons, List.flatMap_append]
    exact hreads.group
  · rw [Node.itemsBefore, Node.item?, hitems, Option.bind_some, he]
    rfl

theorem not (h : ReadsBefore d p pieces items result) (hopens : Opens result) :
    ReadsBefore d p (.text "NOT " :: pieces) items (.not :: result) := by
  obtain ⟨nodes, hreads, hitems⟩ := h
  have hword : Reads (ofString "NOT ") [.word "NOT".toList] := ⟨rfl, rfl⟩
  refine ⟨.word "NOT".toList :: nodes, hword.after rfl hreads, ?_⟩
  rw [Node.itemsBefore, hitems]
  cases hopens <;> rfl

theorem minus (h : ReadsBefore d p pieces items result) (hopens : Opens result)
    (hminus : ReadsAs.NoMinus d pieces) :
    ReadsBefore d p (.text "-" :: pieces) items (.op .sub :: result) := by
  obtain ⟨nodes, hreads, hitems⟩ := h
  refine ⟨.sign '-' :: nodes, hreads.negated hminus, ?_⟩
  rw [Node.itemsBefore, hitems]
  cases hopens <;> rfl

-- A binary operator between two expressions.
theorem binary {o : BinaryOp} (ha : ReadsBefore d p a ((Item.op o).before following) result)
    (hb : ReadsBefore d p b items following) (hopens : Opens following) :
    ReadsBefore d p (a ++ [.text " ", .text o.sql, .text " "] ++ b) items result := by
  obtain ⟨m, hm, hmitems⟩ := ha
  obtain ⟨n, hn, hnitems⟩ := hb
  have hblank : Reads (ofString " ") [] := ⟨rfl, rfl⟩
  have hright : Reads (ofString " " ++ b.flatMap (Piece.symbols d)) n := hblank.after rfl hn
  have hop : Reads (ofString o.sql ++ (ofString " " ++ b.flatMap (Piece.symbols d)))
      (o.nodes ++ n) :=
    o.reads.before (by decide) hright
  have hleft : Reads (a.flatMap (Piece.symbols d) ++ (ofString " " ++
      (ofString o.sql ++ (ofString " " ++ b.flatMap (Piece.symbols d))))) (m ++ (o.nodes ++ n)) :=
    hm.before (by decide) (hblank.after rfl hop)
  refine ⟨m ++ (o.nodes ++ n), ?_, ?_⟩
  · simpa [Piece.symbols] using hleft
  · rw [Reading.itemsBefore_append, Reading.itemsBefore_append, hnitems, Option.bind_some,
      o.itemsBefore_nodes p hopens, Option.bind_some, hmitems]

theorem item?_quoted {quote : Quote} (hquote : quote ≠ .single) (s : String) :
    Node.item? p (.quoted quote (s.toList.map Symbol.char)) = some (.column none s) := by
  cases quote with
  | single => exact absurd rfl hquote
  | _ =>
    rw [Node.item?, mapM_char?, Option.map_some, String.ofList_toList]
    exact nofun

-- A name before items: on its own, or before a dot and what is named in it.
theorem name (hd : d ∈ Dialect.builtIn) (s : String) :
    ReadsBefore d p [.name s] items ((Item.column none s).before items) := by
  obtain ⟨quote, hsingle, hquote⟩ := Dialect.exists_quote hd
  refine ⟨[.quoted quote (s.toList.map Symbol.char)], ?_, ?_⟩
  · rw [List.flatMap_singleton]
    exact Reading.reads_quoted hquote s
  · rw [Node.itemsBefore, item?_quoted hsingle]
    rfl

theorem dotted (ha : ReadsBefore d p a (.dot :: following) result)
    (hb : ReadsBefore d p b items following)
    (hdot : Item.dot.before following = .dot :: following) :
    ReadsBefore d p (a ++ .text "." :: b) items result := by
  obtain ⟨m, hm, hmitems⟩ := ha
  obtain ⟨n, hn, hnitems⟩ := hb
  have hsign : Reads (ofString ".") [.sign '.'] := ⟨rfl, rfl⟩
  refine ⟨m ++ .sign '.' :: n, ?_, ?_⟩
  · rw [List.flatMap_append]
    exact hm.before (by decide) (hsign.after rfl hn)
  · rw [Reading.itemsBefore_append, Node.itemsBefore, hnitems]
    show (some (Item.dot.before following)).bind _ = _
    rw [hdot]
    exact hmitems

-- A column with its table and the schema of its table.
theorem reference (hd : d ∈ Dialect.builtIn) (table : Option Table) (column : String)
    (hitems : Follows items) :
    ReadsBefore d p (Table.qualifier table ++ [.name column]) items
      (.column table column :: items) := by
  have hcolumn : ∀ s, (Item.column none s).before items = .column none s :: items := by
    intro s
    cases items with
    | nil => rfl
    | cons item rest =>
      obtain ⟨o, rfl⟩ := hitems item rfl
      rfl
  have hname : ReadsBefore d p [.name column] items (.column none column :: items) :=
    hcolumn column ▸ name hd column
  rcases table with _ | ⟨_ | schema, t⟩
  · exact hname
  · exact dotted (name hd t) hname rfl
  · have htable : ReadsBefore d p ([.name t] ++ .text "." :: [.name column]) items
        (.column (some ⟨none, t⟩) column :: items) := dotted (name hd t) hname rfl
    exact dotted (name hd schema) htable rfl

end ReadsBefore

/-! ## Expressions -/

namespace Expr

variable {d : Dialect} {p : Precedence} {e : Expr} {items : List Item}

theorem readsBefore_operand (h : e.Basic)
    (hreads : ∀ items, Follows items → ReadsBefore d p e.pieces items (e.itemsBefore items))
    (hitems : Follows items) :
    ReadsBefore d p (operand e e.pieces) items (operandBefore e (e.itemsBefore items) items) := by
  unfold operand operandBefore
  split
  · exact ReadsBefore.group (hreads [] nofun) (tree?_itemsBefore p h)
  · exact hreads items hitems

-- A minus sign is never written right before another one.
theorem noMinus_operand (hd : d ∈ Dialect.builtIn) (h : e.Basic)
    (hne : ∀ x, e ≠ .unary .negate x) : ReadsAs.NoMinus d (operand e e.pieces) := by
  have hquoted : ∀ {s : String} {rest : List Piece}, ReadsAs.NoMinus d (.name s :: rest) := by
    intro s rest x hx
    have hquote : d.quote ≠ '-' := by
      simp only [Dialect.builtIn, List.mem_cons, List.not_mem_nil, or_false] at hd
      rcases hd with rfl | rfl | rfl <;> decide
    have hhead : some (Symbol.char d.quote) = some x := by
      rw [List.flatMap_cons, Piece.symbols, ofString, Dialect.quoted, String.toList_ofList] at hx
      exact hx
    cases hhead
    exact fun hc => hquote (Symbol.char.inj hc)
  have hopening : ∀ {rest : List Piece}, ReadsAs.NoMinus d (.text "(" :: rest) := by
    intro rest x hx
    have hhead : some (Symbol.char '(') = some x := hx
    cases hhead
    exact fun hc => absurd (Symbol.char.inj hc) (by decide)
  cases h with
  | reference table column =>
    show ReadsAs.NoMinus d (Expr.reference table column).pieces
    rw [pieces]
    rcases table with _ | ⟨_ | schema, t⟩
    · exact hquoted
    · exact hquoted
    · exact hquoted
  | value v =>
    intro x hx
    have hhead : some (Symbol.param v) = some x := hx
    cases hhead
    exact fun hc => Symbol.noConfusion hc
  | @not e he =>
    show ReadsAs.NoMinus d (Expr.unary .not e).pieces
    rw [pieces]
    intro x hx
    have hhead : some (Symbol.char 'N') = some x := hx
    cases hhead
    exact fun hc => absurd (Symbol.char.inj hc) (by decide)
  | negate he _ => exact absurd rfl (hne _)
  | @binary left right op _ _ =>
    rw [operand, isBareOperation]
    cases hop : op.isLogical with
    | true =>
      rw [if_neg (by decide), pieces, hop]
      exact hopening
    | false =>
      rw [if_pos (by decide)]
      exact hopening

theorem readsBefore (hd : d ∈ Dialect.builtIn) (p : Precedence) (h : e.Basic)
    (hitems : Follows items) : ReadsBefore d p e.pieces items (e.itemsBefore items) := by
  induction h generalizing items with
  | reference table column => exact ReadsBefore.reference hd table column hitems
  | value v => exact ReadsBefore.param v
  | @not e he ih =>
    have hoperand := readsBefore_operand he (fun _ => ih) hitems
    rw [pieces, itemsBefore]
    · exact hoperand.not (opens_operandBefore (opens_itemsBefore he items))
    · decide
  | @negate e he hne ih =>
    have hoperand := readsBefore_operand he (fun _ => ih) hitems
    rw [pieces, itemsBefore]
    exact hoperand.minus (opens_operandBefore (opens_itemsBefore he items))
      (noMinus_operand hd he hne)
  | @binary left right op hleft hright ihl ihr =>
    cases hop : op.isLogical with
    | true =>
      have hkeyword : isKeywordNull op right = false := by
        rw [Bool.eq_false_iff, Ne, isKeywordNull_iff]
        rintro ⟨hnull, -⟩
        cases op <;> first | exact Bool.noConfusion hop | exact Bool.noConfusion hnull
      have hopens : Opens (right.itemsBefore []) := opens_itemsBefore hright []
      have hbefore :
          (Item.op op).before (right.itemsBefore []) = .op op :: right.itemsBefore [] := by
        apply Item.before_op hopens
        rintro rest rfl
        exact Bool.noConfusion hop
      have hinner := (ihl (follows_before op hopens)).binary (ihr follows_nil) hopens
      have htree : Item.tree? p (left.itemsBefore ((Item.op op).before (right.itemsBefore []))) =
          some (binary left op right).reread := by
        rw [hbefore, tree?_logical p hleft hright hop, reread_binary_of_isLogical hop]
      rw [pieces, itemsBefore, hop, hkeyword]
      exact hinner.group htree
    | false =>
      have hopens : Opens (operandBefore right (right.itemsBefore items) items) :=
        opens_operandBefore (opens_itemsBefore hright items)
      have hl := readsBefore_operand hleft (fun _ => ihl) (follows_before op hopens)
      have hr : ReadsBefore d p
          (if isKeywordNull op right then [.text "NULL"] else operand right right.pieces) items
          (operandBefore right (right.itemsBefore items) items) := by
        cases hkeyword : isKeywordNull op right with
        | true =>
          obtain ⟨-, rfl⟩ := (isKeywordNull_iff op right).mp hkeyword
          exact ReadsBefore.keywordNull
        | false => exact readsBefore_operand hright (fun _ => ihr) hitems
      rw [pieces, itemsBefore, hop]
      exact hl.binary hr hopens

/-! ## Main statement -/

theorem Basic.plain (h : e.Basic) :
    e.Everywhere (Expr.Plain (fun _ => False) fun _ => True) := by
  induction h with
  | reference table column => simp [Everywhere, Plain]
  | value v => simp [Everywhere, Plain]
  | not _ ih => simp [Everywhere, Plain, ih]
  | negate _ _ ih => simp [Everywhere, Plain, ih]
  | binary op _ _ ihl ihr => simp [Everywhere, Plain, ihl, ihr]

-- The dialects that come with the library have everything that an expression is written with.
theorem toSql_of_builtIn (hd : d ∈ Dialect.builtIn) (e : Expr) :
    e.toSql d = .ok (Sql.ofSymbols d (e.pieces.flatMap (Piece.symbols d))) := by
  have hsupports : ∀ c : Construct, c.IsInner → d.supports c = true := by
    simp only [Dialect.builtIn, List.mem_cons, List.not_mem_nil, or_false] at hd
    intro c hc
    rcases hd with rfl | rfl | rfl <;> cases c <;> first | rfl | exact hc.elim
  refine Sql.ofPieces_eq_ok_iff.mpr ⟨?_, rfl⟩
  rw [Piece.findSome?_failure, e.checks_pieces, List.findSome?_eq_none_iff, List.forall_mem_map]
  exact fun c hc => (Check.error?_support d c).mpr (hsupports c (e.isInner_constructs c hc))

theorem tree?_text (hd : d ∈ Dialect.builtIn) (p : Precedence) (h : e.Basic) :
    (Sql.ofSymbols d (e.pieces.flatMap (Piece.symbols d))).tree? d p = some e.reread := by
  have hfill := Dialect.fillable_of_builtIn hd
  have hfits : Fits d [d.quote, '$', '?'] e.pieces :=
    Fits.of_plain hfill.clear (fun _ hs => hs.elim) h.plain
  have hempty : Follows [] := nofun
  obtain ⟨nodes, hreads, hitems⟩ := readsBefore hd p h hempty
  rw [Sql.tree?, Sql.inPlace_ofSymbols hfill hfits, hreads.read_eq, Option.bind_some, hitems,
    Option.bind_some, tree?_itemsBefore p h]

/-- The text of a basic expression always compiles and is always read as some expression, and it is
read as the same expression exactly when no comparison or arithmetic operation in it has a `NOT` at
the beginning of its left side or right after an `IS`. -/
theorem grouping_survives_iff (hd : d ∈ Dialect.builtIn) (p : Precedence) (h : e.Basic) :
    ∃ sql, e.toSql d = .ok sql ∧ sql.tree? d p = some e.reread ∧
      (sql.tree? d p = some e ↔ e.Everywhere KeepsGrouping) := by
  refine ⟨_, toSql_of_builtIn hd e, tree?_text hd p h, ?_⟩
  rw [tree?_text hd p h, Option.some.injEq, reread_eq_iff h]

-- Operators of two words, a null that is written as a keyword, and a `NOT` on the right side.
theorem grouping_survives_nested :
    let a : Expr := .reference none "a"
    let b : Expr := .reference (some ⟨some "s", "t"⟩) "b"
    let left : Expr := .binary (.unary .negate a) .is (.value .null)
    let right : Expr := .binary (.binary a .add b) .notLike (.unary .not (.value (.int 5)))
    let e : Expr := .unary .not (.binary left .or (.unary .not right))
    e.Basic ∧ ∃ sql, e.toSql .mysql = .ok sql ∧ sql.tree? .mysql .postgres = some e := by
  intro a b left right e
  have ha : a.Basic := .reference none "a"
  have hb : b.Basic := .reference _ "b"
  have hleft : left.Basic := .binary .is (.negate ha nofun) (.value .null)
  have hright : right.Basic := .binary .notLike (.binary .add ha hb) (.not (.value (.int 5)))
  have he : e.Basic := .not (.binary .or hleft (.not hright))
  have hmysql : Dialect.mysql ∈ Dialect.builtIn := by simp [Dialect.builtIn]
  have hkeeps : e.Everywhere KeepsGrouping := by
    simp [e, left, right, a, b, Everywhere, KeepsGrouping, opensWithNot]
  obtain ⟨sql, hsql, -, hsame⟩ := grouping_survives_iff hmysql .postgres he
  exact ⟨he, sql, hsql, hsame.mpr hkeeps⟩

-- No parentheses are written around the `NOT`, so the whole comparison is read as its operand.
theorem not_reaches_over_comparison :
    let a : Expr := .reference none "a"
    let b : Expr := .reference none "b"
    let e : Expr := .binary (.unary .not a) .eq b
    e.Basic ∧ ∃ sql, e.toSql .postgres = .ok sql ∧ sql.text = "NOT \"a\" = \"b\"" ∧
      ∀ p, sql.tree? .postgres p = some (.unary .not (.binary a .eq b)) ∧
        sql.tree? .postgres p ≠ some e := by
  intro a b e
  have he : e.Basic := .binary .eq (.not (.reference none "a")) (.reference none "b")
  have hpostgres : Dialect.postgres ∈ Dialect.builtIn := by simp [Dialect.builtIn]
  refine ⟨he, _, toSql_of_builtIn hpostgres e, rfl, fun p => ?_⟩
  rw [tree?_text hpostgres p he]
  refine ⟨rfl, fun h => ?_⟩
  have hsame : Expr.unary .not (.binary a .eq b) = .binary (.unary .not a) .eq b :=
    Option.some.inj h
  exact Expr.noConfusion hsame

end Expr

end SqlWeave
