import SqlWeave.Proofs.Adjacent
import SqlWeave.Proofs.Letters
import SqlWeave.Proofs.Quoting

/-!
# Where a comment could begin

A minus sign is written right before its operand.  The operand is put in parentheses if it is a
comparison or an arithmetic operation, but not if it is a negation itself, and then the two minus
signs begin a comment.  Nothing else in a statement without raw SQL does.
-/

namespace SqlWeave

open Piece

/-! ## What minus signs stand before -/

namespace Expr

/-- Whether a minus sign is the first that is written of the expression. -/
def opensWithMinus : Expr → Bool
  | .unary .negate _ => true
  | .binary left op _ => !op.isLogical && !left.isBareOperation && left.opensWithMinus
  | .aliased e _ => e.opensWithMinus
  | _ => false

/-- A minus sign that no other follows: its operand is put in parentheses, or does not begin with
one. -/
def KeepsMinusApart : Expr → Prop
  | .unary .negate e => e.isBareOperation = true ∨ e.opensWithMinus = false
  | _ => True

variable {d : Dialect} {Fn : String → Prop} {Neg : List Piece → Prop} {e : Expr} {p : List Piece}

-- An operand in parentheses does not begin with a minus sign.
theorem opens_operand :
    Opens d '-' (operand e p) ↔ e.isBareOperation = false ∧ Opens d '-' p := by
  unfold operand
  cases e.isBareOperation with
  | true => simp [Opens, parenthesized, glyphs]
  | false => simp

theorem opens_pieces_iff (hFn : ∀ s, Fn s → ClearOf commentChars s) (hd : d.Uncommented) (e : Expr)
    (h : e.Everywhere (Expr.Plain Fn Neg)) :
    Opens d '-' e.pieces ↔ e.opensWithMinus = true := by
  have hminus : '-' ∈ commentChars := by decide
  have hopening (s : String) (p : List Piece) (hs : Separates s) : ¬ Opens d '-' (.text s :: p) :=
    not_opens_text hs hminus
  have hqualifier (table : Option Table) (p : List Piece) (hp : ¬ Opens d '-' p) :
      ¬ Opens d '-' (Table.qualifier table ++ p) := by
    rcases table with _ | ⟨_ | schema, name⟩
    · exact hp
    · simp [Opens, Table.qualifier, Table.pieces, glyphs]
    · simp [Opens, Table.qualifier, Table.pieces, glyphs]
  suffices hall : ∀ (t : Subtree) (e : Expr), t = .expr e → e.Everywhere (Expr.Plain Fn Neg) →
      (Opens d '-' e.pieces ↔ e.opensWithMinus = true) from hall _ e rfl h
  refine Subtree.induction fun t ih => ?_
  rintro e rfl h
  cases e with
  | reference table column =>
    rw [Expr.pieces]
    refine iff_of_false (hqualifier table _ ?_) Bool.false_ne_true
    simp [Opens, glyphs]
  | value v =>
    rw [Expr.pieces]
    refine iff_of_false ?_ Bool.false_ne_true
    simp [Opens, glyphs]
  | raw fragments params =>
    rw [Everywhere] at h
    exact h.1.elim
  | binary left op right =>
    rw [Everywhere] at h
    rw [Expr.pieces, opensWithMinus]
    refine opens_require.trans ?_
    cases op.isLogical with
    | true => exact iff_of_false (hopening "(" _ (by decide)) (by simp)
    | false =>
      have hleft := ih (.expr left) (by simp [Subtree.parts, Expr.parts]) left rfl h.2.1
      simp only [Bool.false_eq_true, if_false, List.append_assoc, List.cons_append]
      rw [opens_append (hopening " " _ (by decide)), opens_operand, hleft]
      simp
  | unary op e =>
    rw [Expr.pieces]
    refine opens_require.trans ?_
    cases op with
    | negate => exact iff_of_true rfl rfl
    | _ => exact iff_of_false (hopening _ _ (by decide)) Bool.false_ne_true
  | call f args =>
    rw [Everywhere] at h
    rw [Expr.pieces]
    refine opens_require.trans (iff_of_false ?_ Bool.false_ne_true)
    exact not_opens_clear (hFn f h.1) hminus (hopening "(" _ (by decide))
  | aliased e label =>
    rw [Everywhere] at h
    have hinner := ih (.expr e) (by simp [Subtree.parts, Expr.parts]) e rfl h.2
    rw [Expr.pieces, opensWithMinus, List.cons_append, opens_require,
      opens_append (hopening " AS " _ (by decide)), hinner]
  | list items =>
    rw [Expr.pieces]
    exact opens_require.trans (iff_of_false (hopening "(" _ (by decide)) Bool.false_ne_true)
  | subquery s =>
    rw [Expr.pieces]
    exact iff_of_false (hopening "(" _ (by decide)) Bool.false_ne_true
  | star table =>
    rw [Expr.pieces]
    refine iff_of_false (hqualifier table _ ?_) Bool.false_ne_true
    simp [Opens, glyphs]
  | defaultMarker =>
    rw [Expr.pieces]
    refine opens_require.trans (iff_of_false (fun hopens => ?_) Bool.false_ne_true)
    have hmem := List.mem_of_mem_head? hopens
    exact not_mem_of_clear hd.defaultMarker hminus (by simpa [glyphs] using hmem)

theorem opensNone_line (hFn : ∀ s, Fn s → ClearOf commentChars s) (hd : d.Uncommented)
    (h : e.Everywhere (Expr.Plain Fn Neg)) :
    e.OpensNone d .line ↔ e.KeepsMinusApart := by
  cases e with
  | unary op x =>
    cases op with
    | negate =>
      rw [Everywhere] at h
      have hopens : Opens d (CommentKind.second .line) (operand x x.pieces) ↔ _ :=
        opens_operand.trans (and_congr_right' (opens_pieces_iff hFn hd x h.2))
      rw [OpensNone, KeepsMinusApart, hopens]
      cases x.isBareOperation <;> simp [CommentKind.first]
    | _ => exact Iff.rfl
  | _ => exact Iff.rfl

theorem opensNone_block (e : Expr) : e.OpensNone d .block := by
  unfold OpensNone
  split
  · exact fun h => absurd h.1 (by decide)
  · trivial

end Expr

/-! ## Tokens -/

section Tokens

variable {d : Dialect} {k : CommentKind}

open Scan (Token)

/-- What a token counts as where comments are looked for. -/
def Scan.Token.glyph : Token → Option Char
  | .plain c => some c
  | _ => none

/-- A comment begins among the tokens, outside quoted identifiers. -/
def CommentKind.OpensIn (k : CommentKind) (tokens : List Scan.Token) : Prop :=
  [.plain k.first, .plain k.second] <:+: tokens

theorem CommentKind.opensIn_iff {tokens : List Token} :
    k.OpensIn tokens ↔ ¬ (tokens.map Token.glyph).IsChain k.Allows := by
  have hglyph : ∀ (t : Token) (c : Char), t.glyph = some c ↔ t = .plain c := by
    intro t c
    cases t <;> simp [Token.glyph]
  rw [List.isChain_map, List.isChain_iff_forall_rel_of_append_cons_cons]
  simp only [Allows, hglyph, not_forall, not_not]
  constructor
  · rintro ⟨before, after, h⟩
    exact ⟨_, _, before, after, by simpa using h.symm, rfl, rfl⟩
  · rintro ⟨x, y, before, after, h, rfl, rfl⟩
    exact ⟨before, after, by simpa using h.symm⟩

namespace Piece

-- A placeholder keeps what is on either side of it apart, whatever its number is.
theorem isChain_glyphs_tokens (hd : d.Uncommented) (n : Nat) (pieces : List Piece)
    (before : List (Option Char)) :
    (before ++ (tokens d n pieces).map Token.glyph).IsChain k.Allows ↔
      (before ++ pieces.flatMap (glyphs d)).IsChain k.Allows := by
  have hplain : ∀ cs : List Char, (cs.map Token.plain).map Token.glyph = cs.map some := by
    intro cs
    rw [List.map_map]
    rfl
  induction pieces generalizing n before with
  | nil => rfl
  | cons piece rest ih =>
    -- A piece that is the same for every number only makes what comes before longer.
    have hfixed : ∀ s : String, (∀ x, piece ≠ .name x) → piece.symbols d = Symbol.ofString s →
        piece.glyphs d = s.toList.map some →
        ((before ++ (tokens d n (piece :: rest)).map Token.glyph).IsChain k.Allows ↔
          (before ++ (piece :: rest).flatMap (glyphs d)).IsChain k.Allows) := by
      intro s hname hs hglyphs
      rw [tokens_fixed hname hs, List.map_append, hplain, List.flatMap_cons, hglyphs,
        ← List.append_assoc, ← List.append_assoc]
      exact ih n _
    cases piece with
    | name s =>
      rw [tokens, List.map_cons, List.append_cons, List.flatMap_cons, glyphs, ← List.append_assoc]
      exact ih n (before ++ [none])
    | param v =>
      have hbetween : (before ++ ((d.placeholder n).toList.map some ++
          (tokens d (n + 1) rest).map Token.glyph)).IsChain k.Allows ↔
            before.IsChain k.Allows ∧ (rest.flatMap (glyphs d)).IsChain k.Allows := by
        have hclear := not_mem_of_clear (hd.placeholder n).2 k.first_mem
        rw [isChain_append_right (head?_ne_of_separates (hd.placeholder n) k.second_mem _),
          isChain_append_left hclear]
        exact and_congr_right' (ih (n + 1) [])
      have hmark : (before ++ none :: rest.flatMap (glyphs d)).IsChain k.Allows ↔
          before.IsChain k.Allows ∧ (rest.flatMap (glyphs d)).IsChain k.Allows := by
        rw [isChain_append_right (by simp)]
        exact and_congr_right' (isChain_append_left (by simp : some k.first ∉ [none]))
      have hlayout : Symbol.layout d.placeholder n (symbols d (.param v)) =
          (d.placeholder n).toList := by
        rw [symbols, Symbol.layout, Symbol.layout, List.append_nil]
      rw [tokens, hlayout, List.map_append, hplain]
      · exact hbetween.trans hmark.symm
      · simp
    | text s => exact hfixed s (by simp) rfl rfl
    | defaultMarker => exact hfixed _ (by simp) rfl rfl
    | ignoreKeyword => exact hfixed _ (by simp) rfl rfl
    | explainFormat s => exact hfixed _ (by simp) rfl rfl
    | require c => exact ih n before
    | refuse f => exact ih n before

end Piece

end Tokens

/-! ## Main statement -/

/-- Letters, digits and underscores. -/
def Worded (s : String) : Prop := ∀ c ∈ s.toList, Text.isAlphanumeric c = true ∨ c = '_'

/-- No raw SQL, and names of functions and a format of explanations that are made of letters, digits
and underscores. -/
structure Query.Worded (q : Query) : Prop where
  exprs : q.Everywhere (Expr.Plain SqlWeave.Worded fun _ => True)
  format : ∀ x ∈ q.explain, ∀ s ∈ x.format, SqlWeave.Worded s

theorem Worded.clear {s : String} (h : Worded s) {bad : List Char}
    (hbad : ∀ c ∈ bad, Text.isAlphanumeric c = false ∧ c ≠ '_') : ClearOf bad s := by
  intro c hc hmem
  rcases h c hc with hword | hline
  · rw [(hbad c hmem).1] at hword
    exact Bool.noConfusion hword
  · exact (hbad c hmem).2 hline

theorem Worded.clear_commentChars {s : String} (h : Worded s) : ClearOf commentChars s := by
  have hmem : ∀ c ∈ commentChars, c ∈ ['"', '\x60', '-', '/', '*', '_'] ∧ c ≠ '_' := by
    simp [commentChars]
  exact h.clear fun c hc => ⟨Text.not_isAlphanumeric_punctuation c (hmem c hc).1, (hmem c hc).2⟩

theorem Worded.clear_quote {s : String} (h : Worded s) {d : Dialect} (hd : d ∈ Dialect.builtIn) :
    ClearOf [d.quote] s := by
  have hmem : d.quote ∈ ['"', '\x60', '-', '/', '*', '_'] ∧ d.quote ≠ '_' := by
    simp only [Dialect.builtIn, List.mem_cons, List.not_mem_nil, or_false] at hd
    rcases hd with rfl | rfl | rfl <;> decide
  exact h.clear (List.forall_mem_singleton.mpr
    ⟨Text.not_isAlphanumeric_punctuation _ hmem.1, hmem.2⟩)

theorem Dialect.uncommented_of_builtIn {d : Dialect} (hd : d ∈ builtIn) : d.Uncommented := by
  have hdollar : SqlWeave.ClearOf commentChars "$" := by decide
  have hnumber : ∀ n : Nat, Separates ("$" ++ toString n) := by
    intro n
    refine ⟨by simp, hdollar.append fun c hc hmem => ?_⟩
    have hdigit : c.isDigit = true :=
      Nat.isDigit_of_mem_toDigits (b := 10) (by decide) (by decide) (by rwa [← Nat.toList_repr])
    have hall : ∀ c ∈ commentChars, c.isDigit = false := by simp [commentChars]
    rw [hall c hmem] at hdigit
    exact Bool.noConfusion hdigit
  have hupper : ∀ c ∈ commentChars, 0 < c.toNat ∧ c.toNat < 'A'.toNat := by
    simp [commentChars]
  have hopening : SqlWeave.ClearOf commentChars "(FORMAT " := by decide
  have hclosing : SqlWeave.ClearOf commentChars ")" := by decide
  have hformat : SqlWeave.ClearOf commentChars "FORMAT=" := by decide
  simp only [builtIn, List.mem_cons, List.not_mem_nil, or_false] at hd
  rcases hd with rfl | rfl | rfl
  · exact ⟨hnumber, by decide, by decide, fun s hs =>
      (hopening.append (hs.upperText hupper)).append hclosing⟩
  · exact ⟨fun n => (by decide : Separates "?"), by decide, by decide, fun s hs =>
      hformat.append hs⟩
  · exact ⟨fun n => (by decide : Separates "?"), by decide, by decide, fun s hs =>
      (by decide : SqlWeave.ClearOf commentChars "QUERY PLAN")⟩

/-- In the text of a statement without raw SQL, for every dialect that comes with the library, no
slash outside quoted identifiers is followed by a star, and a minus sign is followed by another one
exactly where a written negation has an operand that begins with a minus sign and is not put in
parentheses. -/
theorem comments_begin_at_negations {d : Dialect} (hd : d ∈ Dialect.builtIn) {q : Query}
    (hq : q.Worded) {sql : Sql} (h : q.compile d = .ok sql) :
    let tokens := Scan.tokens d.quote .outside sql.text.toList
    ¬ CommentKind.block.OpensIn tokens ∧
      (CommentKind.line.OpensIn tokens ↔ ∃ e, q.Writes e ∧ ¬ e.KeepsMinusApart) := by
  intro tokens
  have hFn : ∀ s, Worded s → ClearOf commentChars s := fun s hs => hs.clear_commentChars
  have hplain := Dialect.uncommented_of_builtIn hd
  have hquote : ∀ s, Worded s → ClearOf [d.quote] s := fun s hs => hs.clear_quote hd
  have htokens : tokens = Piece.tokens d 1 q.rootPieces := by
    have hscan := Dialect.scannable_of_builtIn hd
    exact Query.tokens_of_compile hscan (Query.fits hscan.clear hquote hq.exprs fun x hx s hs =>
      hscan.format s (hquote s (hq.format x hx s hs))) h
  have hopens (k : CommentKind) : k.OpensIn tokens ↔ ∃ e, q.Writes e ∧ ¬ e.OpensNone d k := by
    have hapart : k.OpensIn tokens ↔ ¬ Apart d k q.rootPieces := by
      rw [CommentKind.opensIn_iff, htokens]
      exact not_congr (Piece.isChain_glyphs_tokens hplain 1 q.rootPieces [])
    have hformat : ∀ x ∈ q.explain, ∀ s ∈ x.format, ClearOf commentChars s :=
      fun x hx s hs => hFn s (hq.format x hx s hs)
    have hparts : (∀ t ∈ q.parts, Apart d k t.pieces) ↔
        ∀ t ∈ q.parts, ∀ e, t.Has (.expr e) → e.OpensNone d k :=
      forall₂_congr fun t ht =>
        Subtree.apart_pieces_iff hFn hplain (Query.everywhere_parts hq.exprs t ht)
    rw [hapart, Query.apart_rootPieces_iff hplain hformat, hparts]
    simp only [Query.Writes, not_forall]
    constructor
    · rintro ⟨t, ht, e, he, hnone⟩
      exact ⟨e, ⟨t, ht, he⟩, hnone⟩
    · rintro ⟨e, ⟨t, ht, he⟩, hnone⟩
      exact ⟨t, ht, e, he, hnone⟩
  rw [hopens, hopens]
  refine ⟨fun ⟨e, _, hnone⟩ => hnone e.opensNone_block, exists_congr fun e => ?_⟩
  exact and_congr_right fun he =>
    not_congr (Expr.opensNone_line hFn hplain (Query.Writes.everywhere hq.exprs he))

-- The negation of a difference, and the difference with a negation.
theorem comments_begin_at_negations_difference :
    let difference : Expr :=
      .binary (.reference none "a") .sub (.unary .negate (.reference none "b"))
    let q : Query := .delete { Delete.ofTable (.ofName "t") with
      filter := some (.unary .negate difference) }
    ∃ sql, Dialect.postgres ∈ Dialect.builtIn ∧ q.Worded ∧ q.compile .postgres = .ok sql ∧
      ∀ k : CommentKind,
        ¬ k.OpensIn (Scan.tokens Dialect.postgres.quote .outside sql.text.toList) := by
  intro difference q
  have hd : Dialect.postgres ∈ Dialect.builtIn := List.mem_cons_self
  have hq : q.Worded := by
    refine ⟨⟨fun _ h => (nomatch h : False).elim, ?_⟩, fun _ h => (nomatch h : False).elim⟩
    simp [q, difference, Delete.exprs, Delete.ofTable, Expr.Everywhere, Expr.Plain]
  have hkeeps : q.Everywhere Expr.KeepsMinusApart := by
    refine ⟨fun _ h => (nomatch h : False).elim, ?_⟩
    simp [q, difference, Delete.exprs, Delete.ofTable, Expr.Everywhere, Expr.KeepsMinusApart,
      Expr.isBareOperation, Expr.opensWithMinus, BinaryOp.isLogical]
  have hok : q.compile .postgres = .ok (Sql.ofSymbols .postgres (q.symbols .postgres)) :=
    Sql.ofPieces_eq_ok_iff.mpr ⟨rfl, rfl⟩
  obtain ⟨hblock, hline⟩ := comments_begin_at_negations hd hq hok
  refine ⟨_, hd, hq, hok, ?_⟩
  rintro (_ | _) hopens
  · obtain ⟨e, he, hnot⟩ := hline.mp hopens
    exact hnot (Query.Writes.everywhere hkeeps he).self
  · exact hblock hopens

-- The negation of a negation.
theorem comment_begins_between_negations :
    let q : Query := .delete { Delete.ofTable (.ofName "person") with
      filter := some (.binary (.reference none "a") .eq
        (.unary .negate (.unary .negate (.reference none "b")))) }
    ∃ sql, Dialect.postgres ∈ Dialect.builtIn ∧ q.Worded ∧ q.compile .postgres = .ok sql ∧
      sql.text = "DELETE FROM \"person\" WHERE \"a\" = --\"b\"" ∧
      CommentKind.line.OpensIn (Scan.tokens '"' .outside sql.text.toList) := by
  intro q
  have hq : q.Worded := by
    refine ⟨⟨fun _ h => (nomatch h : False).elim, ?_⟩, fun _ h => (nomatch h : False).elim⟩
    simp [q, Delete.exprs, Delete.ofTable, Expr.Everywhere, Expr.Plain]
  have hok : q.compile .postgres = .ok (Sql.ofSymbols .postgres (q.symbols .postgres)) :=
    Sql.ofPieces_eq_ok_iff.mpr ⟨rfl, rfl⟩
  have hmap : (q.compile .postgres).map Sql.text =
      .ok "DELETE FROM \"person\" WHERE \"a\" = --\"b\"" := rfl
  rw [hok] at hmap
  have htext := Except.ok.inj hmap
  let plain (s : String) : List Scan.Token := s.toList.map Scan.Token.plain
  let name (s : String) : List Scan.Token := [Scan.Token.name s]
  let before := plain "DELETE FROM " ++ name "person" ++ plain " WHERE " ++ name "a" ++ plain " = "
  have htokens : Scan.tokens '"' .outside "DELETE FROM \"person\" WHERE \"a\" = --\"b\"".toList =
      before ++ plain "--" ++ name "b" := rfl
  refine ⟨_, List.mem_cons_self, hq, hok, htext, ?_⟩
  rw [htext, htokens]
  exact List.infix_append _ _ _

end SqlWeave
