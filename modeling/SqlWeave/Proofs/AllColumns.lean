import SqlWeave.Builder.Select
import SqlWeave.Proofs.Framing
import SqlWeave.Proofs.Scan
import SqlWeave.Proofs.Spelling

/-!
# All columns of a table

One call takes a text as the name of a table and selects all its columns; another reads what is
before the star in a shorthand.  They agree on the names that stand for themselves only: a schema
that is read in one place is a part of the name in the other, and the two are quoted differently.
-/

namespace SqlWeave

open Text

/-! ## Qualified names in quotes -/

theorem Table.names_injective {x y : Table} (h : x.names = y.names) : x = y := by
  obtain ⟨schema, name⟩ := x
  obtain ⟨schema', name'⟩ := y
  cases schema <;> cases schema' <;> cases h <;> rfl

section Written

variable {d : Dialect}

theorem Table.failure_pieces (t : Table) : t.pieces.findSome? (Piece.failure d) = none := by
  obtain ⟨schema, name⟩ := t
  cases schema <;> rfl

theorem Table.params_pieces (t : Table) :
    Symbol.params (t.pieces.flatMap (Piece.symbols d)) = [] := by
  obtain ⟨schema, name⟩ := t
  cases schema <;> simp [pieces, Piece.symbols]

-- The scanner finds the names between their quotes, unless the point is a quote itself.
theorem Table.names_scan (t : Table) (hquote : d.quote ≠ '.') (n : Nat) :
    Scan.names (Scan.tokens d.quote .outside
      (Symbol.layout d.placeholder n (t.pieces.flatMap (Piece.symbols d)))) = t.names := by
  obtain ⟨schema, name⟩ := t
  have hname (rest : List Char) (hrest : ∀ c ∈ rest.head?, c ≠ d.quote) (s : String) :=
    Scan.tokens_quoted d s hrest
  have hend := hname [] nofun name
  rw [List.append_nil] at hend
  cases schema with
  | none =>
    have hlayout : Symbol.layout d.placeholder n
        ((Table.mk none name).pieces.flatMap (Piece.symbols d)) = (d.quoted name).toList := by
      simp [pieces, Piece.symbols]
    rw [hlayout, hend]
    rfl
  | some schema =>
    have hlayout : Symbol.layout d.placeholder n
        ((Table.mk (some schema) name).pieces.flatMap (Piece.symbols d)) =
          (d.quoted schema).toList ++ '.' :: (d.quoted name).toList := by
      simp [pieces, Piece.symbols]
    have hpoint : ∀ c ∈ ('.' :: (d.quoted name).toList).head?, c ≠ d.quote := by
      rintro c ⟨⟩
      exact Ne.symm hquote
    rw [hlayout, hname _ hpoint, Scan.tokens, if_neg (Ne.symm hquote), hend]
    rfl

end Written

/-! ## A star among the selections -/

/-- The select with all columns of one more table. -/
def Select.withStar (s : Select) (t : Table) : Select :=
  { s with selections := s.selections ++ [.star (some t)] }

namespace Select

variable {d : Dialect}

theorem withStar_injective (s : Select) {x y : Table} (h : s.withStar x = s.withStar y) :
    x = y := by
  have hselections := List.append_cancel_left (congrArg Select.selections h)
  rw [List.singleton_inj] at hselections
  exact Option.some.inj (Expr.star.inj hselections)

-- What is selected last is written in one place, after what was selected before.
theorem rootPieces_last (s : Select) : ∃ before after, ∀ e,
    (Query.select { s with selections := s.selections ++ [e] }).rootPieces =
      before ++ (e.pieces ++ after) := by
  obtain ⟨sources, selections, distinct, joins, filter, groupBy, having, orderBy, limit, offset,
    explain⟩ := s
  let keyword : List Piece := if distinct then [.text "DISTINCT "] else []
  let before : List Piece := explain.elim [] Explain.pieces ++ (.require .select ::
    .text "SELECT " :: (keyword ++ (selections.map Expr.pieces).flatMap (· ++ [.text ", "])))
  let bounds : List Piece := Expr.clause [.require .limit, .text " LIMIT "] limit ++
    Expr.clause [.require .offset, .text " OFFSET "] offset
  let after : List Piece := listClause " FROM " (Source.piecesOfList sources) ++
    (Join.piecesOfList joins ++ (Expr.clause [.text " WHERE "] filter ++
    (listClause " GROUP BY " (Expr.piecesOfList groupBy) ++
    (Expr.clause [.text " HAVING "] having ++
    (listClause " ORDER BY " (OrderItem.piecesOfList orderBy) ++ bounds)))))
  refine ⟨before, after, fun e => ?_⟩
  have hne : (selections ++ [e]).isEmpty = false := by simp
  simp only [before, after, keyword, bounds, Query.rootPieces_eq_append, Query.pieces,
    Query.explain, pieces, hne, Bool.false_eq_true, if_false, Expr.piecesOfList_eq_map,
    List.map_append, List.map_singleton, Piece.separated_append_cons, List.flatMap_nil,
    List.append_nil, List.append_assoc, List.cons_append]

theorem rootPieces_withStar (s : Select) : ∃ before after, ∀ t,
    (Query.select (s.withStar t)).rootPieces = before ++ (t.pieces ++ after) := by
  obtain ⟨before, after, hroot⟩ := s.rootPieces_last
  refine ⟨before, .text "." :: .text "*" :: after, fun t => ?_⟩
  rw [withStar, hroot, Expr.pieces, Table.qualifier, List.append_assoc, List.append_assoc]
  rfl

theorem error_withStar_iff (s : Select) (x y : Table) {e : QueryError} :
    (Query.select (s.withStar x)).compile d = .error e ↔
      (Query.select (s.withStar y)).compile d = .error e := by
  obtain ⟨before, after, hroot⟩ := s.rootPieces_withStar
  have hfailure (t : Table) : (Query.select (s.withStar t)).rootPieces.findSome? (Piece.failure d) =
      (before ++ after).findSome? (Piece.failure d) := by
    rw [hroot, List.findSome?_append, List.findSome?_append, List.findSome?_append,
      t.failure_pieces, Option.none_or]
  rw [Query.compile, Query.compile, Sql.ofPieces_eq_error_iff, Sql.ofPieces_eq_error_iff,
    hfailure, hfailure]

-- The text tells the tables apart.
theorem eq_of_compile_withStar (s : Select) (hquote : d.quote ≠ '.') {x y : Table} {sql : Sql}
    (hx : (Query.select (s.withStar x)).compile d = .ok sql)
    (hy : (Query.select (s.withStar y)).compile d = .ok sql) : x = y := by
  obtain ⟨before, after, hroot⟩ := s.rootPieces_withStar
  let start := before.flatMap (Piece.symbols d)
  let stop := after.flatMap (Piece.symbols d)
  let n := 1 + (Symbol.params start).length
  have htext (t : Table) (h : (Query.select (s.withStar t)).compile d = .ok sql) :
      sql.text.toList = Symbol.layout d.placeholder 1 start ++
        (Symbol.layout d.placeholder n (t.pieces.flatMap (Piece.symbols d)) ++
          Symbol.layout d.placeholder n stop) := by
    rw [Query.eq_ofSymbols_of_compile h, Sql.text_ofSymbols, Query.symbols, hroot,
      List.flatMap_append, List.flatMap_append, Symbol.layout_append, Symbol.layout_append,
      t.params_pieces]
    rfl
  have hsame := List.append_cancel_right
    (List.append_cancel_left ((htext x hx).symm.trans (htext y hy)))
  apply Table.names_injective
  rw [← x.names_scan hquote n, ← y.names_scan hquote n, hsame]

end Select

/-! ## Names and shorthands -/

namespace Shorthand

/-- Whether a text is itself the name of the table that it stands for. -/
def IsName (s : String) : Prop := '.' ∉ s.toList ∧ trim s = s

theorem table_eq_ofName_iff {s : String} : table s = .ofName s ↔ IsName s := by
  unfold IsName table
  constructor
  · intro h
    cases hcut : cutFirst '.' s.toList with
    | none =>
      have hpoint := cutFirst_eq_none_iff.mp hcut
      rw [tableOfChars_name hpoint] at h
      exact ⟨hpoint, (Table.mk.inj h).2⟩
    | some parts =>
      obtain ⟨hs, hschema⟩ := append_of_cutFirst hcut
      rw [hs, tableOfChars_inSchema hschema] at h
      exact nomatch (Table.mk.inj h).1
  · rintro ⟨hpoint, htrim⟩
    rw [tableOfChars_name hpoint]
    exact congrArg (Table.mk none) htrim

-- A star after a point completes no keyword.
theorem not_mentionsAlias_star {s : String} (h : ¬ MentionsAlias s) :
    ¬ MentionsAlias (trim (s ++ ".*")) := by
  rw [← cutLastKeyword_eq_none] at h ⊢
  have htrim : (trim (s ++ ".*")).toList = trimStart s.toList ++ ['.'] ++ ['*'] := by
    rw [trim, String.toList_ofList, String.toList_append]
    show trimChars (s.toList ++ '.' :: ['*']) = _
    rw [trimChars_append_cons _ not_isBlank_point, List.append_assoc]
    rfl
  have hstart : cutLastKeyword aliasKeyword (trimStart s.toList) = none := by
    rw [cutLastKeyword_eq_none_iff] at h ⊢
    exact fun rest hrest => h rest (hrest.trans (List.dropWhile_suffix isBlank))
  rw [htrim]
  exact cutLastKeyword_concat_eq_none (by decide) (cutLastKeyword_concat_eq_none (by decide) hstart)

theorem selection_star {s : String} (h : ¬ MentionsAlias s) :
    selection (s ++ ".*") = .star (some (table s)) := by
  rw [selection, splitAlias_none (not_mentionsAlias_star h)]
  dsimp only
  rw [referenceOfChars_congr (trimChars_idem _), String.toList_append]
  show referenceOfChars (s.toList ++ '.' :: ['*']) = _
  rw [referenceOfChars_inTable _ (by decide)]
  rfl

/-! ## Main statement -/

/-- Selecting all columns of a table by a text takes the text as the table's name, and a shorthand
with a star reads it.  Both give the same select if and only if the text is the name of the table
that it stands for; otherwise they fail together, and what is compiled is not the same. -/
theorem all_columns_agree_iff (s : Select) (t : String) (ht : ¬ MentionsAlias t) :
    let named := s.edit (.selectAllFrom t)
    let spelled := s.edit (.select (.items [t ++ ".*"]))
    spelled = s.withStar (table t) ∧
    (named = spelled ↔ IsName t) ∧
    (∀ d e, (Query.select named).compile d = .error e ↔
      (Query.select spelled).compile d = .error e) ∧
    ∀ d sql, d.quote ≠ '.' → (Query.select named).compile d = .ok sql →
      ((Query.select spelled).compile d = .ok sql ↔ IsName t) := by
  intro named spelled
  have hnamed : named = s.withStar (.ofName t) := rfl
  have hspelled : spelled = s.withStar (table t) := by
    show { s with selections := s.selections ++ [selection (t ++ ".*")] } = _
    rw [selection_star ht, Select.withStar]
  have hagree : named = spelled ↔ IsName t := by
    rw [← table_eq_ofName_iff, hnamed, hspelled]
    exact ⟨fun h => (s.withStar_injective h).symm, fun h => by rw [h]⟩
  refine ⟨hspelled, hagree, fun d e => ?_, fun d sql hquote hsql => ⟨fun h => ?_, fun h => ?_⟩⟩
  · rw [hnamed, hspelled]
    exact s.error_withStar_iff _ _
  · rw [hnamed] at hsql
    rw [hspelled] at h
    exact table_eq_ofName_iff.mp (s.eq_of_compile_withStar hquote h hsql)
  · rwa [← hagree.mpr h]

-- A name, and the same name after a blank.
theorem all_columns_agree_iff_padded :
    let s := Select.ofSources [source "person"]
    let named (t : String) := s.edit (.selectAllFrom t)
    let spelled (t : String) := s.edit (.select (.items [t ++ ".*"]))
    ¬ MentionsAlias "person" ∧ named "person" = spelled "person" ∧
      ¬ MentionsAlias " person" ∧ Dialect.postgres.quote ≠ '.' ∧
      ∃ sql, (Query.select (named " person")).compile .postgres = .ok sql ∧
        (Query.select (spelled " person")).compile .postgres ≠ .ok sql := by
  intro s named spelled
  have hfree : ¬ MentionsAlias "person" := cutLastKeyword_eq_none.mp (by decide)
  have hpadded : ¬ MentionsAlias " person" := cutLastKeyword_eq_none.mp (by decide)
  have hquote : Dialect.postgres.quote ≠ '.' := by decide
  have hok : (Query.select (named " person")).compile .postgres =
      .ok (Sql.ofSymbols .postgres ((Query.select (named " person")).symbols .postgres)) :=
    Sql.ofPieces_eq_ok_iff.mpr ⟨rfl, rfl⟩
  have hblank : ¬ IsName " person" := fun h => absurd h.2 (by decide)
  obtain ⟨-, hagree, -, -⟩ := all_columns_agree_iff s "person" hfree
  obtain ⟨-, -, -, hcompile⟩ := all_columns_agree_iff s " person" hpadded
  exact ⟨hfree, hagree.mpr ⟨by decide, by decide⟩, hpadded, hquote, _, hok,
    mt (hcompile _ _ hquote hok).mp hblank⟩

-- The schema becomes a part of the name.
theorem all_columns_of_qualified_table :
    let s := Select.ofSources [source "public.person"]
    let named := Query.select (s.edit (.selectAllFrom "public.person"))
    let spelled := Query.select (s.edit (.select (.items ["public.person" ++ ".*"])))
    ¬ MentionsAlias "public.person" ∧ trim "public.person" ≠ "" ∧
    ∃ sql sql', named.compile .postgres = .ok sql ∧ spelled.compile .postgres = .ok sql' ∧
      sql.text = "SELECT \"public.person\".* FROM \"public\".\"person\"" ∧
      sql'.text = "SELECT \"public\".\"person\".* FROM \"public\".\"person\"" := by
  intro s named spelled
  have hnamed : named.compile .postgres = .ok (Sql.ofSymbols .postgres (named.symbols .postgres)) :=
    Sql.ofPieces_eq_ok_iff.mpr ⟨rfl, rfl⟩
  have hspelled : spelled.compile .postgres =
      .ok (Sql.ofSymbols .postgres (spelled.symbols .postgres)) :=
    Sql.ofPieces_eq_ok_iff.mpr ⟨rfl, rfl⟩
  exact ⟨cutLastKeyword_eq_none.mp (by decide), by decide, _, _, hnamed, hspelled, by decide,
    by decide⟩

end Shorthand

end SqlWeave
