import SqlWeave.Proofs.Mask
import SqlWeave.Proofs.Quoting

/-!
# Identifiers stay inside their quotes

In the text of a statement without raw SQL, a scanner finds the identifiers that are written and
nothing else between quotes, whatever they are; and what it finds outside the quotes does not depend
on them.  A tree may also hold identifiers in parts without text, which no scanner can find.
-/

namespace SqlWeave

variable {d : Dialect} {bad : List Char}

theorem Spaced.map_mask (m : Mask) {t u : Bool} {pieces : List Piece}
    (h : Spaced d bad t pieces u) : Spaced d bad t (pieces.map (Piece.mask m)) u := by
  induction h with
  | nil => exact .nil
  | text s hc hd _ ih => exact .text s hc hd ih
  | name s _ ih => exact .name _ ih
  | param v _ ih => exact .param _ ih
  | defaultMarker _ ih => exact .defaultMarker ih
  | ignoreKeyword _ ih => exact .ignoreKeyword ih
  | explainFormat s hc _ ih => exact .explainFormat s hc ih
  | require c _ ih => exact .require c ih
  | refuse f _ ih => exact .refuse _ ih

-- What is spaced well behind a mask is spaced well.
theorem Spaced.of_map_mask (m : Mask) {t u : Bool} {pieces : List Piece}
    (h : Spaced d bad t (pieces.map (Piece.mask m)) u) : Spaced d bad t pieces u := by
  induction pieces generalizing t with
  | nil =>
    cases h
    exact .nil
  | cons piece rest ih =>
    cases piece with
    | text s =>
      obtain ⟨⟩ | ⟨_, hc, hd, hp⟩ := h
      exact .text s hc hd (ih hp)
    | name s =>
      cases h with
      | name _ hp => exact .name s (ih hp)
    | param v =>
      cases h with
      | param _ hp => exact .param v (ih hp)
    | defaultMarker =>
      cases h with
      | defaultMarker hp => exact .defaultMarker (ih hp)
    | ignoreKeyword =>
      cases h with
      | ignoreKeyword hp => exact .ignoreKeyword (ih hp)
    | explainFormat s =>
      cases h with
      | explainFormat _ hc hp => exact .explainFormat s hc (ih hp)
    | require c =>
      cases h with
      | require _ hp => exact .require c (ih hp)
    | refuse f =>
      cases h with
      | refuse _ hp => exact .refuse f (ih hp)

namespace Piece

variable (d)

theorem outline_tokens_mask_names (n : Nat) (pieces : List Piece) :
    Scan.outline (tokens d n (pieces.map (mask .names))) = Scan.outline (tokens d n pieces) := by
  have hplain : ∀ (cs : List Char) (a b : List Scan.Token), Scan.outline a = Scan.outline b →
      Scan.outline (cs.map Scan.Token.plain ++ a) =
        Scan.outline (cs.map Scan.Token.plain ++ b) := by
    intro cs a b h
    unfold Scan.outline at h ⊢
    rw [List.map_append, List.map_append, h]
  induction pieces generalizing n with
  | nil => rfl
  | cons piece rest ih =>
    cases piece with
    | name s => exact congrArg (Scan.Token.name "" :: ·) (ih n)
    | _ => exact hplain _ _ _ (ih _)

theorem isSome_failure_mask (m : Mask) (piece : Piece) :
    ((piece.mask m).failure d).isSome = (piece.failure d).isSome := by
  cases piece with
  | refuse fault => cases fault <;> rfl
  | _ => rfl

theorem findSome?_failure_mask (m : Mask) (pieces : List Piece) :
    (pieces.map (mask m)).findSome? (failure d) = none ↔ pieces.findSome? (failure d) = none := by
  rw [List.findSome?_eq_none_iff, List.findSome?_eq_none_iff, List.forall_mem_map]
  refine forall₂_congr fun piece _ => ?_
  rw [← Option.not_isSome_iff_eq_none, isSome_failure_mask, Option.not_isSome_iff_eq_none]

end Piece

namespace Query

variable {q q' : Query} {sql : Sql}

theorem fits_of_mask (m : Mask) (h : q'.mask m = q.mask m) (hq : Fits d bad q.rootPieces) :
    Fits d bad q'.rootPieces := by
  obtain ⟨u, hu⟩ := hq
  have hmask := hu.map_mask m
  rw [← rootPieces_mask, ← h, rootPieces_mask] at hmask
  exact ⟨u, hmask.of_map_mask m⟩

-- Whether a statement compiles does not depend on what a mask hides.
theorem compile_of_mask (m : Mask) (h : q'.mask m = q.mask m) (hq : q.compile d = .ok sql) :
    q'.compile d = .ok (Sql.ofSymbols d (q'.symbols d)) := by
  have hnone := (Sql.ofPieces_eq_ok_iff.mp hq).1
  rw [← Piece.findSome?_failure_mask d m, ← rootPieces_mask, ← h, rootPieces_mask,
    Piece.findSome?_failure_mask] at hnone
  exact Sql.ofPieces_eq_ok_iff.mpr ⟨hnone, rfl⟩

theorem names_tokens (h : q.compile d = .ok sql) :
    Scan.names (Piece.tokens d 1 q.rootPieces) = q.names := by
  rw [Piece.names_tokens, q.atoms_rootPieces (not_refused_of_compile h), names]

end Query

/-- Identifiers cannot break out of their quotes.  A scan of a statement without raw SQL gives the
identifiers that are written of its tree, in the order of its text: all of them exactly when none
stands in a part without text.  With any other identifiers in their places the statement still
compiles to the same text around them. -/
theorem identifiers_stay_quoted {d : Dialect} (hd : d ∈ Dialect.builtIn) {q : Query} {sql : Sql}
    (hq : q.Clean [d.quote]) (h : q.compile d = .ok sql) :
    Scan.Token.unclosed ∉ Scan.tokens d.quote .outside sql.text.toList ∧
    Scan.names (Scan.tokens d.quote .outside sql.text.toList) = q.names ∧
    (q.names = q.identifiers ↔ ∀ s, ⟨.name s, false⟩ ∉ q.leaves) ∧
    ∀ q' : Query, q'.mask .names = q.mask .names →
      ∃ sql', q'.compile d = .ok sql' ∧
        Scan.names (Scan.tokens d.quote .outside sql'.text.toList) = q'.names ∧
        Scan.outline (Scan.tokens d.quote .outside sql'.text.toList) =
          Scan.outline (Scan.tokens d.quote .outside sql.text.toList) := by
  have hscan := Dialect.scannable_of_builtIn hd
  have hfits := Query.fits_of_clean hscan hq
  have htokens := Query.tokens_of_compile hscan hfits h
  refine ⟨?_, ?_, Leaf.names_atoms_eq_iff q.leaves, fun q' hmask => ?_⟩
  · rw [htokens]
    exact Piece.unclosed_not_mem_tokens 1 q.rootPieces
  · rw [htokens, Query.names_tokens h]
  · have h' := Query.compile_of_mask .names hmask h
    have hfits' := Query.fits_of_mask .names hmask hfits
    have htokens' := Query.tokens_of_compile hscan hfits' h'
    refine ⟨_, h', ?_, ?_⟩
    · rw [htokens', Query.names_tokens h']
    · rw [htokens', htokens, ← Piece.outline_tokens_mask_names, ← Query.rootPieces_mask, hmask,
        Query.rootPieces_mask, Piece.outline_tokens_mask_names]

-- Quotes in an identifier are read back as a part of it.
theorem identifiers_stay_quoted_delete :
    let q (column : String) : Query := .delete { Delete.ofTable (.ofName "t") with
      filter := some (.unary .not (.reference (some (.ofName "")) column)) }
    ∃ sql sql', (q "a\" OR \"b").compile .postgres = .ok sql ∧
      (q "c").compile .postgres = .ok sql' ∧
      Scan.names (Scan.tokens '"' .outside sql.text.toList) = ["t", "", "a\" OR \"b"] ∧
      Scan.outline (Scan.tokens '"' .outside sql'.text.toList) =
        Scan.outline (Scan.tokens '"' .outside sql.text.toList) := by
  intro q
  have hclean : (q "a\" OR \"b").Clean [Dialect.postgres.quote] := by
    refine ⟨⟨fun _ h => (nomatch h : False).elim, ?_⟩, fun _ h => (nomatch h : False).elim⟩
    simp [q, Delete.exprs, Delete.ofTable, Expr.Everywhere, Expr.Plain]
  have hok : (q "a\" OR \"b").compile .postgres =
      .ok (Sql.ofSymbols .postgres ((q "a\" OR \"b").symbols .postgres)) :=
    Sql.ofPieces_eq_ok_iff.mpr ⟨rfl, rfl⟩
  have hbuiltIn : Dialect.postgres ∈ Dialect.builtIn := List.mem_cons_self
  obtain ⟨-, hnames, -, hothers⟩ := identifiers_stay_quoted hbuiltIn hclean hok
  obtain ⟨sql', hok', -, houtline⟩ := hothers (q "c") rfl
  exact ⟨_, sql', hok, hok', hnames, houtline⟩

-- A select inside a statement is not explained, and a row of defaults is written without columns.
theorem identifiers_without_text :
    let explained : Select := { Select.ofSources [.table (.ofName "t") none] with
      explain := some ⟨none, some (.reference none "x")⟩ }
    let removal : Query := .delete { Delete.ofTable (.ofName "s") with
      filter := some (.subquery explained) }
    let defaults : Query := .insert { Insert.ofTable (.ofName "t") with
      columns := some ["a"], source := some .defaults }
    (removal.Clean ['"'] ∧ ∃ sql, removal.compile .postgres = .ok sql ∧
      Scan.names (Scan.tokens '"' .outside sql.text.toList) = ["s", "t"] ∧
      removal.identifiers = ["s", "x", "t"]) ∧
    (defaults.Clean ['"'] ∧ ∃ sql, defaults.compile .postgres = .ok sql ∧
      Scan.names (Scan.tokens '"' .outside sql.text.toList) = ["t"] ∧
      defaults.identifiers = ["t", "a"]) := by
  intro explained removal defaults
  have hscanned {q : Query} (hq : q.Clean ['"'])
      (h : q.rootPieces.findSome? (Piece.failure .postgres) = none) :
      ∃ sql, q.compile .postgres = .ok sql ∧
        Scan.names (Scan.tokens '"' .outside sql.text.toList) = q.names := by
    have hok := Sql.ofPieces_eq_ok_iff.mpr ⟨h, rfl⟩
    have hscan := Dialect.scannable_of_builtIn (d := .postgres) List.mem_cons_self
    have htokens := Query.tokens_of_compile hscan (Query.fits_of_clean hscan hq) hok
    exact ⟨_, hok, (congrArg Scan.names htokens).trans (Query.names_tokens hok)⟩
  have hremoval : removal.Clean ['"'] := by
    refine ⟨⟨fun x h => absurd h (Option.not_mem_none x), ?_⟩,
      fun x h => absurd h (Option.not_mem_none x)⟩
    simp [removal, explained, Delete.exprs, Delete.ofTable, Select.ofSources, Expr.Everywhere,
      Select.Everywhere, Source.Everywhere, Expr.Plain]
  have hdefaults : defaults.Clean ['"'] := by
    refine ⟨⟨fun x h => absurd h (Option.not_mem_none x), ?_⟩,
      fun x h => absurd h (Option.not_mem_none x)⟩
    simp [defaults, Insert.exprs, Insert.ofTable, InsertSource.exprs]
  obtain ⟨removed, hremoved, hleft⟩ := hscanned hremoval rfl
  obtain ⟨inserted, hinserted, htable⟩ := hscanned hdefaults rfl
  exact ⟨⟨hremoval, removed, hremoved, hleft.trans rfl, rfl⟩,
    hdefaults, inserted, hinserted, htable.trans rfl, rfl⟩

end SqlWeave
