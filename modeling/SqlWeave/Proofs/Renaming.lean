import SqlWeave.Proofs.Layout
import SqlWeave.Proofs.Mask
import SqlWeave.Proofs.Veil
import SqlWeave.Proofs.Writing

/-!
# Renaming

A renaming maps every identifier of a statement by one function.  The text of the statement after it
is the text before it with other identifiers in the same places: what stands between the identifiers
does not depend on them.
-/

namespace SqlWeave

/-- The mask that maps names and shows everything else. -/
def Mask.renaming (f : String → String) : Mask := ⟨f, id, fun _ h => h⟩

/-- The error after a renaming.  Only refusals of incomplete statements hold a name. -/
def QueryError.renamed (f : String → String) : QueryError → QueryError
  | .shape fault => .shape (fault.mask (.renaming f))
  | e => e

/-- Quoted names in the gaps between texts. -/
def Dialect.fillNames (d : Dialect) : List (List Char) → List String → List Char
  | gap :: gaps, name :: names => gap ++ (d.quoted name).toList ++ d.fillNames gaps names
  | gap :: _, [] => gap
  | [], _ => []

namespace Piece

variable (d : Dialect)

/-- The texts before, between and after the names that pieces write, when their parameters are
numbered from `n` on. -/
def gaps (n : Nat) : List Piece → List (List Char)
  | [] => [[]]
  | .name _ :: rest => [] :: gaps n rest
  | piece :: rest =>
    (gaps (n + (Symbol.params (piece.symbols d)).length) rest).modifyHead
      (Symbol.layout d.placeholder n (piece.symbols d) ++ ·)

/-- The names that pieces write. -/
def names (pieces : List Piece) : List String := (atoms pieces).filterMap Atom.name?

variable {d}

theorem length_gaps (n : Nat) (pieces : List Piece) :
    (gaps d n pieces).length = (names pieces).length + 1 := by
  induction pieces generalizing n with
  | nil => rfl
  | cons piece rest ih =>
    cases piece with
    | name s => exact congrArg (· + 1) (ih n)
    | _ => exact (List.length_modifyHead ..).trans (ih _)

theorem fillNames_modifyHead (before : List Char) (texts : List (List Char)) (names : List String)
    (h : texts ≠ []) :
    d.fillNames (texts.modifyHead (before ++ ·)) names = before ++ d.fillNames texts names := by
  obtain ⟨text, texts, rfl⟩ := List.exists_cons_of_ne_nil h
  rw [List.modifyHead_cons]
  cases names with
  | nil => rfl
  | cons name names => simp only [Dialect.fillNames, List.append_assoc]

-- The text of pieces is that of their names in the gaps between the rest.
theorem layout_flatMap_symbols (n : Nat) (pieces : List Piece) :
    Symbol.layout d.placeholder n (pieces.flatMap (symbols d)) =
      d.fillNames (gaps d n pieces) (names pieces) := by
  -- The number of the next parameter grows along the pieces, and placeholders are part of the gaps.
  induction pieces generalizing n with
  | nil => rfl
  | cons piece rest ih =>
    rw [List.flatMap_cons, Symbol.layout_append, ih]
    have hne : gaps d (n + (Symbol.params (piece.symbols d)).length) rest ≠ [] := by
      rw [← List.length_pos_iff_ne_nil, length_gaps]
      exact Nat.succ_pos _
    cases piece with
    | name s =>
      rw [symbols, Symbol.layout_ofString, Symbol.params_ofString]
      rfl
    | _ => exact (fillNames_modifyHead _ _ _ hne).symm

section

variable (f : String → String)

theorem gaps_renaming (n : Nat) (pieces : List Piece) :
    gaps d n (pieces.map (mask (.renaming f))) = gaps d n pieces := by
  induction pieces generalizing n with
  | nil => rfl
  | cons piece rest ih =>
    cases piece with
    | name s => exact congrArg ([] :: ·) (ih n)
    | _ => exact congrArg (List.modifyHead _) (ih _)

theorem names_renaming (pieces : List Piece) :
    names (pieces.map (mask (.renaming f))) = (names pieces).map f := by
  induction pieces with
  | nil => rfl
  | cons piece rest ih =>
    cases piece with
    | name s => exact congrArg (f s :: ·) ih
    | _ => exact ih

theorem failure_renaming (piece : Piece) :
    (piece.mask (.renaming f)).failure d = (piece.failure d).map (QueryError.renamed f) := by
  cases piece with
  | require c =>
    simp only [mask, failure]
    split <;> rfl
  | _ => rfl

theorem findSome?_failure_renaming (pieces : List Piece) :
    (pieces.map (mask (.renaming f))).findSome? (failure d) =
      (pieces.findSome? (failure d)).map (QueryError.renamed f) := by
  induction pieces with
  | nil => rfl
  | cons piece rest ih =>
    rw [List.map_cons, List.findSome?_cons, List.findSome?_cons, failure_renaming, ih]
    cases piece.failure d <;> rfl

theorem params_renaming (pieces : List Piece) :
    Symbol.params ((pieces.map (mask (.renaming f))).flatMap (symbols d)) =
      Symbol.params (pieces.flatMap (symbols d)) := by
  rw [params_flatMap_symbols, params_flatMap_symbols]
  induction pieces with
  | nil => rfl
  | cons piece rest ih =>
    cases piece with
    | param v => exact congrArg (v :: ·) ih
    | _ => exact ih

end

end Piece

section

variable (f : String → String)

theorem Part.pieces_names (part : Part) :
    part.pieces (.names f) = (part.pieces .identity).map (Piece.mask (.renaming f)) := by
  have htable (t : Table) :
      (t.mapNames f).pieces = (t.mapNames id).pieces.map (Piece.mask (.renaming f)) := by
    rw [Table.mapNames_id]
    exact t.pieces_mask (.renaming f)
  cases part with
  | fixed piece h =>
    cases piece with
    | name s => exact absurd h Bool.false_ne_true
    | refuse fault => exact absurd h Bool.false_ne_true
    | _ => rfl
  | table t => exact htable t
  | qualifier t => exact htable t
  | _ => rfl

namespace Query

-- A statement and its renaming have the same layout, and so the same pieces up to names.
theorem pieces_names (q : Query) :
    (q.rewrite (.names f)).pieces = q.pieces.map (Piece.mask (.renaming f)) := by
  obtain ⟨parts, -, hq, hparts⟩ := q.exists_parts
  rw [hparts, hq, List.map_flatMap]
  exact List.flatMap_congr fun part _ => part.pieces_names f

theorem rootPieces_names {q : Query} (hoptions : ∀ x ∈ q.explain, x.options = none) :
    (q.rewrite (.names f)).rootPieces = q.rootPieces.map (Piece.mask (.renaming f)) := by
  unfold rootPieces
  rw [explain_rewrite, pieces_names]
  cases hx : q.explain with
  | none => rfl
  | some x =>
    have hnone : x.options = none := hoptions x hx
    have hpieces : x.pieces.map (Piece.mask (.renaming f)) = x.pieces := by
      unfold Explain.pieces
      rw [hnone]
      cases x.format <;> rfl
    rw [List.map_append, hpieces]

-- The text of a statement is that of its names in the gaps between the rest.
theorem text_of_compile {d : Dialect} {q : Query} {sql : Sql} (h : q.compile d = .ok sql) :
    sql.text.toList = d.fillNames (Piece.gaps d 1 q.rootPieces) (Piece.names q.rootPieces) := by
  rw [eq_ofSymbols_of_compile h, Sql.text_ofSymbols, symbols, Piece.layout_flatMap_symbols]

theorem names_of_compile {d : Dialect} {q : Query} {sql : Sql} (h : q.compile d = .ok sql) :
    Piece.names q.rootPieces = q.names := by
  rw [Piece.names, q.atoms_rootPieces (not_refused_of_compile h), names]

/-- A renaming changes the names of a statement and nothing else: the tree looks the same with all
names hidden, it compiles or fails like the original, with the same parameters, and its text has
other names in the same gaps. -/
theorem renaming_changes_only_names (d : Dialect) {q : Query}
    (hoptions : ∀ x ∈ q.explain, x.options = none) :
    (q.rewrite (.names f)).veil .anonymous = q.veil .anonymous ∧
      match q.compile d with
      | .error e => (q.rewrite (.names f)).compile d = .error (e.renamed f)
      | .ok sql =>
        ∃ sql', (q.rewrite (.names f)).compile d = .ok sql' ∧ sql'.params = sql.params ∧
          ∃ gaps : List (List Char), gaps.length = q.names.length + 1 ∧
            sql.text.toList = d.fillNames gaps q.names ∧
            sql'.text.toList = d.fillNames gaps (q.names.map f) := by
  have hpieces := rootPieces_names f hoptions
  have hfailure : (q.rewrite (.names f)).rootPieces.findSome? (Piece.failure d) =
      (q.rootPieces.findSome? (Piece.failure d)).map (QueryError.renamed f) := by
    rw [hpieces, Piece.findSome?_failure_renaming]
  refine ⟨q.veil_rewrite (Rewrite.names_hiddenBy_anonymous f), ?_⟩
  cases h : q.compile d with
  | error e =>
    have hq : q.rootPieces.findSome? (Piece.failure d) = some e := Sql.ofPieces_eq_error_iff.mp h
    have h' : (q.rewrite (.names f)).rootPieces.findSome? (Piece.failure d) =
        some (e.renamed f) := by
      rw [hfailure, hq]
      rfl
    exact Sql.ofPieces_eq_error_iff.mpr h'
  | ok sql =>
    have hq : q.rootPieces.findSome? (Piece.failure d) = none := (Sql.ofPieces_eq_ok_iff.mp h).1
    have h' : (q.rewrite (.names f)).compile d =
        .ok (Sql.ofSymbols d ((q.rewrite (.names f)).symbols d)) :=
      Sql.ofPieces_eq_ok_iff.mpr ⟨by rw [hfailure, hq]; rfl, rfl⟩
    have hparams : (Sql.ofSymbols d ((q.rewrite (.names f)).symbols d)).params = sql.params := by
      rw [eq_ofSymbols_of_compile h, Sql.params_ofSymbols, Sql.params_ofSymbols, symbols, symbols,
        hpieces, Piece.params_renaming]
    have hlength : (Piece.gaps d 1 q.rootPieces).length = q.names.length + 1 := by
      rw [Piece.length_gaps, names_of_compile h]
    have htext : sql.text.toList = d.fillNames (Piece.gaps d 1 q.rootPieces) q.names := by
      rw [text_of_compile h, names_of_compile h]
    have htext' : (Sql.ofSymbols d ((q.rewrite (.names f)).symbols d)).text.toList =
        d.fillNames (Piece.gaps d 1 q.rootPieces) (q.names.map f) := by
      rw [text_of_compile h', hpieces, Piece.gaps_renaming, Piece.names_renaming,
        names_of_compile h]
    exact ⟨_, h', hparams, _, hlength, htext, htext'⟩

-- Explained without options, with an alias before a column.
theorem renaming_changes_only_names_alias :
    let q : Query := .select { Select.ofSources [.table (.ofName "person") (some "p")] with
      filter := some (.binary (.reference (some (.ofName "p")) "id") .eq (.value (.bool true)))
      explain := some ⟨some "json", none⟩ }
    let f (s : String) : String := s ++ "2"
    (∀ x ∈ q.explain, x.options = none) ∧
      ∃ sql sql' gaps, q.compile .postgres = .ok sql ∧
        (q.rewrite (.names f)).compile .postgres = .ok sql' ∧ sql'.params = sql.params ∧
        sql.text.toList = Dialect.postgres.fillNames gaps ["person", "p", "p", "id"] ∧
        sql'.text.toList = Dialect.postgres.fillNames gaps ["person2", "p2", "p2", "id2"] := by
  intro q f
  have hoptions : ∀ x ∈ q.explain, x.options = none := fun x hx => Option.some.inj hx ▸ rfl
  have hok : q.compile .postgres = .ok (Sql.ofSymbols .postgres (q.symbols .postgres)) :=
    Sql.ofPieces_eq_ok_iff.mpr ⟨rfl, rfl⟩
  obtain ⟨-, h⟩ := renaming_changes_only_names f .postgres hoptions
  rw [hok] at h
  obtain ⟨sql', hok', hparams, gaps, -, htext, htext'⟩ := h
  exact ⟨hoptions, _, sql', gaps, hok, hok', hparams, htext, htext'⟩

end Query

end

end SqlWeave
