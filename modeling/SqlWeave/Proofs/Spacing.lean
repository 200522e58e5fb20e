import SqlWeave.Dialect
import SqlWeave.Proofs.Phrase

/-!
# Space around identifiers and placeholders

Without raw SQL, whatever is written right after an identifier or a placeholder begins with a
delimiter, and all other text stays clear of the characters that would be mistaken for either.
-/

namespace SqlWeave

open Piece (separated parenthesized nameList)

/-- The characters of fixed texts. -/
def keywordChars : String := "ABCDEFGHIJKLMNOPQRSTUVWXYZ (),.*=<>+-/|"

/-- The characters that may follow an identifier or a placeholder. -/
def delimiters : List Char := [' ', '(', ')', ',', '.']

/-- A text without any of some characters. -/
def ClearOf (bad : List Char) (s : String) : Prop := ∀ c ∈ s.toList, c ∉ bad

def Keyword (s : String) : Prop := ∀ c ∈ s.toList, c ∈ keywordChars.toList

def Delimited (s : String) : Prop := ∃ c ∈ s.toList.head?, c ∈ delimiters

instance (bad : List Char) (s : String) : Decidable (ClearOf bad s) := List.decidableBAll _ _

instance (s : String) : Decidable (Keyword s) := List.decidableBAll _ _

instance (s : String) : Decidable (Delimited s) :=
  match h : s.toList.head? with
  | none => isFalse (by simp [Delimited, h])
  | some c => decidable_of_iff (c ∈ delimiters) (by simp [Delimited, h])

/-- The texts of a dialect stay clear of some characters. -/
structure Dialect.ClearOf (d : Dialect) (bad : List Char) : Prop where
  keyword : SqlWeave.ClearOf bad keywordChars
  defaultMarker : SqlWeave.ClearOf bad d.defaultMarker
  ignoreKeyword : SqlWeave.ClearOf bad d.ignoreKeyword

/-- Pieces that are spaced well.  The flags say whether what comes before them, and then what they
end with, is an identifier or a placeholder. -/
inductive Spaced (d : Dialect) (bad : List Char) : Bool → List Piece → Bool → Prop
  | nil {t} : Spaced d bad t [] t
  | text {t u p} (s : String) (hc : ClearOf bad s) (hd : t = true → Delimited s)
      (hp : Spaced d bad false p u) : Spaced d bad t (.text s :: p) u
  | name {u p} (s : String) (hp : Spaced d bad true p u) : Spaced d bad false (.name s :: p) u
  | param {u p} (v : Value) (hp : Spaced d bad true p u) : Spaced d bad false (.param v :: p) u
  | defaultMarker {u p} (hp : Spaced d bad false p u) : Spaced d bad false (.defaultMarker :: p) u
  | ignoreKeyword {u p} (hp : Spaced d bad false p u) : Spaced d bad false (.ignoreKeyword :: p) u
  | explainFormat {u p} (s : String) (hc : ClearOf bad (d.explainFormat s))
      (hp : Spaced d bad false p u) : Spaced d bad false (.explainFormat s :: p) u
  | require {t u p} (c : Construct) (hp : Spaced d bad t p u) : Spaced d bad t (.require c :: p) u
  | refuse {t u p} (f : ShapeFault) (hp : Spaced d bad t p u) : Spaced d bad t (.refuse f :: p) u

/-- Pieces that are spaced well where no identifier or placeholder comes before them. -/
def Fits (d : Dialect) (bad : List Char) (pieces : List Piece) : Prop :=
  ∃ u, Spaced d bad false pieces u

variable {d : Dialect} {bad : List Char}

theorem Spaced.append {t u v : Bool} {a b : List Piece} (ha : Spaced d bad t a u)
    (hb : Spaced d bad u b v) : Spaced d bad t (a ++ b) v := by
  induction ha with
  | nil => exact hb
  | text s hc hd _ ih => exact .text s hc hd (ih hb)
  | name s _ ih => exact .name s (ih hb)
  | param v _ ih => exact .param v (ih hb)
  | defaultMarker _ ih => exact .defaultMarker (ih hb)
  | ignoreKeyword _ ih => exact .ignoreKeyword (ih hb)
  | explainFormat s hc _ ih => exact .explainFormat s hc (ih hb)
  | require c _ ih => exact .require c (ih hb)
  | refuse f _ ih => exact .refuse f (ih hb)

namespace Fits

theorem empty : Fits d bad [] := ⟨false, .nil⟩

theorem name (s : String) : Fits d bad [.name s] := ⟨true, .name s .nil⟩

theorem text {s : String} {p : List Piece} (hc : SqlWeave.ClearOf bad s) (hp : Fits d bad p) :
    Fits d bad (.text s :: p) := by
  obtain ⟨u, hu⟩ := hp
  exact ⟨u, .text s hc (fun h => absurd h (by decide)) hu⟩

theorem require {p : List Piece} (c : Construct) (hp : Fits d bad p) :
    Fits d bad (.require c :: p) := by
  obtain ⟨u, hu⟩ := hp
  exact ⟨u, .require c hu⟩

theorem required {p : List Piece} (hp : Fits d bad p) (c : Construct) :
    Fits d bad (p ++ [.require c]) := by
  obtain ⟨u, hu⟩ := hp
  exact ⟨u, hu.append (.require c .nil)⟩

variable (hd : d.ClearOf bad)
include hd

theorem word {s : String} {p : List Piece} (hs : Keyword s) (hp : Fits d bad p) :
    Fits d bad (.text s :: p) :=
  text (fun c hc => hd.keyword c (hs c hc)) hp

theorem link {s : String} {a b : List Piece} (ha : Fits d bad a) (hs : Keyword s ∧ Delimited s)
    (hb : Fits d bad b) : Fits d bad (a ++ .text s :: b) := by
  obtain ⟨u, hu⟩ := ha
  obtain ⟨v, hv⟩ := hb
  have hc : SqlWeave.ClearOf bad s := fun c hc => hd.keyword c (hs.1 c hc)
  exact ⟨v, hu.append (.text s hc (fun _ => hs.2) hv)⟩

theorem closed {s : String} {p : List Piece} (hp : Fits d bad p) (hs : Keyword s ∧ Delimited s) :
    Fits d bad (p ++ [.text s]) :=
  link hd hp hs empty

theorem group {p : List Piece} (hp : Fits d bad p) : Fits d bad (parenthesized p) :=
  word hd (by decide) (closed hd hp (by decide))

theorem of_phrase {Fn : String → Prop} {Neg : List Piece → Prop} {loose : Bool} {p : List Piece}
    (hFn : ∀ s, Fn s → SqlWeave.ClearOf bad s) (h : Phrase Fn Neg loose p) : Fits d bad p := by
  have hwords : ∀ s ∈ Phrase.words ++ Phrase.openings, Keyword s := by decide
  have hlinks : ∀ s ∈ Phrase.links ++ Phrase.closings, Keyword s ∧ Delimited s := by decide
  induction h with
  | empty => exact empty
  | name s => exact name s
  | param v => exact ⟨true, .param v .nil⟩
  | defaultMarker => exact ⟨false, .defaultMarker .nil⟩
  | word hs => exact word hd (hwords _ (List.mem_append_left _ hs)) empty
  | disjunction => exact word hd (by decide) empty
  | select _ ih => exact word hd (by decide) ih
  | require c _ ih => exact require c ih
  | required _ c ih => exact required ih c
  | opening hs _ ih => exact word hd (hwords _ (List.mem_append_right _ hs)) ih
  | negation _ _ ih => exact word hd (by decide) ih
  | closing _ hs ih => exact closed hd ih (hlinks _ (List.mem_append_right _ hs))
  | link _ hs _ iha ihb => exact link hd iha (hlinks _ (List.mem_append_left _ hs)) ihb
  | group _ ih => exact group hd ih
  | call hs _ ih => exact text (hFn _ hs) (group hd ih)
  | derived _ s ih => exact word hd (by decide) (link hd ih (by decide) (name s))

theorem table (t : Table) : Fits d bad t.pieces := by
  have h : Phrase (fun _ => False) (fun _ => False) false t.pieces := Phrase.table t
  exact of_phrase hd (fun _ h => h.elim) h

theorem separated {separator : String} {groups : List (List Piece)}
    (hs : Keyword separator ∧ Delimited separator) (h : ∀ g ∈ groups, Fits d bad g) :
    Fits d bad (separated separator groups) := by
  induction groups with
  | nil => exact empty
  | cons g rest ih =>
    have hg := h g List.mem_cons_self
    cases rest with
    | nil => exact hg
    | cons next rest => exact link hd hg hs (ih fun g hg => h g (List.mem_cons_of_mem _ hg))

theorem columnList (columns : List String) {a : List Piece} (ha : Fits d bad a) :
    Fits d bad (a ++ columnList columns) := by
  refine link hd ha (by decide) (closed hd (separated hd (by decide) ?_) (by decide))
  exact List.forall_mem_map.mpr fun s _ => name s

theorem whereClause {a : List Piece} {o : Option Expr} (ha : Fits d bad a)
    (h : ∀ e ∈ o, Fits d bad e.pieces) : Fits d bad (a ++ Expr.clause [.text " WHERE "] o) := by
  cases o with
  | none =>
    rw [Expr.clause, List.append_nil]
    exact ha
  | some e => exact link hd ha (by decide) (h e rfl)

theorem updateList {updates : List ColumnUpdate}
    (h : ∀ u ∈ updates, Fits d bad u.value.pieces) : Fits d bad (updateList updates) :=
  separated hd (by decide) (List.forall_mem_map.mpr fun u hu =>
    link hd (name u.column) (by decide) (h u hu))

theorem returningClause {a : List Piece} {returning : Option (List Expr)} (ha : Fits d bad a)
    (h : ∀ e ∈ returning.getD [], Fits d bad e.pieces) :
    Fits d bad (a ++ returningClause returning) := by
  cases returning with
  | none =>
    rw [SqlWeave.returningClause, List.append_nil]
    exact ha
  | some selections =>
    have hsplit : a ++ SqlWeave.returningClause (some selections) =
        a ++ [.require .returning] ++
          .text " RETURNING " :: Piece.separated ", " (selections.map Expr.pieces) := by
      rw [SqlWeave.returningClause, Expr.piecesOfList_eq_map, List.append_assoc]
      rfl
    rw [hsplit]
    exact link hd (required ha _) (by decide)
      (separated hd (by decide) (List.forall_mem_map.mpr h))

theorem conflictTarget {a : List Piece} {target : ConflictTarget} (ha : Fits d bad a)
    (h : ∀ e ∈ target.exprs, Fits d bad e.pieces) : Fits d bad (a ++ target.pieces) := by
  cases target with
  | unspecified =>
    rw [ConflictTarget.pieces, List.append_nil]
    exact ha
  | columns names => exact columnList hd names ha
  | constraint s => exact link hd ha (by decide) (name s)
  | expr e =>
    exact link hd ha (by decide) (closed hd (h e List.mem_cons_self) (by decide))

theorem conflictAction {a : List Piece} {action : ConflictAction} (ha : Fits d bad a)
    (h : ∀ e ∈ action.exprs, Fits d bad e.pieces) : Fits d bad (a ++ action.pieces) := by
  cases action with
  | nothing => exact closed hd ha (by decide)
  | update updates filter =>
    rw [ConflictAction.exprs] at h
    rw [ConflictAction.pieces, ← List.append_assoc]
    refine whereClause hd (link hd ha (by decide) (updateList hd fun u hu => ?_)) fun e he => ?_
    · exact h _ (List.mem_append_left _ (List.mem_map_of_mem hu))
    · exact h e (List.mem_append_right _ (Option.mem_toList.mpr he))

theorem conflict {a : List Piece} {c : Conflict} (ha : Fits d bad a)
    (h : ∀ e ∈ c.exprs, Fits d bad e.pieces) : Fits d bad (a ++ c.pieces) := by
  have hsplit : a ++ c.pieces =
      a ++ [.require .onConflict] ++ [.text " ON CONFLICT"] ++ c.target.pieces ++
        Expr.clause [.text " WHERE "] c.indexFilter ++ c.action.pieces := by
    rw [Conflict.pieces]
    simp only [List.append_assoc, List.cons_append, List.nil_append]
  simp only [Conflict.exprs, List.mem_append, Option.mem_toList] at h
  rw [hsplit]
  refine conflictAction hd (whereClause hd (conflictTarget hd
    (closed hd (required ha _) (by decide)) ?_) ?_) ?_
  · exact fun e he => h e (Or.inl (Or.inl he))
  · exact fun e he => h e (Or.inl (Or.inr he))
  · exact fun e he => h e (Or.inr he)

theorem ignoreClause {a : List Piece} (ignore : Bool) (ha : Fits d bad a) :
    Fits d bad
      (a ++ if ignore then [.require .insertIgnore, .text " ", .ignoreKeyword] else []) := by
  cases ignore with
  | false => exact (List.append_nil a).symm ▸ ha
  | true =>
    rw [if_pos rfl, List.append_cons]
    exact link hd (required ha _) (by decide) ⟨false, .ignoreKeyword .nil⟩

theorem conflictClause {a : List Piece} {o : Option Conflict} (ha : Fits d bad a) :
    (∀ c ∈ o, ∀ e ∈ c.exprs, Fits d bad e.pieces) →
    Fits d bad (a ++ match o with
      | some c => c.pieces
      | none => []) := by
  intro h
  cases o with
  | none => exact (List.append_nil a).symm ▸ ha
  | some c => exact conflict hd ha (h c rfl)

theorem duplicateClause {a : List Piece} {o : Option (List ColumnUpdate)} (ha : Fits d bad a) :
    (∀ u ∈ o.getD [], Fits d bad u.value.pieces) →
    Fits d bad (a ++ match o with
      | some updates =>
        .require .onDuplicateKey :: .text " ON DUPLICATE KEY UPDATE " ::
          SqlWeave.updateList updates
      | none => []) := by
  intro h
  cases o with
  | none => exact (List.append_nil a).symm ▸ ha
  | some updates =>
    rw [List.append_cons]
    exact link hd (required ha _) (by decide) (updateList hd h)

theorem rows {cells : List (List Expr)} (h : ∀ e ∈ cells.flatten, Fits d bad e.pieces) :
    Fits d bad (rowsPieces cells) := by
  refine require _ (word hd (by decide) (closed hd (separated hd (by decide) ?_) (by decide)))
  refine List.forall_mem_map.mpr fun row hrow => ?_
  rw [Expr.piecesOfList_eq_map]
  refine separated hd (by decide) (List.forall_mem_map.mpr fun e he => ?_)
  exact h e (List.mem_flatten.mpr ⟨row, hrow, he⟩)

variable {Fn : String → Prop} {Neg : List Piece → Prop} (hFn : ∀ s, Fn s → SqlWeave.ClearOf bad s)
include hFn

theorem of_plain {e : Expr} (h : e.Everywhere (Expr.Plain Fn Neg)) : Fits d bad e.pieces := by
  have hp : Phrase Fn Neg false e.pieces := Expr.phrase h
  exact of_phrase hd hFn hp

theorem of_plainSelect {s : Select} (h : s.Everywhere (Expr.Plain Fn Neg)) :
    Fits d bad s.pieces :=
  of_phrase hd hFn (Select.phrase h)

theorem sourceExpr {e : Expr} (h : e.Everywhere (Expr.Plain Fn Neg)) :
    Fits d bad (Insert.sourceExpr e) := by
  cases e with
  | subquery s =>
    rw [Expr.Everywhere] at h
    exact of_plainSelect hd hFn h.2
  | _ => exact of_plain hd hFn h

theorem insertSource {a : List Piece} {i : Insert} (ha : Fits d bad a)
    (h : ∀ e ∈ i.source.toList.flatMap InsertSource.exprs, e.Everywhere (Expr.Plain Fn Neg)) :
    Fits d bad (a ++ i.sourcePieces) := by
  have hdefaults : Fits d bad (a ++ Insert.defaultsClause) := by
    have hsplit : a ++ Insert.defaultsClause =
        a ++ [.require .defaultValues] ++ [.text " DEFAULT VALUES"] := by
      rw [List.append_assoc]
      rfl
    rw [hsplit]
    exact closed hd (required ha _) (by decide)
  unfold Insert.sourcePieces
  split
  · next cells column columns hsource _ =>
    rw [hsource] at h
    rw [← List.append_assoc]
    refine link hd (columnList hd _ ha) (by decide) (rows hd fun e he => of_plain hd hFn (h e ?_))
    simpa [InsertSource.exprs] using he
  · next e hsource _ =>
    rw [hsource] at h
    exact link hd ha (by decide) (sourceExpr hd hFn (h e (by simp [InsertSource.exprs])))
  · next e column columns hsource _ =>
    rw [hsource] at h
    rw [← List.append_assoc]
    exact link hd (columnList hd _ ha) (by decide)
      (sourceExpr hd hFn (h e (by simp [InsertSource.exprs])))
  · obtain ⟨u, hu⟩ := ha
    exact ⟨u, hu.append (.refuse _ .nil)⟩
  · exact hdefaults
  · exact hdefaults
  · exact hdefaults

theorem insert {i : Insert} (h : ∀ e ∈ i.exprs, e.Everywhere (Expr.Plain Fn Neg)) :
    Fits d bad i.pieces := by
  have hsource : ∀ e ∈ i.source.toList.flatMap InsertSource.exprs, e.Everywhere _ :=
    fun e he => h e (by simp [Insert.exprs, he])
  have hconflict : ∀ c ∈ i.onConflict, ∀ e ∈ c.exprs, Fits d bad e.pieces := by
    intro c hc e he
    refine of_plain hd hFn (h e ?_)
    simp only [Insert.exprs, List.mem_append, List.mem_flatMap, Option.mem_toList]
    exact Or.inl (Or.inl (Or.inr ⟨c, hc, he⟩))
  have hduplicate : ∀ u ∈ i.onDuplicateKey.getD [], Fits d bad u.value.pieces := fun u hu =>
    of_plain hd hFn (h _ (by simp [Insert.exprs]; exact Or.inr (Or.inr (Or.inl ⟨u, hu, rfl⟩))))
  have hreturning : ∀ e ∈ i.returning.getD [], Fits d bad e.pieces := fun e he =>
    of_plain hd hFn (h e (by simp [Insert.exprs, he]))
  have hverb : Fits d bad (.require .insert ::
      if i.replace then [.require .replace, .text "REPLACE"] else [.text "INSERT"]) := by
    refine require _ ?_
    split
    · exact require _ (word hd (by decide) empty)
    · exact word hd (by decide) empty
  have hinto := link hd (ignoreClause hd i.ignore hverb) (s := " INTO ") (by decide)
    (table hd i.into)
  exact returningClause hd (duplicateClause hd (conflictClause hd
    (insertSource hd hFn hinto hsource) hconflict) hduplicate) hreturning

theorem update {u : Update} (h : ∀ e ∈ u.exprs, e.Everywhere (Expr.Plain Fn Neg)) :
    Fits d bad u.pieces := by
  have hupdates : ∀ x ∈ u.updates, Fits d bad x.value.pieces := fun x hx =>
    of_plain hd hFn (h _ (by simp [Update.exprs]; exact Or.inl ⟨x, hx, rfl⟩))
  have hfilter : ∀ e ∈ u.filter, Fits d bad e.pieces := fun e he =>
    of_plain hd hFn (h e (List.mem_append_left _
      (List.mem_append_right _ (Option.mem_toList.mpr he))))
  have hreturning : ∀ e ∈ u.returning.getD [], Fits d bad e.pieces := fun e he =>
    of_plain hd hFn (h e (by simp [Update.exprs, he]))
  unfold Update.pieces
  refine require _ ?_
  split
  · exact ⟨false, .refuse _ .nil⟩
  · have htable : Fits d bad (.text "UPDATE " :: u.table.pieces) :=
      word hd (by decide) (table hd u.table)
    exact returningClause hd (whereClause hd (link hd htable (s := " SET ") (by decide)
      (updateList hd hupdates)) hfilter) hreturning

theorem delete {x : Delete} (h : ∀ e ∈ x.exprs, e.Everywhere (Expr.Plain Fn Neg)) :
    Fits d bad x.pieces := by
  have hfilter : ∀ e ∈ x.filter, Fits d bad e.pieces := fun e he =>
    of_plain hd hFn (h e (List.mem_append_left _ (Option.mem_toList.mpr he)))
  have hreturning : ∀ e ∈ x.returning.getD [], Fits d bad e.pieces := fun e he =>
    of_plain hd hFn (h e (by simp [Delete.exprs, he]))
  have htable : Fits d bad (.require .delete :: .text "DELETE FROM " :: x.source.pieces) :=
    require _ (word hd (by decide) (table hd x.source))
  exact returningClause hd (whereClause hd htable hfilter) hreturning

theorem explain {x : Explain} (h : ∀ e ∈ x.options, e.Everywhere (Expr.Plain Fn Neg))
    (hformat : ∀ s ∈ x.format, SqlWeave.ClearOf bad (d.explainFormat s)) :
    Spaced d bad false x.pieces false := by
  have hclear : ∀ s, Keyword s → SqlWeave.ClearOf bad s :=
    fun s hs c hc => hd.keyword c (hs c hc)
  have hblank : ∀ {t}, Spaced d bad t [.text " "] false :=
    .text " " (hclear " " (by decide)) (fun _ => by decide) .nil
  have hopening : ∀ {p}, Spaced d bad false p false →
      Spaced d bad false (.require .explain :: .text "EXPLAIN " :: p) false := fun hp =>
    .require _ (.text _ (hclear _ (by decide)) (fun h => absurd h (by decide)) hp)
  obtain ⟨format, _ | e⟩ := x
  · refine (hopening .nil).append ?_
    cases format with
    | none => exact .nil
    | some format => exact .explainFormat format (hformat format rfl) hblank
  · obtain ⟨u, hu⟩ := of_plain hd hFn (h e rfl)
    refine (hopening (hu.append hblank)).append ?_
    cases format with
    | none => exact .nil
    | some format => exact .explainFormat format (hformat format rfl) hblank

end Fits

-- A statement without raw SQL is spaced well, and the characters that names of functions and
-- formats of explanations avoid stand in its identifiers only.
theorem Query.fits (hd : d.ClearOf bad) {Fn : String → Prop} {Neg : List Piece → Prop}
    (hFn : ∀ s, Fn s → ClearOf bad s) {q : Query} (h : q.Everywhere (Expr.Plain Fn Neg))
    (hformat : ∀ x ∈ q.explain, ∀ s ∈ x.format, ClearOf bad (d.explainFormat s)) :
    Fits d bad q.rootPieces := by
  obtain ⟨hexplain, hown⟩ := h
  have hpieces : Fits d bad q.pieces := by
    cases q with
    | select s => exact Fits.of_plainSelect hd hFn hown
    | insert i => exact Fits.insert hd hFn hown
    | update u => exact Fits.update hd hFn hown
    | delete x => exact Fits.delete hd hFn hown
  unfold Query.rootPieces
  cases hx : q.explain with
  | none => exact hpieces
  | some x =>
    obtain ⟨u, hu⟩ := hpieces
    exact ⟨u, (Fits.explain hd hFn (hexplain x hx) (hformat x hx)).append hu⟩

end SqlWeave
