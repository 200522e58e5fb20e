import SqlWeave.Proofs.Quoting

/-!
# Parameters in place

Compiled text has placeholders where its parameters belong.  A reader that knows nothing of SQL but
the quote puts the parameters back: outside quotes, the placeholder of the next parameter stands for
that parameter.  The text of well-spaced pieces is turned back into the symbols that were written.
-/

namespace SqlWeave

open SqlWeave.Symbol (ofString)

namespace Sql

/-- A text with its parameters in place.  The next parameter has the number `n`, and `skip` more
characters belong to the placeholder of the last one. -/
def fillIn (d : Dialect) : (quoted : Bool) → (n skip : Nat) → List Value → List Char → List Symbol
  | _, _, _, _, [] => []
  | quoted, n, skip + 1, values, _ :: rest => fillIn d quoted n skip values rest
  | quoted, n, 0, values, c :: rest =>
    if c = d.quote then .char c :: fillIn d (!quoted) n 0 values rest
    else if quoted = false ∧ values ≠ [] ∧ (d.placeholder n).toList <+: c :: rest then
      (values.take 1).map Symbol.param ++
        fillIn d quoted (n + 1) ((d.placeholder n).toList.length - 1) values.tail rest
    else .char c :: fillIn d quoted n 0 values rest

def inPlace (d : Dialect) (sql : Sql) : List Symbol :=
  fillIn d false 1 0 sql.params sql.text.toList

end Sql

/-- A dialect whose placeholders can be told from all other text as long as `bad` is kept out of
it. -/
structure Dialect.Fillable (d : Dialect) (bad : List Char) : Prop where
  clear : d.ClearOf bad
  quote : d.quote ∈ bad
  placeholder : ∀ n, ∃ c ∈ bad, c ≠ d.quote ∧ ∃ cs, (d.placeholder n).toList = c :: cs

namespace Sql

variable {d : Dialect} {bad : List Char}

theorem fillIn_skip (quoted : Bool) (n : Nat) (values : List Value) (cs rest : List Char) :
    fillIn d quoted n cs.length values (cs ++ rest) = fillIn d quoted n 0 values rest := by
  induction cs with
  | nil => rfl
  | cons c cs ih => rw [List.cons_append, List.length_cons, fillIn, ih]

theorem fillIn_plain (hd : d.Fillable bad) (n : Nat) (values : List Value) {cs : List Char}
    (h : ∀ c ∈ cs, c ∉ bad) (rest : List Char) :
    fillIn d false n 0 values (cs ++ rest) =
      cs.map Symbol.char ++ fillIn d false n 0 values rest := by
  induction cs with
  | nil => rfl
  | cons c cs ih =>
    obtain ⟨hc, hcs⟩ := List.forall_mem_cons.mp h
    have hquote : c ≠ d.quote := fun he => hc (he ▸ hd.quote)
    have hprefix : ¬(d.placeholder n).toList <+: c :: (cs ++ rest) := by
      obtain ⟨x, hx, -, xs, hplaceholder⟩ := hd.placeholder n
      rw [hplaceholder, List.cons_prefix_cons]
      exact fun he => hc (he.1 ▸ hx)
    rw [List.cons_append, fillIn, if_neg hquote, if_neg fun he => hprefix he.2.2, ih hcs]
    rfl

theorem fillIn_param (hd : d.Fillable bad) (n : Nat) (v : Value) (values : List Value)
    (rest : List Char) :
    fillIn d false n 0 (v :: values) ((d.placeholder n).toList ++ rest) =
      .param v :: fillIn d false (n + 1) 0 values rest := by
  obtain ⟨x, -, hx, xs, hplaceholder⟩ := hd.placeholder n
  have hprefix : (d.placeholder n).toList <+: x :: (xs ++ rest) := by
    rw [hplaceholder, ← List.cons_append]
    exact List.prefix_append _ _
  have hlength : (d.placeholder n).toList.length - 1 = xs.length := by
    rw [hplaceholder]
    rfl
  rw [hplaceholder, List.cons_append, fillIn, if_neg hx,
    if_pos ⟨rfl, List.cons_ne_nil _ _, hprefix⟩, hlength, fillIn_skip]
  rfl

theorem fillIn_inside (n : Nat) (values : List Value) (s rest : List Char) :
    fillIn d true n 0 values (s.flatMap (fun c => if c = d.quote then [c, c] else [c]) ++ rest) =
      (s.flatMap fun c => if c = d.quote then [c, c] else [c]).map Symbol.char ++
        fillIn d true n 0 values rest := by
  induction s with
  | nil => rfl
  | cons c s ih =>
    rw [List.flatMap_cons, List.append_assoc, List.map_append, List.append_assoc]
    by_cases hc : c = d.quote
    · -- A doubled quote ends the quotes and begins them again.
      rw [if_pos hc, List.cons_append, fillIn, if_pos hc, List.cons_append, fillIn, if_pos hc]
      show _ :: _ :: fillIn d true n 0 values _ = _
      rw [List.nil_append, ih]
      rfl
    · rw [if_neg hc, List.cons_append, fillIn, if_neg hc, if_neg (by simp), List.nil_append, ih]
      rfl

theorem fillIn_quoted (n : Nat) (values : List Value) (s : String) (rest : List Char) :
    fillIn d false n 0 values ((d.quoted s).toList ++ rest) =
      ofString (d.quoted s) ++ fillIn d false n 0 values rest := by
  rw [ofString, Dialect.quoted, String.toList_ofList, List.cons_append, List.cons_append, fillIn,
    if_pos rfl, List.append_assoc]
  show _ :: fillIn d true n 0 values _ = _
  rw [fillIn_inside, List.cons_append, fillIn, if_pos rfl, List.map_cons, List.map_append,
    List.cons_append, List.append_assoc]
  rfl

-- Where a text is laid out, its parameters are put back.
theorem fillIn_layout (hd : d.Fillable bad) {t u : Bool} {pieces : List Piece}
    (h : Spaced d bad t pieces u) (n : Nat) :
    fillIn d false n 0 (Symbol.params (pieces.flatMap (Piece.symbols d)))
        (Symbol.layout d.placeholder n (pieces.flatMap (Piece.symbols d))) =
      pieces.flatMap (Piece.symbols d) := by
  have hfixed : ∀ {piece : Piece} {s : String} {rest : List Piece} (n : Nat),
      piece.symbols d = ofString s → ClearOf bad s →
      (∀ n, fillIn d false n 0 (Symbol.params (rest.flatMap (Piece.symbols d)))
          (Symbol.layout d.placeholder n (rest.flatMap (Piece.symbols d))) =
        rest.flatMap (Piece.symbols d)) →
      fillIn d false n 0 (Symbol.params ((piece :: rest).flatMap (Piece.symbols d)))
          (Symbol.layout d.placeholder n ((piece :: rest).flatMap (Piece.symbols d))) =
        (piece :: rest).flatMap (Piece.symbols d) := by
    intro piece s rest n hs hclear ih
    rw [List.flatMap_cons, hs, Symbol.params_append, Symbol.layout_append, Symbol.params_ofString,
      Symbol.layout_ofString, List.nil_append, fillIn_plain hd n _ hclear, List.length_nil,
      Nat.add_zero, ih]
    rfl
  induction h generalizing n with
  | nil => rfl
  | text s hc _ _ ih => exact hfixed n rfl hc ih
  | name s _ ih =>
    rw [List.flatMap_cons, Piece.symbols, Symbol.params_append, Symbol.layout_append,
      Symbol.params_ofString, Symbol.layout_ofString, List.nil_append, fillIn_quoted,
      List.length_nil, Nat.add_zero, ih]
  | @param u p v _ ih =>
    show fillIn d false n 0 (v :: Symbol.params (p.flatMap (Piece.symbols d)))
      ((d.placeholder n).toList ++
        Symbol.layout d.placeholder (n + 1) (p.flatMap (Piece.symbols d))) = _
    rw [fillIn_param hd, ih]
    rfl
  | defaultMarker _ ih => exact hfixed n rfl hd.clear.defaultMarker ih
  | ignoreKeyword _ ih => exact hfixed n rfl hd.clear.ignoreKeyword ih
  | explainFormat s hc _ ih => exact hfixed n rfl hc ih
  | require c _ ih => exact ih n
  | refuse f _ ih => exact ih n

theorem inPlace_ofSymbols (hd : d.Fillable bad) {pieces : List Piece} (h : Fits d bad pieces) :
    (ofSymbols d (pieces.flatMap (Piece.symbols d))).inPlace d =
      pieces.flatMap (Piece.symbols d) := by
  obtain ⟨u, hu⟩ := h
  rw [inPlace, text_ofSymbols, params_ofSymbols, fillIn_layout hd hu]

end Sql

theorem Dialect.fillable_of_builtIn {d : Dialect} (hd : d ∈ builtIn) :
    d.Fillable [d.quote, '$', '?'] := by
  have hquestion : ∀ {d : Dialect}, d.quote ≠ '?' → (∀ n, d.placeholder n = "?") →
      ∀ n, ∃ c ∈ [d.quote, '$', '?'], c ≠ d.quote ∧ ∃ cs, (d.placeholder n).toList = c :: cs := by
    intro d hquote hplaceholder n
    refine ⟨'?', by simp, hquote.symm, [], ?_⟩
    rw [hplaceholder]
    rfl
  simp only [builtIn, List.mem_cons, List.not_mem_nil, or_false] at hd
  rcases hd with rfl | rfl | rfl
  · refine ⟨⟨by decide, by decide, by decide⟩, by decide, fun n => ?_⟩
    refine ⟨'$', by decide, by decide, (toString n).toList, ?_⟩
    show ("$" ++ toString n).toList = _
    rw [String.toList_append]
    rfl
  · exact ⟨⟨by decide, by decide, by decide⟩, by decide, hquestion (by decide) fun _ => rfl⟩
  · exact ⟨⟨by decide, by decide, by decide⟩, by decide, hquestion (by decide) fun _ => rfl⟩

end SqlWeave
