import SqlWeave.Proofs.Spacing
import SqlWeave.Proofs.Writing

/-!
# Scanning for quoted identifiers

A scanner that knows nothing of SQL but the quote: outside quotes every character stands for itself,
inside them a doubled quote stands for one.  On the text of well-spaced pieces it finds the
identifiers that were written and nothing else (`tokens_layout`).
-/

namespace SqlWeave

namespace Scan

/-- A character outside quotes, or a quoted identifier. -/
inductive Token where
  | plain (c : Char)
  | name (s : String)
  /-- A quote that nothing closes. -/
  | unclosed

/-- Where a scanner stands, and the identifier it has read so far. -/
inductive Mode where
  | outside
  | inside (read : List Char)
  /-- After a quote, which ends the identifier unless another one follows. -/
  | closing (read : List Char)

/-- The tokens of a text. -/
def tokens (quote : Char) : Mode → List Char → List Token
  | .outside, [] => []
  | .outside, c :: rest =>
    if c = quote then tokens quote (.inside []) rest else .plain c :: tokens quote .outside rest
  | .inside _, [] => [.unclosed]
  | .inside read, c :: rest =>
    if c = quote then tokens quote (.closing read) rest
    else tokens quote (.inside (read ++ [c])) rest
  | .closing read, [] => [.name (String.ofList read)]
  | .closing read, c :: rest =>
    if c = quote then tokens quote (.inside (read ++ [c])) rest
    else .name (String.ofList read) :: .plain c :: tokens quote .outside rest

def Token.name? : Token → Option String
  | .name s => some s
  | _ => none

/-- The quoted identifiers among tokens. -/
def names (tokens : List Token) : List String := tokens.filterMap Token.name?

/-- What stands outside the quoted identifiers: each of them is replaced by the same mark. -/
def outline (tokens : List Token) : List Token :=
  tokens.map fun
    | .name _ => .name ""
    | token => token

/-- The placeholders among tokens: dollar signs with the digits that follow them.  The first
argument is the digits read so far, if a dollar sign was read. -/
def placeholders : Option (List Char) → List Token → List String
  | none, [] => []
  | some digits, [] => [String.ofList ('$' :: digits)]
  | none, .plain c :: rest => placeholders (if c = '$' then some [] else none) rest
  | some digits, .plain c :: rest =>
    if c.isDigit then placeholders (some (digits ++ [c])) rest
    else String.ofList ('$' :: digits) :: placeholders (if c = '$' then some [] else none) rest
  | none, _ :: rest => placeholders none rest
  | some digits, _ :: rest => String.ofList ('$' :: digits) :: placeholders none rest

variable {quote : Char}

theorem tokens_plain {cs : List Char} (h : quote ∉ cs) (rest : List Char) :
    tokens quote .outside (cs ++ rest) = cs.map Token.plain ++ tokens quote .outside rest := by
  induction cs with
  | nil => rfl
  | cons c cs ih =>
    rw [List.mem_cons, not_or] at h
    rw [List.cons_append, tokens, if_neg (Ne.symm h.1), ih h.2, List.map_cons, List.cons_append]

theorem tokens_closing (read : List Char) {rest : List Char} (h : ∀ c ∈ rest.head?, c ≠ quote) :
    tokens quote (.closing read) rest =
      .name (String.ofList read) :: tokens quote .outside rest := by
  cases rest with
  | nil => rfl
  | cons c rest =>
    have hc : c ≠ quote := h c rfl
    rw [tokens, if_neg hc, tokens, if_neg hc]

theorem tokens_inside (read s : List Char) (rest : List Char) :
    tokens quote (.inside read)
        (s.flatMap (fun c => if c = quote then [c, c] else [c]) ++ quote :: rest) =
      tokens quote (.closing (read ++ s)) rest := by
  induction s generalizing read with
  | nil => rw [List.flatMap_nil, List.nil_append, tokens, if_pos rfl, List.append_nil]
  | cons c s ih =>
    rw [List.flatMap_cons, List.append_assoc]
    by_cases hc : c = quote
    · -- The scanner takes the first of the two quotes for the closing one until it sees the other.
      rw [if_pos hc, List.cons_append, List.singleton_append, tokens, if_pos hc, tokens, if_pos hc,
        ih, List.append_assoc, List.singleton_append]
    · rw [if_neg hc, List.singleton_append, tokens, if_neg hc, ih, List.append_assoc,
        List.singleton_append]

-- A quoted identifier is read back whole when no other quote follows it.
theorem tokens_quoted (d : Dialect) (s : String) {rest : List Char}
    (h : ∀ c ∈ rest.head?, c ≠ d.quote) :
    tokens d.quote .outside ((d.quoted s).toList ++ rest) =
      .name s :: tokens d.quote .outside rest := by
  rw [Dialect.quoted, String.toList_ofList, List.cons_append, List.cons_append, tokens, if_pos rfl,
    List.append_assoc, List.singleton_append, tokens_inside, List.nil_append, tokens_closing _ h,
    String.ofList_toList]

theorem placeholders_plain {cs : List Char} (h : '$' ∉ cs) (rest : List Token) :
    placeholders none (cs.map Token.plain ++ rest) = placeholders none rest := by
  induction cs with
  | nil => rfl
  | cons c cs ih =>
    rw [List.mem_cons, not_or] at h
    rw [List.map_cons, List.cons_append, placeholders, if_neg (Ne.symm h.1), ih h.2]

theorem placeholders_digits (digits : List Char) {cs : List Char} (h : ∀ c ∈ cs, c.isDigit)
    (rest : List Token) :
    placeholders (some digits) (cs.map Token.plain ++ rest) =
      placeholders (some (digits ++ cs)) rest := by
  induction cs generalizing digits with
  | nil => rw [List.append_nil, List.map_nil, List.nil_append]
  | cons c cs ih =>
    rw [List.map_cons, List.cons_append, placeholders, if_pos (h c List.mem_cons_self),
      ih _ fun c hc => h c (List.mem_cons_of_mem _ hc), List.append_assoc, List.singleton_append]

end Scan

open Scan (Token)

/-- A dialect whose quote stands in identifiers only, as long as `bad` is kept out of the rest. -/
structure Dialect.Scannable (d : Dialect) (bad : List Char) : Prop where
  clear : d.ClearOf bad
  quote : d.quote ∈ bad
  delimiter : d.quote ∉ delimiters
  placeholder : ∀ n, d.quote ∉ (d.placeholder n).toList
  format : ∀ s, SqlWeave.ClearOf bad s → SqlWeave.ClearOf bad (d.explainFormat s)

namespace Piece

variable (d : Dialect)

/-- The tokens that pieces are written for, when placeholders are numbered from `n` on. -/
def tokens : Nat → List Piece → List Token
  | _, [] => []
  | n, .name s :: rest => .name s :: tokens n rest
  | n, piece :: rest =>
    (Symbol.layout d.placeholder n (piece.symbols d)).map Token.plain ++
      tokens (n + (Symbol.params (piece.symbols d)).length) rest

variable {d} {bad : List Char} {t u : Bool} {pieces : List Piece}

theorem head_of_delimited {s : String} (h : Delimited s) (rest : List Char) :
    ∀ c ∈ (s.toList ++ rest).head?, c ∈ delimiters := by
  obtain ⟨c, hc, hmem⟩ := h
  obtain ⟨cs, hcs⟩ := List.head?_eq_some_iff.mp hc
  intro x hx
  rw [hcs, List.cons_append, List.head?_cons, Option.mem_some_iff] at hx
  rw [← hx]
  exact hmem

-- After an identifier or a placeholder, only a delimiter can follow.
theorem head_layout (h : Spaced d bad t pieces u) (ht : t = true) (n : Nat) :
    ∀ c ∈ (Symbol.layout d.placeholder n (pieces.flatMap (symbols d))).head?, c ∈ delimiters := by
  induction h generalizing n with
  | nil => exact fun _ hc => nomatch hc
  | text s hc hd _ _ =>
    rw [List.flatMap_cons, symbols, Symbol.layout_append, Symbol.layout_ofString]
    exact head_of_delimited (hd ht) _
  | require c _ ih => exact ih ht n
  | refuse f _ ih => exact ih ht n
  | _ => exact absurd ht (by decide)

-- The scanner finds the tokens that well-spaced pieces are written for.
theorem tokens_layout (h : Spaced d bad t pieces u) (hd : d.Scannable bad) (n : Nat) :
    Scan.tokens d.quote .outside (Symbol.layout d.placeholder n (pieces.flatMap (symbols d))) =
      tokens d n pieces := by
  -- What is not an identifier has no quote in it, so the scanner stays outside.
  have hplain : ∀ {piece : Piece} {rest : List Piece} (n : Nat),
      d.quote ∉ Symbol.layout d.placeholder n (piece.symbols d) →
      (∀ n, Scan.tokens d.quote .outside (Symbol.layout d.placeholder n (rest.flatMap (symbols d)))
        = tokens d n rest) →
      Scan.tokens d.quote .outside
          (Symbol.layout d.placeholder n ((piece :: rest).flatMap (symbols d))) =
        (Symbol.layout d.placeholder n (piece.symbols d)).map Token.plain ++
          tokens d (n + (Symbol.params (piece.symbols d)).length) rest := by
    intro piece rest n hq ih
    rw [List.flatMap_cons, Symbol.layout_append, Scan.tokens_plain hq, ih]
  have hclear : ∀ (s : String) (n : Nat), ClearOf bad s →
      d.quote ∉ Symbol.layout d.placeholder n (Symbol.ofString s) := by
    intro s n hs hq
    rw [Symbol.layout_ofString] at hq
    exact hs _ hq hd.quote
  induction h generalizing n with
  | nil => rfl
  | text s hc _ _ ih => exact hplain n (hclear s n hc) ih
  | @name u p s hp ih =>
    -- What follows does not begin with another quote, which would go on with the name.
    have hhead : ∀ c ∈ (Symbol.layout d.placeholder n (p.flatMap (symbols d))).head?,
        c ≠ d.quote := by
      intro c hc he
      rw [he] at hc
      exact hd.delimiter (head_layout hp rfl n _ hc)
    rw [List.flatMap_cons, symbols, Symbol.layout_append, Symbol.layout_ofString,
      Symbol.params_ofString]
    show Scan.tokens d.quote .outside
      (_ ++ Symbol.layout d.placeholder n (p.flatMap (symbols d))) = _
    rw [Scan.tokens_quoted d s hhead, ih, tokens]
  | param v _ ih =>
    refine hplain n ?_ ih
    rw [symbols, Symbol.layout, Symbol.layout, List.append_nil]
    exact hd.placeholder n
  | defaultMarker _ ih => exact hplain n (hclear _ n hd.clear.defaultMarker) ih
  | ignoreKeyword _ ih => exact hplain n (hclear _ n hd.clear.ignoreKeyword) ih
  | explainFormat s hc _ ih => exact hplain n (hclear _ n hc) ih
  | require c _ ih => exact ih n
  | refuse f _ ih => exact ih n

theorem tokens_fixed {piece : Piece} {s : String} (hname : ∀ x, piece ≠ .name x)
    (hs : piece.symbols d = Symbol.ofString s) (n : Nat) (rest : List Piece) :
    tokens d n (piece :: rest) = s.toList.map Token.plain ++ tokens d n rest := by
  rw [tokens, hs, Symbol.layout_ofString, Symbol.params_ofString]
  · rfl
  · exact hname

-- A placeholder ends where the next piece begins.
theorem placeholders_end (h : Spaced d bad t pieces u) (ht : t = true) (n : Nat)
    (digits : List Char) :
    Scan.placeholders (some digits) (tokens d n pieces) =
      String.ofList ('$' :: digits) :: Scan.placeholders none (tokens d n pieces) := by
  induction h generalizing n with
  | nil => rfl
  | @text t u p s hc hd _ _ =>
    obtain ⟨c, hc, hmem⟩ := hd ht
    obtain ⟨cs, hcs⟩ := List.head?_eq_some_iff.mp hc
    have hdigit : ¬ c.isDigit = true := by
      have hall : ∀ c ∈ delimiters, ¬ c.isDigit = true := by simp [delimiters]
      exact hall c hmem
    have hsplit : tokens d n (.text s :: p) = s.toList.map Token.plain ++ tokens d n p :=
      tokens_fixed (by simp) rfl n p
    rw [hsplit, hcs, List.map_cons, List.cons_append]
    simp only [Scan.placeholders, if_neg hdigit]
  | require c _ ih => exact ih ht n
  | refuse f _ ih => exact ih ht n
  | _ => exact absurd ht (by decide)

-- The placeholders in the text of well-spaced pieces are those of their parameters.
theorem placeholders_tokens (h : Spaced d bad t pieces u) (hd : d.ClearOf bad)
    (hdollar : '$' ∈ bad) (hplaceholder : ∀ n, d.placeholder n = "$" ++ toString n) (n : Nat) :
    Scan.placeholders none (tokens d n pieces) =
      (List.range' n (Symbol.params (pieces.flatMap (symbols d))).length).map d.placeholder := by
  -- Fixed texts hold no placeholders.
  have hfixed : ∀ {piece : Piece} {s : String} {rest : List Piece} (n : Nat),
      (∀ x, piece ≠ .name x) → piece.symbols d = Symbol.ofString s → ClearOf bad s →
      (∀ n, Scan.placeholders none (tokens d n rest) =
        (List.range' n (Symbol.params (rest.flatMap (symbols d))).length).map d.placeholder) →
      Scan.placeholders none (tokens d n (piece :: rest)) =
        (List.range' n (Symbol.params ((piece :: rest).flatMap (symbols d))).length).map
          d.placeholder := by
    intro piece s rest n hname hs hclear ih
    rw [tokens_fixed hname hs, Scan.placeholders_plain (fun hc => hclear _ hc hdollar), ih,
      List.flatMap_cons, Symbol.params_append, hs, Symbol.params_ofString, List.nil_append]
  induction h generalizing n with
  | nil => rfl
  | text s hc _ _ ih => exact hfixed n (by simp) rfl hc ih
  | @name u p s _ ih =>
    show Scan.placeholders none (tokens d n p) = _
    rw [ih, List.flatMap_cons, Symbol.params_append, symbols, Symbol.params_ofString,
      List.nil_append]
  | @param u p v hp ih =>
    have hdigits : ∀ c ∈ (toString n).toList, c.isDigit := fun c hc =>
      Nat.isDigit_of_mem_toDigits (b := 10) (by decide) (by decide) (by rwa [← Nat.toList_repr])
    have htext : (d.placeholder n).toList = '$' :: (toString n).toList := by
      rw [hplaceholder, String.toList_append]
      rfl
    have hsplit : tokens d n (.param v :: p) =
        Token.plain '$' :: ((toString n).toList.map Token.plain ++ tokens d (n + 1) p) := by
      rw [tokens, symbols, Symbol.layout, Symbol.layout, List.append_nil, htext]
      · rfl
      · simp
    rw [hsplit, Scan.placeholders, if_pos rfl, Scan.placeholders_digits _ hdigits,
      List.nil_append, placeholders_end hp rfl, ih, ← htext, String.ofList_toList,
      List.flatMap_cons, Symbol.params_append]
    rfl
  | defaultMarker _ ih => exact hfixed n (by simp) rfl hd.defaultMarker ih
  | ignoreKeyword _ ih => exact hfixed n (by simp) rfl hd.ignoreKeyword ih
  | explainFormat s hc _ ih => exact hfixed n (by simp) rfl hc ih
  | require c _ ih => exact ih n
  | refuse f _ ih => exact ih n

-- The identifiers among the tokens are those of the pieces.
theorem names_tokens (n : Nat) (pieces : List Piece) :
    Scan.names (tokens d n pieces) = (atoms pieces).filterMap Atom.name? := by
  have hplain : ∀ (cs : List Char) (rest : List Token),
      Scan.names (cs.map Token.plain ++ rest) = Scan.names rest := by
    intro cs rest
    unfold Scan.names
    rw [List.filterMap_append, List.filterMap_map]
    have hnil : cs.filterMap (Token.name? ∘ Token.plain) = [] :=
      List.filterMap_eq_nil_iff.mpr fun _ _ => rfl
    rw [hnil, List.nil_append]
  induction pieces generalizing n with
  | nil => rfl
  | cons piece rest ih =>
    cases piece with
    | name s => exact congrArg (s :: ·) (ih n)
    | _ =>
      rw [tokens, hplain, ih]
      · rfl
      · exact fun _ => nofun

theorem unclosed_not_mem_tokens (n : Nat) (pieces : List Piece) :
    Token.unclosed ∉ tokens d n pieces := by
  induction pieces generalizing n with
  | nil => exact List.not_mem_nil
  | cons piece rest ih =>
    cases piece with
    | name s =>
      intro h
      rcases List.mem_cons.mp h with h | h
      · exact nomatch h
      · exact ih n h
    | _ =>
      rw [tokens, List.mem_append, not_or]
      · refine ⟨fun h => ?_, ih _⟩
        obtain ⟨c, -, hc⟩ := List.mem_map.mp h
        exact nomatch hc
      · exact fun _ => nofun

end Piece

end SqlWeave
