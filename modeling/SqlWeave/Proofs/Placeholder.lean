import SqlWeave.Proofs.Quoting
import SqlWeave.Sql.Call

/-!
# Placeholders and parameters

Whatever is written, by hand or from a tree, the text is a list of literal pieces with numbered
placeholders between them, one for each parameter.  The literal pieces do not depend on how
placeholders look, which is why they are found for all ways to write placeholders at once.
-/

namespace SqlWeave

open SqlWeave.Symbol (ofString)

/-- The dialect with other placeholders. -/
def Dialect.numbering (d : Dialect) (placeholder : Nat → String) : Dialect := { d with placeholder }

namespace Piece

variable (d : Dialect) (placeholder : Nat → String)

@[simp] theorem symbols_numbering (piece : Piece) :
    piece.symbols (d.numbering placeholder) = piece.symbols d := by
  cases piece <;> rfl

@[simp] theorem failure_numbering (piece : Piece) :
    piece.failure (d.numbering placeholder) = piece.failure d := by
  cases piece <;> rfl

@[simp] theorem symbolsBeforeFailure_numbering (pieces : List Piece) :
    symbolsBeforeFailure (d.numbering placeholder) pieces = symbolsBeforeFailure d pieces := by
  induction pieces with
  | nil => rfl
  | cons piece rest ih =>
    rw [symbolsBeforeFailure, failure_numbering, symbols_numbering, ih, symbolsBeforeFailure]

end Piece

namespace Sql

variable (d : Dialect)

/-- What a step of writing adds, whatever was written before and however placeholders look. -/
def Adds (step : Dialect → Sql → Sql) (symbols : List Symbol) : Prop :=
  ∀ placeholder sql,
    step (d.numbering placeholder) sql = sql.extend (d.numbering placeholder) symbols

variable {d}

theorem Adds.nothing : Adds d (fun _ sql => sql) [] := fun _ _ => rfl

theorem Adds.then {f g : Dialect → Sql → Sql} {a b : List Symbol} (hf : Adds d f a)
    (hg : Adds d g b) : Adds d (fun d sql => g d (f d sql)) (a ++ b) := by
  intro placeholder sql
  show g _ (f _ sql) = _
  rw [hf, hg, extend_append]

theorem Adds.string (s : String) : Adds d (fun _ sql => sql.append s) (ofString s) :=
  fun _ sql => (extend_ofString _ sql s).symm

theorem Adds.writeAll (pieces : List Piece) :
    Adds d (fun d sql => (sql.writeAll d pieces).1) (Piece.symbolsBeforeFailure d pieces) := by
  intro placeholder sql
  show (sql.writeAll _ pieces).1 = _
  rw [writeAll_eq, Piece.symbolsBeforeFailure_numbering]

mutual

-- A call adds the same symbols wherever it is made.
theorem Call.adds_run (c : Call) : ∃ symbols, Adds d (fun d sql => (c.run d sql).1) symbols :=
  match c with
  | .text s => ⟨ofString s, .string s⟩
  | .char c => ⟨ofString (String.singleton c), .string (String.singleton c)⟩
  | .space => ⟨ofString " ", .string " "⟩
  | .identifier name => ⟨ofString (d.quoted name), fun placeholder sql =>
      Adds.string (d.quoted name) placeholder sql⟩
  | .table t => ⟨_, .writeAll t.pieces⟩
  | .param v => ⟨[.param v], fun _ _ => rfl⟩
  | .require c => ⟨_, .writeAll [.require c]⟩
  | .elements groups separator => ⟨_, .writeAll (Piece.separated separator groups)⟩
  | .items items separator => Item.adds_runAll separator items false

theorem Call.adds_runAll (calls : List Call) :
    ∃ symbols, Adds d (fun d sql => Call.runAll d sql calls) symbols :=
  match calls with
  | [] => ⟨[], .nothing⟩
  | c :: rest => by
    obtain ⟨a, ha⟩ := Call.adds_run c
    obtain ⟨b, hb⟩ := Call.adds_runAll rest
    exact ⟨a ++ b, ha.then hb⟩

theorem Item.adds_runAll (separator : String) (items : List Item) (started : Bool) :
    ∃ symbols, Adds d (fun d sql => (Item.runAll d separator started sql items).1) symbols :=
  match items with
  | [] => ⟨[], .nothing⟩
  | ⟨calls, failure⟩ :: rest => by
    have hseparator : ∃ symbols,
        Adds d (fun _ sql => if started then sql.append separator else sql) symbols := by
      cases started with
      | true => exact ⟨_, .string separator⟩
      | false => exact ⟨[], .nothing⟩
    obtain ⟨a, ha⟩ := hseparator
    obtain ⟨b, hb⟩ := Call.adds_runAll calls
    obtain ⟨c, hc⟩ := Item.adds_runAll separator rest true
    -- The items after one that fails are not written.
    cases failure with
    | some e => exact ⟨a ++ b, ha.then hb⟩
    | none => exact ⟨a ++ b ++ c, (ha.then hb).then hc⟩

end

/-- The text is the literal pieces with the placeholders for `1`, `2`, … between them, and there is
one placeholder for each parameter. -/
structure Alternates (sql : Sql) (placeholder : Nat → String) (pieces : List (List Char)) :
    Prop where
  count : pieces.length = sql.params.length + 1
  text : sql.text.toList = Symbol.fill placeholder 1 pieces

theorem alternates_ofSymbols (symbols : List Symbol) :
    (ofSymbols d symbols).Alternates d.placeholder (Symbol.literals symbols) where
  count := by rw [params_ofSymbols, Symbol.length_literals]
  text := by rw [text_ofSymbols, Symbol.fill_literals]

end Sql

open Sql (Call)

theorem Query.symbols_numbering (d : Dialect) (placeholder : Nat → String) (q : Query) :
    q.symbols (d.numbering placeholder) = q.symbols d :=
  List.flatMap_congr fun piece _ => piece.symbols_numbering d placeholder

/-- Placeholders and parameters agree after any calls and in any compiled statement, the parameters
of a statement are the values of its tree in the order of its text, and PostgreSQL's numbers can be
read off the text. -/
theorem placeholders_agree (d : Dialect) :
    (∀ calls : List Call, ∃ pieces, ∀ placeholder,
      (Call.runAll (d.numbering placeholder) .empty calls).Alternates placeholder pieces) ∧
    (∀ q : Query, ∃ pieces, ∀ placeholder sql, q.compile (d.numbering placeholder) = .ok sql →
      sql.params = q.boundValues ∧ sql.Alternates placeholder pieces) ∧
    ∀ (q : Query) (sql : Sql), q.Clean ['"', '$'] → q.compile .postgres = .ok sql →
      Scan.placeholders none (Scan.tokens '"' .outside sql.text.toList) =
        (List.range' 1 sql.params.length).map fun n => "$" ++ toString n := by
  refine ⟨fun calls => ?_, fun q => ?_, fun q sql hclean h => ?_⟩
  · obtain ⟨symbols, hadds⟩ := Call.adds_runAll (d := d) calls
    refine ⟨Symbol.literals symbols, fun placeholder => ?_⟩
    have hrun : Call.runAll (d.numbering placeholder) .empty calls =
        Sql.ofSymbols (d.numbering placeholder) symbols := hadds placeholder .empty
    rw [hrun]
    exact Sql.alternates_ofSymbols symbols
  · refine ⟨Symbol.literals (q.symbols d), fun placeholder sql h => ⟨Query.params_of_compile h, ?_⟩⟩
    rw [Query.eq_ofSymbols_of_compile h, Query.symbols_numbering]
    exact Sql.alternates_ofSymbols (q.symbols d)
  · have hscan : Dialect.postgres.Scannable ['"', '$'] :=
      Dialect.postgres_scannable (by decide) fun _ h => h
    have hfits := Query.fits_of_clean hscan hclean
    have htokens := Query.tokens_of_compile hscan hfits h
    obtain ⟨u, hu⟩ := hfits
    rw [Query.eq_ofSymbols_of_compile h, Sql.params_ofSymbols,
      ← Query.eq_ofSymbols_of_compile h]
    show Scan.placeholders none (Scan.tokens Dialect.postgres.quote _ _) = _
    rw [htokens, Piece.placeholders_tokens hu hscan.clear (by decide) fun _ => rfl]
    rfl

-- Even an identifier that looks like a placeholder is not taken for one.
theorem placeholders_agree_select :
    let q : Query := .select { Select.ofSources [.table (.ofName "a$7\"") none] with
      filter := some (.binary (.reference none "b") .gt (.value (.int 5))) }
    ∃ sql, q.compile .postgres = .ok sql ∧ sql.params = [.int 5] ∧
      Scan.placeholders none (Scan.tokens '"' .outside sql.text.toList) = ["$1"] := by
  intro q
  have hclean : q.Clean ['"', '$'] := by
    refine ⟨⟨fun _ h => (nomatch h : False).elim, ?_⟩, fun _ h => (nomatch h : False).elim⟩
    simp [q, Select.ofSources, Select.Everywhere, Source.Everywhere, Expr.Everywhere, Expr.Plain]
  have hok : q.compile .postgres = .ok (Sql.ofSymbols .postgres (q.symbols .postgres)) :=
    Sql.ofPieces_eq_ok_iff.mpr ⟨rfl, rfl⟩
  have hagree := placeholders_agree .postgres
  have hparams := ((hagree.2.1 q).choose_spec _ _ hok).1
  refine ⟨_, hok, hparams, ?_⟩
  rw [hagree.2.2 q _ hclean hok, hparams]
  rfl

end SqlWeave
