import SqlWeave.Proofs.Leaf
import SqlWeave.Sql.Text

/-!
# Writing, symbol by symbol

A statement is a text of characters with parameters in place; placeholders appear only when the
text is laid out.  The main statements are `Sql.writeAll_eq` and `Sql.ofPieces_eq`: writing pieces
puts their symbols at the end up to the first piece that fails, and gives the error of that piece.
-/

namespace SqlWeave

/-- A character of a text, or a parameter in its place. -/
inductive Symbol where
  | char (c : Char)
  | param (v : Value)

namespace Symbol

def ofString (s : String) : List Symbol := s.toList.map char

theorem ofString_append (a b : String) : ofString (a ++ b) = ofString a ++ ofString b := by
  rw [ofString, String.toList_append, List.map_append]
  rfl

def param? : Symbol → Option Value
  | .char _ => none
  | .param v => some v

/-- The parameters of a text, in order. -/
def params (symbols : List Symbol) : List Value := symbols.filterMap param?

@[simp] theorem params_nil : params [] = [] := rfl

@[simp] theorem params_char (c : Char) (rest : List Symbol) :
    params (.char c :: rest) = params rest := rfl

@[simp] theorem params_param (v : Value) (rest : List Symbol) :
    params (.param v :: rest) = v :: params rest := rfl

@[simp] theorem params_append (a b : List Symbol) : params (a ++ b) = params a ++ params b :=
  List.filterMap_append

@[simp] theorem params_ofString (s : String) : params (ofString s) = [] := by
  rw [params, ofString, List.filterMap_map, List.filterMap_eq_nil_iff]
  intro c _
  rfl

/-- The literal pieces of a text, one more than it has parameters. -/
def literals : List Symbol → List (List Char)
  | [] => [[]]
  | .char c :: rest => (literals rest).modifyHead (c :: ·)
  | .param _ :: rest => [] :: literals rest

theorem length_literals (symbols : List Symbol) :
    (literals symbols).length = (params symbols).length + 1 := by
  induction symbols with
  | nil => rfl
  | cons s rest ih =>
    cases s with
    | char c => rw [literals, List.length_modifyHead, ih, params_char]
    | param v => rw [literals, List.length_cons, ih, params_param, List.length_cons]

/-- Literal pieces with the placeholders for the numbers from `n` on between them. -/
def fill (placeholder : Nat → String) : Nat → List (List Char) → List Char
  | _, [] => []
  | _, [piece] => piece
  | n, piece :: rest => piece ++ (placeholder n).toList ++ fill placeholder (n + 1) rest

/-- The characters of a text whose parameters are numbered from `n` on. -/
def layout (placeholder : Nat → String) : Nat → List Symbol → List Char
  | _, [] => []
  | n, .char c :: rest => c :: layout placeholder n rest
  | n, .param _ :: rest => (placeholder n).toList ++ layout placeholder (n + 1) rest

theorem fill_literals (placeholder : Nat → String) (n : Nat) (symbols : List Symbol) :
    fill placeholder n (literals symbols) = layout placeholder n symbols := by
  induction symbols generalizing n with
  | nil => rfl
  | cons s rest ih =>
    have hne : literals rest ≠ [] := by
      intro h
      have hlen := length_literals rest
      rw [h] at hlen
      exact absurd hlen (by simp)
    obtain ⟨piece, pieces, hp⟩ := List.exists_cons_of_ne_nil hne
    cases s with
    | char c =>
      rw [layout, ← ih, literals, hp, List.modifyHead_cons]
      cases pieces <;> rfl
    | param v =>
      rw [layout, ← ih, literals, hp]
      rfl

@[simp] theorem layout_append (placeholder : Nat → String) (n : Nat) (a b : List Symbol) :
    layout placeholder n (a ++ b) =
      layout placeholder n a ++ layout placeholder (n + (params a).length) b := by
  induction a generalizing n with
  | nil => rfl
  | cons s rest ih =>
    cases s with
    | char c => rw [List.cons_append, layout, ih, layout, params_char, List.cons_append]
    | param v =>
      rw [List.cons_append, layout, ih, layout, params_param, List.length_cons, List.append_assoc,
        show n + 1 + (params rest).length = n + ((params rest).length + 1) by omega]

@[simp] theorem layout_ofString (placeholder : Nat → String) (n : Nat) (s : String) :
    layout placeholder n (ofString s) = s.toList := by
  unfold ofString
  induction s.toList with
  | nil => rfl
  | cons c rest ih => rw [List.map_cons, layout, ih]

end Symbol

open SqlWeave.Symbol (ofString)

namespace Piece

variable (d : Dialect)

/-- What a piece writes. -/
def symbols : Piece → List Symbol
  | .text s => ofString s
  | .name s => ofString (d.quoted s)
  | .param v => [.param v]
  | .defaultMarker => ofString d.defaultMarker
  | .ignoreKeyword => ofString d.ignoreKeyword
  | .explainFormat format => ofString (d.explainFormat format)
  | .require _ => []
  | .refuse _ => []

/-- Why a piece cannot be written, if it cannot. -/
def failure : Piece → Option QueryError
  | .require c => if d.supports c then none else some (.unsupported d.name c)
  | .refuse fault => some (.shape fault)
  | _ => none

/-- What is written of a list of pieces: that of the pieces before the first failure. -/
def symbolsBeforeFailure : List Piece → List Symbol
  | [] => []
  | piece :: rest =>
    if (piece.failure d).isSome then [] else piece.symbols d ++ symbolsBeforeFailure rest

variable {d}

theorem symbolsBeforeFailure_eq {pieces : List Piece} (h : pieces.findSome? (failure d) = none) :
    symbolsBeforeFailure d pieces = pieces.flatMap (symbols d) := by
  induction pieces with
  | nil => rfl
  | cons piece rest ih =>
    rw [List.findSome?_cons] at h
    cases hp : piece.failure d with
    | some e => rw [hp] at h; exact absurd h (by simp)
    | none =>
      rw [hp] at h
      rw [symbolsBeforeFailure, hp, List.flatMap_cons, ih h]
      rfl

theorem params_symbols (piece : Piece) :
    Symbol.params (piece.symbols d) = (atoms [piece]).filterMap Atom.value? := by
  cases piece <;> first | exact Symbol.params_ofString _ | rfl

-- The parameters that pieces write are the values among their atoms.
theorem params_flatMap_symbols (pieces : List Piece) :
    Symbol.params (pieces.flatMap (symbols d)) = (atoms pieces).filterMap Atom.value? := by
  induction pieces with
  | nil => rfl
  | cons piece rest ih =>
    rw [List.flatMap_cons, Symbol.params_append, ih, params_symbols, ← List.filterMap_append,
      ← atoms_append, List.singleton_append]

end Piece

namespace Sql

variable (d : Dialect)

/-- The SQL with one more symbol. -/
def put (sql : Sql) : Symbol → Sql
  | .char c => sql.append (String.singleton c)
  | .param v => sql.bind d v

/-- The SQL with more symbols. -/
def extend (sql : Sql) (symbols : List Symbol) : Sql := symbols.foldl (put d) sql

/-- The SQL of a text with parameters in place. -/
def ofSymbols (symbols : List Symbol) : Sql := empty.extend d symbols

theorem extend_append (sql : Sql) (a b : List Symbol) :
    sql.extend d (a ++ b) = (sql.extend d a).extend d b :=
  List.foldl_append

theorem extend_ofString (sql : Sql) (s : String) :
    sql.extend d (ofString s) = sql.append s := by
  suffices h : ∀ (cs : List Char) (sql : Sql),
      sql.extend d (cs.map Symbol.char) = sql.append (String.ofList cs) by
    rw [ofString, h, String.ofList_toList]
  intro cs
  induction cs with
  | nil =>
    intro sql
    show sql = { sql with text := sql.text ++ "" }
    rw [String.append_empty]
  | cons c rest ih =>
    intro sql
    show (sql.append (String.singleton c)).extend d (rest.map Symbol.char) = _
    rw [ih]
    unfold append
    rw [String.append_assoc, String.ofList_cons]

theorem ofSymbols_ofString (s : String) : ofSymbols d (ofString s) = ⟨s, []⟩ := by
  rw [ofSymbols, extend_ofString]
  exact congrArg (Sql.mk · []) String.empty_append

theorem params_extend (sql : Sql) (symbols : List Symbol) :
    (sql.extend d symbols).params = sql.params ++ Symbol.params symbols := by
  induction symbols generalizing sql with
  | nil => exact (List.append_nil _).symm
  | cons s rest ih =>
    show ((sql.put d s).extend d rest).params = _
    rw [ih]
    cases s with
    | char c => rfl
    | param v => exact List.append_assoc sql.params [v] _

theorem text_extend (sql : Sql) (symbols : List Symbol) :
    (sql.extend d symbols).text.toList =
      sql.text.toList ++ Symbol.layout d.placeholder (sql.params.length + 1) symbols := by
  induction symbols generalizing sql with
  | nil => exact (List.append_nil _).symm
  | cons s rest ih =>
    show ((sql.put d s).extend d rest).text.toList = _
    rw [ih]
    cases s with
    | char c => simp [put, append, Symbol.layout]
    | param v => simp [put, bind, Symbol.layout]

theorem write_eq (sql : Sql) (piece : Piece) :
    sql.write d piece =
      match piece.failure d with
      | some e => .error e
      | none => .ok (sql.extend d (piece.symbols d)) := by
  cases piece with
  | require c => rw [write, Piece.failure]; split <;> rfl
  | param v => rfl
  | refuse fault => rfl
  | _ => rw [write, Piece.symbols, extend_ofString]; rfl

theorem writeAll_eq (sql : Sql) (pieces : List Piece) :
    sql.writeAll d pieces =
      (sql.extend d (Piece.symbolsBeforeFailure d pieces),
        pieces.findSome? (Piece.failure d)) := by
  induction pieces generalizing sql with
  | nil => rfl
  | cons piece rest ih =>
    rw [writeAll, write_eq, List.findSome?_cons, Piece.symbolsBeforeFailure]
    cases hp : piece.failure d with
    | some e => rfl
    | none =>
      show (sql.extend d (piece.symbols d)).writeAll d rest = _
      rw [ih, ← extend_append]
      rfl

theorem ofPieces_eq (pieces : List Piece) :
    ofPieces d pieces =
      match pieces.findSome? (Piece.failure d) with
      | some e => .error e
      | none => .ok (ofSymbols d (pieces.flatMap (Piece.symbols d))) := by
  rw [ofPieces, writeAll_eq]
  cases h : pieces.findSome? (Piece.failure d) with
  | some e => rfl
  | none => rw [Piece.symbolsBeforeFailure_eq h]; rfl

variable {d}

theorem ofPieces_eq_ok_iff {pieces : List Piece} {sql : Sql} :
    ofPieces d pieces = .ok sql ↔
      pieces.findSome? (Piece.failure d) = none ∧
        sql = ofSymbols d (pieces.flatMap (Piece.symbols d)) := by
  rw [ofPieces_eq]
  cases pieces.findSome? (Piece.failure d) with
  | some e => simp
  | none => simp [eq_comm]

theorem ofPieces_eq_error_iff {pieces : List Piece} {e : QueryError} :
    ofPieces d pieces = .error e ↔ pieces.findSome? (Piece.failure d) = some e := by
  rw [ofPieces_eq]
  cases pieces.findSome? (Piece.failure d) with
  | some e' => simp
  | none => simp

theorem text_ofSymbols (symbols : List Symbol) :
    (ofSymbols d symbols).text.toList = Symbol.layout d.placeholder 1 symbols := by
  rw [ofSymbols, text_extend]
  rfl

theorem params_ofSymbols (symbols : List Symbol) :
    (ofSymbols d symbols).params = Symbol.params symbols := by
  rw [ofSymbols, params_extend]
  rfl

end Sql

namespace Query

variable {d : Dialect} {q : Query} {sql : Sql}

/-- The text of a statement at the root of a tree, with its parameters in place. -/
def symbols (d : Dialect) (q : Query) : List Symbol := q.rootPieces.flatMap (Piece.symbols d)

theorem eq_ofSymbols_of_compile (h : q.compile d = .ok sql) : sql = Sql.ofSymbols d (q.symbols d) :=
  (Sql.ofPieces_eq_ok_iff.mp h).2

theorem not_refused_of_compile (h : q.compile d = .ok sql) (fault : ShapeFault) :
    .refuse fault ∉ q.rootPieces := by
  intro hmem
  have hnone := List.findSome?_eq_none_iff.mp (Sql.ofPieces_eq_ok_iff.mp h).1 _ hmem
  exact absurd hnone (by simp [Piece.failure])

-- The parameters of a compiled statement are the values that its tree binds, in order.
theorem params_of_compile (h : q.compile d = .ok sql) : sql.params = q.boundValues := by
  rw [eq_ofSymbols_of_compile h, Sql.params_ofSymbols, symbols, Piece.params_flatMap_symbols,
    q.atoms_rootPieces (not_refused_of_compile h), boundValues]

end Query

end SqlWeave
