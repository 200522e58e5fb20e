import SqlWeave.Proofs.Tree

/-!
# Collecting from pieces

What is collected from pieces by a function that skips fixed texts.  Lists, parentheses and
operands are put together from groups and fixed texts only, so what is collected from them is what
is collected from the groups.
-/

namespace SqlWeave.Piece

variable {β : Type} {f : Piece → Option β}

section

variable (hf : ∀ s, f (.text s) = none)
include hf

theorem filterMap_text (s : String) (rest : List Piece) :
    (Piece.text s :: rest).filterMap f = rest.filterMap f :=
  List.filterMap_cons_none (hf s)

theorem filterMap_separated (separator : String) (groups : List (List Piece)) :
    (separated separator groups).filterMap f = groups.flatMap (List.filterMap f) := by
  induction groups with
  | nil => rfl
  | cons group rest ih =>
    cases rest with
    | nil => rw [separated, List.flatMap_singleton]
    | cons next rest =>
      have hsplit : separated separator (group :: next :: rest) =
          group ++ .text separator :: separated separator (next :: rest) := rfl
      rw [hsplit, List.filterMap_append, filterMap_text hf, ih, List.flatMap_cons (x := group)]

-- Groups beyond the last fragment are dropped.
theorem filterMap_interleaved (fragments : List String) (groups : List (List Piece)) :
    (interleaved fragments groups).filterMap f =
      (groups.take fragments.length).flatMap (List.filterMap f) := by
  induction fragments generalizing groups with
  | nil => rw [interleaved, List.length_nil, List.take_zero]; rfl
  | cons fragment fragments ih =>
    cases groups with
    | nil => rw [interleaved, filterMap_text hf, ih, List.take_nil, List.take_nil]
    | cons group groups =>
      rw [interleaved, filterMap_text hf, List.filterMap_append, ih, List.length_cons,
        List.take_succ_cons, List.flatMap_cons]

theorem filterMap_parenthesized (pieces : List Piece) :
    (parenthesized pieces).filterMap f = pieces.filterMap f := by
  rw [parenthesized, List.cons_append, filterMap_text hf, List.filterMap_append,
    filterMap_text hf, List.filterMap_nil, List.append_nil]

theorem filterMap_operand (e : Expr) (pieces : List Piece) :
    (operand e pieces).filterMap f = pieces.filterMap f := by
  unfold operand
  split
  · exact filterMap_parenthesized hf pieces
  · rfl

theorem filterMap_listClause (keyword : String) (groups : List (List Piece)) :
    (listClause keyword groups).filterMap f = groups.flatMap (List.filterMap f) := by
  cases groups with
  | nil => rfl
  | cons group rest =>
    rw [listClause, if_neg (by simp), filterMap_text hf, filterMap_separated hf]

end

end SqlWeave.Piece
