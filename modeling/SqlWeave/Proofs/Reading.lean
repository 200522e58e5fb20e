import SqlWeave.Proofs.Writing

/-!
# Reading SQL back

A reader that turns a text with its parameters in place into words, quoted names and literals,
signs and brackets.  It follows the lexical rules that databases share: quotes are closed by the
same quote and doubled inside, `--` hides the rest of a line, `/*` hides everything up to its own
`*/`, and `CASE` … `END` counts as a pair of brackets.  The main statements are about texts that
are put together: what reads well alone reads the same between blanks and in parentheses.
-/

namespace SqlWeave.Reading

open SqlWeave.Symbol (ofString)

inductive Bracket where
  | round
  | square
  /-- The keywords `CASE` and `END`. -/
  | case
  deriving DecidableEq

inductive Quote where
  | single
  | double
  | grave
  deriving DecidableEq

def Quote.char : Quote → Char
  | .single => '\''
  | .double => '"'
  | .grave => '\x60'

def Quote.ofChar? (c : Char) : Option Quote :=
  if c = '\'' then some .single else if c = '"' then some .double
  else if c = '\x60' then some .grave else none

/-- A text, with what stands in brackets grouped. -/
inductive Node where
  | word (s : List Char)
  | quoted (quote : Quote) (content : List Symbol)
  | param (v : Value)
  | sign (c : Char)
  | group (b : Bracket) (inner : List Node)

def Node.isKeyword (keyword : String) : Node → Bool
  | .word s => s.map Char.toUpper == keyword.toList
  | _ => false

inductive Lexeme where
  | node (n : Node)
  | opening (b : Bracket)
  | closing (b : Bracket)

def Lexeme.ofWord (s : List Char) : Lexeme :=
  if s.map Char.toUpper = "CASE".toList then .opening .case
  else if s.map Char.toUpper = "END".toList then .closing .case
  else .node (.word s)

/-! ## Lexemes -/

/-- What the reader is in the middle of. -/
inductive Mode where
  | between
  | word (read : List Char)
  | quoted (quote : Quote) (read : List Symbol)
  /-- After a quote inside quotes, which ends them unless another one follows. -/
  | closing (quote : Quote) (read : List Symbol)
  /-- After a minus sign, which another one turns into a comment. -/
  | dash
  /-- After a slash, which a star turns into a comment. -/
  | slash
  | lineComment
  /-- Inside a comment and `depth` comments around it; `last` is the last character if it may be a
  part of a mark. -/
  | comment (depth : Nat) (last : Option Char)

def isWordChar (c : Char) : Bool := c.isAlphanum || c = '_' || c = '$' || 128 ≤ c.toNat

def isBlank (c : Char) : Bool := c = ' ' || c = '\t' || c = '\n' || c = '\r'

/-- The mode after one more symbol, if what the reader is in the middle of goes on. -/
def Mode.next : Mode → Symbol → Option Mode
  | .word read, .char c => if isWordChar c then some (.word (read ++ [c])) else none
  | .quoted quote read, .char c =>
    if c = quote.char then some (.closing quote read) else some (.quoted quote (read ++ [.char c]))
  | .quoted quote read, .param v => some (.quoted quote (read ++ [.param v]))
  | .closing quote read, .char c =>
    if c = quote.char then some (.quoted quote (read ++ [.char c])) else none
  | .dash, .char c => if c = '-' then some .lineComment else none
  | .slash, .char c => if c = '*' then some (.comment 0 none) else none
  | .lineComment, .char c => if c = '\n' then some .between else some .lineComment
  | .lineComment, .param _ => some .lineComment
  | .comment depth last, .char c =>
    if last = some '*' ∧ c = '/' then
      some (match depth with
        | 0 => .between
        | depth + 1 => .comment depth none)
    else if last = some '/' ∧ c = '*' then some (.comment (depth + 1) none)
    else some (.comment depth (some c))
  | .comment depth _, .param _ => some (.comment depth none)
  | _, _ => none

/-- What was read in a mode that does not go on. -/
def Mode.pending : Mode → List Lexeme
  | .word read => [.ofWord read]
  | .closing quote read => [.node (.quoted quote read)]
  | .dash => [.node (.sign '-')]
  | .slash => [.node (.sign '/')]
  | _ => []

/-- What a symbol between two lexemes begins. -/
def enter : Symbol → List Lexeme × Mode
  | .param v => ([.node (.param v)], .between)
  | .char c =>
    match Quote.ofChar? c with
    | some quote => ([], .quoted quote [])
    | none =>
      if isBlank c then ([], .between)
      else if isWordChar c then ([], .word [c])
      else if c = '-' then ([], .dash)
      else if c = '/' then ([], .slash)
      else if c = '(' then ([.opening .round], .between)
      else if c = ')' then ([.closing .round], .between)
      else if c = '[' then ([.opening .square], .between)
      else if c = ']' then ([.closing .square], .between)
      else ([.node (.sign c)], .between)

def step (m : Mode) (x : Symbol) : List Lexeme × Mode :=
  match m.next x with
  | some m => ([], m)
  | none => (m.pending ++ (enter x).1, (enter x).2)

/-- The lexemes of a text, and the mode at its end. -/
def run (m : Mode) : List Symbol → List Lexeme × Mode
  | [] => ([], m)
  | x :: rest => ((step m x).1 ++ (run (step m x).2 rest).1, (run (step m x).2 rest).2)

/-- Whether a text may go on after the mode with something else. -/
def Mode.isClosed : Mode → Bool
  | .between | .word _ | .closing _ _ | .dash | .slash => true
  | _ => false

/-- Whether a text may end in the mode.  The end of the text ends a comment on its last line. -/
def Mode.canEnd : Mode → Bool
  | .lineComment => true
  | m => m.isClosed

theorem run_append (m : Mode) (a b : List Symbol) :
    run m (a ++ b) = ((run m a).1 ++ (run (run m a).2 b).1, (run (run m a).2 b).2) := by
  induction a generalizing m with
  | nil => rfl
  | cons x rest ih => rw [List.cons_append, run, ih, run, List.append_assoc]

/-- The characters before which a closed mode ends. -/
def isDelimiter (c : Char) : Bool := c = ' ' || c = ')' || c = ',' || c = '.' || c = '('

theorem next_delimiter {m : Mode} (hm : m.isClosed = true) {c : Char} (hc : isDelimiter c = true) :
    m.next (.char c) = none := by
  simp only [isDelimiter, Bool.or_eq_true, decide_eq_true_eq] at hc
  cases m with
  | closing quote read =>
    have hquote : c ≠ quote.char := by
      rcases hc with ((((rfl | rfl) | rfl) | rfl) | rfl) <;> cases quote <;> decide
    exact if_neg hquote
  | between => rfl
  | word read => rcases hc with ((((rfl | rfl) | rfl) | rfl) | rfl) <;> rfl
  | dash => rcases hc with ((((rfl | rfl) | rfl) | rfl) | rfl) <;> rfl
  | slash => rcases hc with ((((rfl | rfl) | rfl) | rfl) | rfl) <;> rfl
  | _ => exact Bool.noConfusion hm

-- After a delimiter the reader goes on as if nothing had come before.
theorem run_delimiter {m : Mode} (hm : m.isClosed = true) {c : Char} (hc : isDelimiter c = true)
    (rest : List Symbol) :
    run m (.char c :: rest) =
      (m.pending ++ (run .between (.char c :: rest)).1, (run .between (.char c :: rest)).2) := by
  rw [run, step, next_delimiter hm hc, run, step]
  have hbetween : Mode.between.next (.char c) = none := rfl
  rw [hbetween]
  simp only [Mode.pending, List.nil_append, List.append_assoc]

/-! ## Brackets -/

/-- The nodes of lexemes.  The stack holds the brackets that are open, each with the nodes before
it; there is no result when brackets do not match. -/
def nest : List (Bracket × List Node) → List Node → List Lexeme → Option (List Node)
  | [], nodes, [] => some nodes
  | _ :: _, _, [] => none
  | stack, nodes, .node n :: rest => nest stack (nodes ++ [n]) rest
  | stack, nodes, .opening b :: rest => nest ((b, nodes) :: stack) [] rest
  | [], _, .closing _ :: _ => none
  | (b, before) :: stack, nodes, .closing b' :: rest =>
    if b = b' then nest stack (before ++ [.group b nodes]) rest else none

/-- A stack on top of another one, whose innermost bracket already holds `front`. -/
def onto (base : List (Bracket × List Node)) (front : List Node) :
    List (Bracket × List Node) → List Node → List (Bracket × List Node) × List Node
  | [], nodes => (base, front ++ nodes)
  | (b, before) :: stack, nodes =>
    ((b, (onto base front stack before).2) :: (onto base front stack before).1, nodes)

theorem onto_append (base : List (Bracket × List Node)) (front : List Node)
    (stack : List (Bracket × List Node)) (nodes more : List Node) :
    onto base front stack (nodes ++ more) =
      ((onto base front stack nodes).1, (onto base front stack nodes).2 ++ more) := by
  cases stack with
  | nil => rw [onto, onto, List.append_assoc]
  | cons top rest => rfl

theorem nest_onto {stack : List (Bracket × List Node)} {nodes result : List Node}
    {lexemes : List Lexeme} (h : nest stack nodes lexemes = some result)
    (base : List (Bracket × List Node)) (front : List Node) (rest : List Lexeme) :
    nest (onto base front stack nodes).1 (onto base front stack nodes).2 (lexemes ++ rest) =
      nest base (front ++ result) rest := by
  -- The stack is generalized, because it grows and shrinks with the brackets on the way.
  induction lexemes generalizing stack nodes with
  | nil =>
    cases stack with
    | nil =>
      rw [nest, Option.some.injEq] at h
      rw [h]
      rfl
    | cons top stack => exact nomatch h
  | cons lexeme lexemes ih =>
    cases lexeme with
    | node n =>
      rw [nest] at h
      have hih := ih h
      rw [onto_append] at hih
      rw [List.cons_append, nest]
      exact hih
    | opening b =>
      rw [nest] at h
      have hih := ih h
      rw [List.cons_append, nest]
      exact hih
    | closing b =>
      rcases stack with _ | ⟨⟨b', before⟩, stack⟩
      · exact nomatch h
      · -- A bracket that is closed here was opened by these lexemes, not by those before them.
        rw [nest] at h
        split at h
        · next hb =>
          have hih := ih h
          rw [onto_append] at hih
          rw [onto, List.cons_append, nest, if_pos hb]
          exact hih
        · exact nomatch h

-- Lexemes that nest alone nest the same after and before others.
theorem nest_append {lexemes : List Lexeme} {result : List Node}
    (h : nest [] [] lexemes = some result) (stack : List (Bracket × List Node))
    (nodes : List Node) (rest : List Lexeme) :
    nest stack nodes (lexemes ++ rest) = nest stack (nodes ++ result) rest := by
  have h' := nest_onto h stack nodes rest
  rwa [onto, List.append_nil] at h'

theorem nest_after {lexemes : List Lexeme} {result : List Node}
    (h : nest [] [] lexemes = some result) (nodes : List Node) :
    nest [] nodes lexemes = some (nodes ++ result) := by
  have h' := nest_append h [] nodes []
  rwa [List.append_nil, nest] at h'

/-! ## Texts -/

/-- A text that stands on its own: quotes, comments and brackets are closed at its end. -/
structure Reads (text : List Symbol) (nodes : List Node) : Prop where
  closed : (run .between text).2.isClosed = true
  nest : nest [] [] ((run .between text).1 ++ (run .between text).2.pending) = some nodes

/-- The nodes of a text that is read alone. -/
def read (text : List Symbol) : Option (List Node) :=
  if (run .between text).2.canEnd then
    nest [] [] ((run .between text).1 ++ (run .between text).2.pending)
  else none

namespace Reads

variable {a b text : List Symbol} {m n nodes : List Node}

theorem read_eq (h : Reads text nodes) : read text = some nodes := by
  have hend : (run .between text).2.canEnd = true := by
    have hclosed := h.closed
    cases hm : (run .between text).2 with
    | lineComment =>
      rw [hm] at hclosed
      exact Bool.noConfusion hclosed
    | _ =>
      rw [hm] at hclosed
      exact hclosed
  rw [read, if_pos hend, h.nest]

theorem empty : Reads [] [] := ⟨rfl, rfl⟩

-- A text followed by a delimiter and another text.
theorem append {c : Char} (hc : isDelimiter c = true) (ha : Reads a m)
    (hb : Reads (.char c :: b) n) : Reads (a ++ .char c :: b) (m ++ n) := by
  have hrun : run .between (a ++ .char c :: b) =
      ((run .between a).1 ++ (run .between a).2.pending ++ (run .between (.char c :: b)).1,
        (run .between (.char c :: b)).2) := by
    rw [run_append, run_delimiter ha.closed hc, List.append_assoc]
  refine ⟨?_, ?_⟩
  · rw [hrun]
    exact hb.closed
  · rw [hrun, List.append_assoc, nest_append ha.nest, List.nil_append]
    exact nest_after hb.nest m

-- A text in parentheses.
theorem group (h : Reads text nodes) :
    Reads (.char '(' :: text ++ [.char ')']) [.group .round nodes] := by
  have hrun : run .between (.char '(' :: text ++ [.char ')']) =
      (.opening .round :: ((run .between text).1 ++
        ((run .between text).2.pending ++ [.closing .round])), .between) := by
    rw [List.cons_append, run]
    show (.opening .round :: (run .between (text ++ [.char ')'])).1,
      (run .between (text ++ [.char ')'])).2) = _
    rw [run_append, run_delimiter h.closed (by decide)]
    rfl
  refine ⟨?_, ?_⟩
  · rw [hrun]
    rfl
  · have hpending : Mode.between.pending = [] := rfl
    rw [hrun, hpending, List.append_nil, Reading.nest, ← List.append_assoc, nest_append h.nest,
      List.nil_append, Reading.nest, if_pos rfl, Reading.nest]
    rfl

end Reads

end SqlWeave.Reading
