import SqlWeave.Proofs.Quoting
import SqlWeave.Proofs.Truth

/-!
# Predicates that stand firm

A predicate stands firm when its text is a condition without `OR` outside brackets, so that it keeps
its meaning next to an `AND`.  Every predicate without raw SQL stands firm, because disjunctions
bring their own parentheses.
-/

namespace SqlWeave

open SqlWeave.Symbol (ofString)
open Reading (Node Reads Mode isDelimiter isOr isStatement isSettled)

namespace Reading

def isCondition (nodes : List Node) : Bool := !isStatement nodes && isSettled false nodes

/-- Whether the node joins no conditions and begins no statement. -/
def Node.isPlain (n : Node) : Bool :=
  !(["OR", "BETWEEN", "SELECT", "VALUES", "TABLE", "WITH"].any n.isKeyword)

def IsPlain (nodes : List Node) : Prop := ∀ n ∈ nodes, n.isPlain = true

theorem Node.isKeyword_of_isPlain {n : Node} (h : n.isPlain = true) {keyword : String}
    (hk : keyword ∈ ["OR", "BETWEEN", "SELECT", "VALUES", "TABLE", "WITH"]) :
    n.isKeyword keyword = false := by
  unfold isPlain at h
  rw [Bool.not_eq_true', List.any_eq_false] at h
  exact Bool.eq_false_iff.mpr (h keyword hk)

namespace IsPlain

variable {a b nodes : List Node}

theorem append (ha : IsPlain a) (hb : IsPlain b) : IsPlain (a ++ b) :=
  fun n hn => (List.mem_append.mp hn).elim (ha n) (hb n)

theorem singleton {n : Node} (h : n.isPlain = true) : IsPlain [n] :=
  List.forall_mem_singleton.mpr h

theorem not_or (h : IsPlain nodes) : ∀ n ∈ nodes, isOr n = false :=
  fun n hn => n.isKeyword_of_isPlain (h n hn) (by decide)

theorem settled (h : IsPlain nodes) : isSettled false nodes = true := by
  induction nodes with
  | nil => rfl
  | cons n rest ih =>
    have hn := h n List.mem_cons_self
    have hor : isOr n = false := n.isKeyword_of_isPlain hn (by decide)
    have hwaits : n.waits false = false := by
      unfold Node.waits
      split
      · rfl
      · exact n.isKeyword_of_isPlain hn (by decide)
    rw [isSettled, hor, if_neg (by decide), hwaits]
    exact ih fun m hm => h m (List.mem_cons_of_mem _ hm)

theorem condition (h : IsPlain nodes) : isCondition nodes = true := by
  have hstatement : isStatement nodes = false := by
    cases nodes with
    | nil => rfl
    | cons n rest =>
      rw [isStatement, List.any_eq_false]
      intro keyword hk
      have hk' : keyword ∈ ["OR", "BETWEEN", "SELECT", "VALUES", "TABLE", "WITH"] := by
        have hall : ∀ k ∈ ["SELECT", "VALUES", "TABLE", "WITH"],
            k ∈ ["OR", "BETWEEN", "SELECT", "VALUES", "TABLE", "WITH"] := by decide
        exact hall keyword hk
      rw [n.isKeyword_of_isPlain (h n List.mem_cons_self) hk']
      decide
  rw [isCondition, hstatement, h.settled]
  rfl

end IsPlain

/-! ## Fixed texts -/

def Mode.isBetween : Mode → Bool
  | .between => true
  | _ => false

/-- Whether a text reads as plain nodes. -/
def readsPlain (s : String) : Bool :=
  (run .between (ofString s)).2.isClosed &&
    (nest [] [] ((run .between (ofString s)).1 ++ (run .between (ofString s)).2.pending)).any
      fun nodes => nodes.all Node.isPlain

/-- Whether a text reads as plain nodes and ends between two lexemes. -/
def opens (s : String) : Bool := readsPlain s && (run .between (ofString s)).2.isBetween

def startsDelimited (s : String) : Bool := s.toList.head?.any isDelimiter

theorem exists_of_readsPlain {s : String} (h : readsPlain s = true) :
    ∃ nodes, Reads (ofString s) nodes ∧ IsPlain nodes := by
  rw [readsPlain, Bool.and_eq_true, Option.any_eq_true] at h
  obtain ⟨hclosed, nodes, hnest, hplain⟩ := h
  exact ⟨nodes, ⟨hclosed, hnest⟩, List.all_eq_true.mp hplain⟩

variable {a b text : List Symbol} {m n : List Node}

-- A text that ends between two lexemes, and another one after it.
theorem Reads.after (ha : Reads a m) (hend : (run .between a).2.isBetween = true)
    (hb : Reads b n) : Reads (a ++ b) (m ++ n) := by
  have hmode : (run .between a).2 = .between := by
    cases hm : (run .between a).2 with
    | between => rfl
    | _ =>
      rw [hm] at hend
      exact Bool.noConfusion hend
  have hnest := ha.nest
  rw [hmode] at hnest
  have hrun : run .between (a ++ b) =
      ((run .between a).1 ++ (run .between b).1, (run .between b).2) := by
    rw [run_append, hmode]
  refine ⟨?_, ?_⟩
  · rw [hrun]
    exact hb.closed
  · have hpending : Mode.between.pending = [] := rfl
    rw [hpending, List.append_nil] at hnest
    rw [hrun, List.append_assoc, nest_append hnest, List.nil_append]
    exact nest_after hb.nest m

-- A text that begins with a delimiter, after another one.
theorem Reads.before {s : String} (hs : startsDelimited s = true) (ha : Reads a m)
    (hb : Reads (ofString s ++ b) n) : Reads (a ++ (ofString s ++ b)) (m ++ n) := by
  unfold startsDelimited at hs
  rw [Option.any_eq_true] at hs
  obtain ⟨c, hc, hdelimiter⟩ := hs
  obtain ⟨cs, hcs⟩ := List.head?_eq_some_iff.mp hc
  rw [ofString, hcs, List.map_cons, List.cons_append] at hb ⊢
  exact ha.append hdelimiter hb

theorem run_inside (quote : Quote) (read : List Symbol) (s : List Char) :
    run (.quoted quote read)
        ((s.flatMap fun c => if c = quote.char then [c, c] else [c]).map Symbol.char ++
          [.char quote.char]) =
      ([], .closing quote (read ++ s.map Symbol.char)) := by
  induction s generalizing read with
  | nil =>
    rw [List.flatMap_nil, List.map_nil, List.nil_append, run, run, step, Mode.next, if_pos rfl]
    simp
  | cons c s ih =>
    rw [List.flatMap_cons, List.map_append, List.append_assoc]
    by_cases hc : c = quote.char
    · -- The first of two quotes seems to end the name, and the second one takes that back.
      rw [if_pos hc, List.map_cons, List.map_cons, List.map_nil, List.cons_append,
        List.cons_append, List.nil_append, run, step, Mode.next, if_pos hc]
      show ([] ++ (run (.closing quote read) (.char c :: _)).1, _) = _
      rw [run, step, Mode.next, if_pos hc]
      show ([] ++ ([] ++ (run (.quoted quote (read ++ [.char c])) _).1), _) = _
      rw [ih]
      simp
    · rw [if_neg hc, List.map_cons, List.map_nil, List.cons_append, List.nil_append, run, step,
        Mode.next, if_neg hc]
      show ([] ++ (run (.quoted quote (read ++ [.char c])) _).1, _) = _
      rw [ih]
      simp

-- A quoted identifier is one node.
theorem reads_quoted {d : Dialect} {quote : Quote} (hquote : d.quote = quote.char) (s : String) :
    Reads (ofString (d.quoted s)) [.quoted quote (s.toList.map Symbol.char)] := by
  have hrun : run .between (ofString (d.quoted s)) =
      ([], .closing quote (s.toList.map Symbol.char)) := by
    rw [ofString, Dialect.quoted, String.toList_ofList, hquote, List.cons_append, List.map_cons,
      List.map_append]
    have henter : step .between (.char quote.char) = ([], .quoted quote []) := by
      cases quote <;> rfl
    rw [run, henter]
    show ([] ++ (run (.quoted quote []) _).1, _) = _
    rw [List.map_singleton, run_inside]
    rfl
  refine ⟨?_, ?_⟩
  · rw [hrun]
    rfl
  · rw [hrun]
    rfl

-- A minus sign that no other one follows.
theorem Reads.negated (ht : ∀ x ∈ text.head?, x ≠ .char '-') (h : Reads text n) :
    Reads (.char '-' :: text) (.sign '-' :: n) := by
  have hdash : run .between (.char '-' :: text) = run .dash text := rfl
  cases text with
  | nil =>
    have hn := h.nest
    rw [show Reading.nest [] [] _ = some [] from rfl, Option.some.injEq] at hn
    rw [← hn]
    exact ⟨rfl, rfl⟩
  | cons x rest =>
    have hnext : Mode.dash.next x = none := by
      cases x with
      | char c => exact if_neg fun hc => ht _ rfl (congrArg Symbol.char hc)
      | param v => rfl
    have hbetween : Mode.between.next x = none := rfl
    have hrun : run .dash (x :: rest) =
        (.node (.sign '-') :: (run .between (x :: rest)).1, (run .between (x :: rest)).2) := by
      rw [run, step, hnext, run, step, hbetween]
      rfl
    refine ⟨?_, ?_⟩
    · rw [hdash, hrun]
      exact h.closed
    · rw [hdash, hrun, List.cons_append, Reading.nest]
      exact nest_after h.nest [.sign '-']

end Reading

open Reading (IsPlain)

theorem Dialect.exists_quote {d : Dialect} (hd : d ∈ builtIn) :
    ∃ quote : Reading.Quote, quote ≠ .single ∧ d.quote = quote.char := by
  simp only [builtIn, List.mem_cons, List.not_mem_nil, or_false] at hd
  rcases hd with rfl | rfl | rfl
  · exact ⟨.double, by decide, rfl⟩
  · exact ⟨.grave, by decide, rfl⟩
  · exact ⟨.double, by decide, rfl⟩

/-- Whether pieces read well, and as plain nodes unless they are loose. -/
def ReadsAs (d : Dialect) (loose : Bool) (pieces : List Piece) : Prop :=
  ∃ nodes, Reads (pieces.flatMap (Piece.symbols d)) nodes ∧ (loose = false → IsPlain nodes)

namespace ReadsAs

variable {d : Dialect} {loose : Bool} {p a b : List Piece} {s : String}

theorem fixed (hs : Reading.readsPlain s = true) : ReadsAs d loose [.text s] := by
  obtain ⟨nodes, hreads, hplain⟩ := Reading.exists_of_readsPlain hs
  refine ⟨nodes, ?_, fun _ => hplain⟩
  rw [List.flatMap_singleton]
  exact hreads

theorem opening (hs : Reading.opens s = true) (hp : ReadsAs d loose p) :
    ReadsAs d loose (.text s :: p) := by
  obtain ⟨hplain, hend⟩ := Bool.and_eq_true_iff.mp hs
  obtain ⟨m, hm, hmplain⟩ := Reading.exists_of_readsPlain hplain
  obtain ⟨n, hn, hnplain⟩ := hp
  exact ⟨m ++ n, hm.after hend hn, fun h => hmplain.append (hnplain h)⟩

-- A text that begins with a delimiter.
theorem followed (ha : ReadsAs d loose a) (hs : Reading.startsDelimited s = true)
    (hb : ReadsAs d loose (.text s :: b)) : ReadsAs d loose (a ++ .text s :: b) := by
  obtain ⟨m, hm, hmplain⟩ := ha
  obtain ⟨n, hn, hnplain⟩ := hb
  refine ⟨m ++ n, ?_, fun h => (hmplain h).append (hnplain h)⟩
  rw [List.flatMap_append]
  exact hm.before hs hn

theorem group (hp : ReadsAs d true p) : ReadsAs d loose (Piece.parenthesized p) := by
  obtain ⟨nodes, hreads, -⟩ := hp
  refine ⟨[.group .round nodes], ?_, fun _ => .singleton rfl⟩
  rw [Piece.parenthesized, List.cons_append, List.flatMap_cons, List.flatMap_append]
  exact hreads.group

/-- The name of a function reads alone as plain words. -/
def PlainName (name : String) : Prop := ∃ nodes, Reads (ofString name) nodes ∧ IsPlain nodes

/-- What is written after a minus sign does not begin with another one, which would make both the
beginning of a comment. -/
def NoMinus (d : Dialect) (pieces : List Piece) : Prop :=
  ∀ x ∈ (pieces.flatMap (Piece.symbols d)).head?, x ≠ .char '-'

theorem name (hd : d ∈ Dialect.builtIn) (s : String) : ReadsAs d loose [.name s] := by
  obtain ⟨quote, -, hquote⟩ := Dialect.exists_quote hd
  refine ⟨[.quoted quote (s.toList.map Symbol.char)], ?_, fun _ => .singleton rfl⟩
  rw [List.flatMap_singleton]
  exact Reading.reads_quoted hquote s

theorem param (v : Value) : ReadsAs d loose [.param v] :=
  ⟨[.param v], ⟨rfl, rfl⟩, fun _ => .singleton rfl⟩

theorem defaultMarker (hd : d ∈ Dialect.builtIn) : ReadsAs d loose [.defaultMarker] := by
  have hmarker : Reading.readsPlain d.defaultMarker = true := by
    simp only [Dialect.builtIn, List.mem_cons, List.not_mem_nil, or_false] at hd
    rcases hd with rfl | rfl | rfl <;> decide
  exact fixed hmarker

theorem disjunction : ReadsAs d true [.text "OR"] :=
  ⟨[.word ['O', 'R']], ⟨rfl, rfl⟩, nofun⟩

theorem select (hp : ReadsAs d true p) : ReadsAs d true (.text "SELECT " :: p) := by
  obtain ⟨nodes, hreads, -⟩ := hp
  have hverb : Reads (ofString "SELECT ") [.word "SELECT".toList] := ⟨rfl, rfl⟩
  exact ⟨_, hverb.after rfl hreads, nofun⟩

theorem negation (hn : NoMinus d p) (hp : ReadsAs d loose p) :
    ReadsAs d loose (.text "-" :: p) := by
  obtain ⟨nodes, hreads, hplain⟩ := hp
  have hsign : IsPlain [.sign '-'] := .singleton rfl
  exact ⟨.sign '-' :: nodes, hreads.negated hn, fun h => hsign.append (hplain h)⟩

theorem call (hs : PlainName s) (hp : ReadsAs d true p) :
    ReadsAs d loose (.text s :: Piece.parenthesized p) := by
  obtain ⟨m, hm, hmplain⟩ := hs
  obtain ⟨nodes, hreads, -⟩ := hp
  refine ⟨m ++ [.group .round nodes], ?_, fun _ => hmplain.append (.singleton rfl)⟩
  rw [List.flatMap_cons, Piece.parenthesized, List.cons_append, List.flatMap_cons,
    List.flatMap_append]
  exact hm.append (by decide) hreads.group

-- A select or a table under a name.
theorem derived (hd : d ∈ Dialect.builtIn) (hp : ReadsAs d true p) (s : String) :
    ReadsAs d loose (.text "(" :: p ++ [.text ") AS ", .name s]) := by
  have hnamed : ReadsAs d loose (Piece.parenthesized p ++ .text " AS " :: [.name s]) :=
    followed (group hp) (by decide) (opening (by decide) (name hd s))
  obtain ⟨nodes, hreads, hplain⟩ := hnamed
  refine ⟨nodes, ?_, hplain⟩
  have htext :
      (Piece.text "(" :: p ++ [Piece.text ") AS ", Piece.name s]).flatMap (Piece.symbols d) =
        (Piece.parenthesized p ++ Piece.text " AS " :: [Piece.name s]).flatMap
          (Piece.symbols d) := by
    simp [Piece.parenthesized, Piece.symbols, ofString]
  rw [htext]
  exact hreads

-- What follows the grammar reads well.
theorem of_phrase (hd : d ∈ Dialect.builtIn) (h : Phrase PlainName (NoMinus d) loose p) :
    ReadsAs d loose p := by
  have hwords : ∀ s ∈ Phrase.words, Reading.readsPlain s = true := by decide
  have hopenings : ∀ s ∈ Phrase.openings, Reading.opens s = true := by decide
  have hlinks : ∀ s ∈ Phrase.links, Reading.opens s && Reading.startsDelimited s := by decide
  have hclosings : ∀ s ∈ Phrase.closings, Reading.readsPlain s && Reading.startsDelimited s := by
    decide
  induction h with
  | empty => exact ⟨[], .empty, fun _ n hn => absurd hn List.not_mem_nil⟩
  | name s => exact name hd s
  | param v => exact param v
  | defaultMarker => exact defaultMarker hd
  | word hs => exact fixed (hwords _ hs)
  | disjunction => exact disjunction
  | select _ ih => exact select ih
  | require c _ ih => exact ih
  | required _ c ih =>
    obtain ⟨nodes, hreads, hplain⟩ := ih
    refine ⟨nodes, ?_, hplain⟩
    rw [List.flatMap_append]
    exact (List.append_nil _).symm ▸ hreads
  | opening hs _ ih => exact opening (hopenings _ hs) ih
  | negation hn _ ih => exact negation hn ih
  | closing _ hs ih =>
    obtain ⟨hreads, hdelimited⟩ := Bool.and_eq_true_iff.mp (hclosings _ hs)
    exact followed ih hdelimited (fixed hreads)
  | link _ hs _ iha ihb =>
    obtain ⟨hopens, hdelimited⟩ := Bool.and_eq_true_iff.mp (hlinks _ hs)
    exact followed iha hdelimited (opening hopens ihb)
  | group _ ih => exact group ih
  | call hs _ ih => exact call hs ih
  | derived _ s ih => exact derived hd ih s

end ReadsAs

end SqlWeave
