import SqlWeave.Proofs.Mask
import SqlWeave.Proofs.Writing

/-!
# Values and their slots

Each parameter of a compiled statement is the value at a certain slot of its tree.  Which slots are
bound shows through every mask, so trees that differ in their values only bind the same slots, and
their texts are the same.
-/

namespace SqlWeave

namespace Leaf

/-- What a leaf is, apart from its contents: whether it is a value, and whether it is written. -/
def kind (l : Leaf) : Bool × Bool := (l.atom.value?.isSome, l.written)

def kinds (leaves : List Leaf) : List (Bool × Bool) := leaves.map kind

@[simp] theorem kinds_append (a b : List Leaf) : kinds (a ++ b) = kinds a ++ kinds b :=
  List.map_append

@[simp] theorem kinds_cons (l : Leaf) (leaves : List Leaf) :
    kinds (l :: leaves) = l.kind :: kinds leaves := rfl

@[simp] theorem kinds_flatMap {α : Type} (f : α → List Leaf) (xs : List α) :
    kinds (xs.flatMap f) = xs.flatMap fun x => kinds (f x) :=
  List.map_flatMap

theorem kinds_hide (leaves : List Leaf) :
    kinds (hide leaves) = (kinds leaves).map fun k => (k.1, false) := by
  rw [kinds, hide, List.map_map, kinds, List.map_map]
  rfl

theorem kinds_hide_congr {a b : List Leaf} (h : kinds a = kinds b) :
    kinds (hide a) = kinds (hide b) := by
  rw [kinds_hide, kinds_hide, h]

theorem kinds_map_ofName (names : List String) (f : String → String) :
    kinds ((names.map f).map ofName) = kinds (names.map ofName) := by
  rw [kinds, kinds, List.map_map, List.map_map, List.map_map]
  rfl

-- Leaves of members that look the same behind a mask.
theorem kinds_flatMap_mask {α : Type} {f : α → List Leaf} {hide : α → α} {xs : List α}
    (h : ∀ x ∈ xs, kinds (f (hide x)) = kinds (f x)) :
    kinds ((xs.map hide).flatMap f) = kinds (xs.flatMap f) := by
  rw [kinds_flatMap, kinds_flatMap, List.flatMap_map]
  exact List.flatMap_congr h

end Leaf

open Leaf (kinds ofName ofValue hide)

section

variable (m : Mask)

@[simp] theorem Table.kinds_mask (t : Table) : kinds (t.mask m).leaves = kinds t.leaves := by
  rcases t with ⟨_ | schema, name⟩ <;> rfl

@[simp] theorem Table.kinds_qualifier_mask (t : Option Table) :
    kinds (Table.qualifierLeaves (t.map (Table.mask m))) = kinds (Table.qualifierLeaves t) := by
  cases t with
  | none => rfl
  | some t => exact t.kinds_mask m

theorem Expr.kinds_option_mask {o : Option Expr}
    (h : ∀ e ∈ o, kinds (e.mask m false).leaves = kinds e.leaves) :
    kinds (Expr.leavesOfOption (Expr.maskOption m o)) = kinds (Expr.leavesOfOption o) := by
  cases o with
  | none => rfl
  | some e => exact h e rfl

theorem Expr.kinds_hereditary :
    Hereditary (fun e => ∀ nullTest, kinds (e.mask m nullTest).leaves = kinds e.leaves)
      (fun x => kinds (x.mask m).leaves = kinds x.leaves)
      (fun s => kinds (s.mask m).leaves = kinds s.leaves) where
  reference table column := by
    intro _
    rw [Expr.mask, Expr.leaves, Expr.leaves, Leaf.kinds_append, Leaf.kinds_append,
      Table.kinds_qualifier_mask]
    rfl
  value v := by
    intro _
    rw [Expr.mask, Expr.leaves, Expr.leaves]
    rfl
  raw fragments params h := by
    intro _
    rw [Expr.mask, Expr.leaves, Expr.leaves, Expr.maskList_eq_map, Expr.leavesOfList_eq_map,
      Expr.leavesOfList_eq_map]
    simp only [← List.map_take, ← List.map_drop, ← List.flatMap_def, Leaf.kinds_append]
    rw [Leaf.kinds_flatMap_mask fun e he => h e (List.mem_of_mem_take he) false,
      Leaf.kinds_hide_congr
        (Leaf.kinds_flatMap_mask fun e he => h e (List.mem_of_mem_drop he) false)]
  binary left op right hl hr := by
    intro _
    rw [Expr.mask, Expr.leaves, Expr.leaves, isKeywordNull_mask, Leaf.kinds_append,
      Leaf.kinds_append, hl]
    split
    · rw [Leaf.kinds_hide_congr (hr op.isNullTest)]
    · rw [hr]
  unary op e h := by
    intro _
    rw [Expr.mask, Expr.leaves, Expr.leaves, h]
  call name args h := by
    intro _
    rw [Expr.mask, Expr.leaves, Expr.leaves, Expr.maskList_eq_map, Expr.leavesOfList_eq_map,
      Expr.leavesOfList_eq_map, ← List.flatMap_def, ← List.flatMap_def]
    exact Leaf.kinds_flatMap_mask fun e he => h e he false
  aliased e label h := by
    intro _
    rw [Expr.mask, Expr.leaves, Expr.leaves, Leaf.kinds_append, Leaf.kinds_append, h]
    rfl
  list items h := by
    intro _
    rw [Expr.mask, Expr.leaves, Expr.leaves, Expr.maskList_eq_map, Expr.leavesOfList_eq_map,
      Expr.leavesOfList_eq_map, ← List.flatMap_def, ← List.flatMap_def]
    exact Leaf.kinds_flatMap_mask fun e he => h e he false
  subquery s h := by
    intro _
    rw [Expr.mask, Expr.leaves, Expr.leaves, h]
  star table := by
    intro _
    rw [Expr.mask, Expr.leaves, Expr.leaves, Table.kinds_qualifier_mask]
  defaultMarker := by
    intro _
    rw [Expr.mask]
  table t label := by
    rw [Source.mask, Source.leaves, Source.leaves, Leaf.kinds_append, Leaf.kinds_append,
      Table.kinds_mask]
    cases label <;> rfl
  derived s label h := by
    rw [Source.mask, Source.leaves, Source.leaves, Leaf.kinds_append, Leaf.kinds_append, h]
    rfl
  select s h := by
    obtain ⟨sources, selections, distinct, joins, filter, groupBy, having, orderBy, limit, offset,
      explain⟩ := s
    have hexplain : kinds (Explain.leavesOfOption (Explain.maskOption m explain)) =
        kinds (Explain.leavesOfOption explain) := by
      rcases explain with _ | ⟨format, options⟩
      · rfl
      · exact Expr.kinds_option_mask m fun e he => h.explain _ rfl e he false
    have hjoins : kinds ((joins.map fun j =>
        (⟨j.kind, j.source.mask m, j.on.mask m false⟩ : Join)).flatMap
          fun j => j.source.leaves ++ j.on.leaves) =
        kinds (joins.flatMap fun j => j.source.leaves ++ j.on.leaves) := by
      refine Leaf.kinds_flatMap_mask fun j hj => ?_
      rw [Leaf.kinds_append, Leaf.kinds_append, (h.joins j hj).1, (h.joins j hj).2]
    have horderBy : kinds ((orderBy.map fun i =>
        (⟨i.expr.mask m false, i.direction⟩ : OrderItem)).flatMap fun i => i.expr.leaves) =
        kinds (orderBy.flatMap fun i => i.expr.leaves) :=
      Leaf.kinds_flatMap_mask fun i hi => h.orderBy i hi false
    rw [Select.mask, Select.leaves, Select.leaves]
    simp only [Expr.maskList_eq_map, Source.maskList_eq_map, Join.maskList_eq_map,
      OrderItem.maskList_eq_map, Expr.leavesOfList_eq_map, Source.leavesOfList_eq_flatMap,
      Join.leavesOfList_eq_flatMap, OrderItem.leavesOfList_eq_flatMap, ← List.flatMap_def,
      Leaf.kinds_append, Leaf.kinds_hide_congr hexplain, hjoins, horderBy,
      Leaf.kinds_flatMap_mask h.sources,
      Leaf.kinds_flatMap_mask fun e he => h.selections e he false,
      Leaf.kinds_flatMap_mask fun e he => h.groupBy e he false,
      Expr.kinds_option_mask m fun e he => h.filter e he false,
      Expr.kinds_option_mask m fun e he => h.having e he false,
      Expr.kinds_option_mask m fun e he => h.limit e he false,
      Expr.kinds_option_mask m fun e he => h.offset e he false]

@[simp] theorem Expr.kinds_mask (e : Expr) : kinds (e.mask m false).leaves = kinds e.leaves :=
  (Expr.kinds_hereditary m).expr e false

theorem Expr.kinds_list_mask (es : List Expr) :
    kinds ((Expr.maskList m es).flatMap Expr.leaves) = kinds (es.flatMap Expr.leaves) := by
  rw [Expr.maskList_eq_map]
  exact Leaf.kinds_flatMap_mask fun e _ => e.kinds_mask m

@[simp] theorem Expr.kinds_leavesOfOption (o : Option Expr) :
    kinds (Expr.leavesOfOption (Expr.maskOption m o)) = kinds (Expr.leavesOfOption o) :=
  Expr.kinds_option_mask m fun e _ => e.kinds_mask m

@[simp] theorem kinds_updateLeaves (updates : List ColumnUpdate) :
    kinds (updateLeaves (updates.map (ColumnUpdate.mask m))) = kinds (updateLeaves updates) := by
  unfold updateLeaves
  refine Leaf.kinds_flatMap_mask fun u _ => ?_
  rw [ColumnUpdate.mask, ColumnUpdate.leaves, ColumnUpdate.leaves, Leaf.kinds_cons,
    Leaf.kinds_cons, Expr.kinds_mask]
  rfl

@[simp] theorem kinds_returningLeaves (returning : Option (List Expr)) :
    kinds (returningLeaves (returning.map (Expr.maskList m))) =
      kinds (returningLeaves returning) := by
  cases returning with
  | none => rfl
  | some selections => exact Expr.kinds_list_mask m selections

theorem Conflict.kinds_mask (c : Conflict) : kinds (c.mask m).leaves = kinds c.leaves := by
  obtain ⟨target, indexFilter, action⟩ := c
  have htarget : kinds (target.mask m).leaves = kinds target.leaves := by
    cases target with
    | columns names => exact Leaf.kinds_map_ofName names m.name
    | expr e => exact e.kinds_mask m
    | _ => rfl
  have haction : kinds (action.mask m).leaves = kinds action.leaves := by
    cases action with
    | nothing => rfl
    | update updates filter =>
      simp only [ConflictAction.mask, ConflictAction.leaves, Leaf.kinds_append, kinds_updateLeaves,
        Expr.kinds_leavesOfOption]
  simp only [Conflict.mask, Conflict.leaves, Leaf.kinds_append, htarget, haction,
    Expr.kinds_leavesOfOption]

namespace Insert

theorem kinds_sourceLeaves (i : Insert) : kinds (i.mask m).sourceLeaves = kinds i.sourceLeaves := by
  have hcolumns : kinds ((i.mask m).writtenColumns.map ofName) =
      kinds (i.writtenColumns.map ofName) := by
    rw [writtenColumns_mask]
    exact Leaf.kinds_map_ofName i.writtenColumns m.name
  have hempty : (i.mask m).writtenColumns.isEmpty = i.writtenColumns.isEmpty := by
    rw [writtenColumns_mask, List.isEmpty_map]
  have hsource : (i.mask m).source = i.source.map (InsertSource.mask m) := rfl
  unfold sourceLeaves
  rw [hsource]
  rcases i.source with _ | cells | e | _
  · exact hcolumns
  · have hcells : kinds ((cells.map (Expr.maskList m)).flatMap fun row => row.flatMap Expr.leaves) =
        kinds (cells.flatMap fun row => row.flatMap Expr.leaves) :=
      Leaf.kinds_flatMap_mask fun row _ => Expr.kinds_list_mask m row
    simp only [Option.map_some, InsertSource.mask, hempty]
    split
    · exact Leaf.kinds_hide_congr hcells
    · rw [Leaf.kinds_append, Leaf.kinds_append, hcolumns, hcells]
  · simp only [Option.map_some, InsertSource.mask, Leaf.kinds_append, hcolumns, Expr.kinds_mask]
  · exact Leaf.kinds_hide_congr hcolumns

theorem kinds_mask (i : Insert) : kinds (i.mask m).leaves = kinds i.leaves := by
  have hconflict : kinds (((i.mask m).onConflict.map Conflict.leaves).getD []) =
      kinds ((i.onConflict.map Conflict.leaves).getD []) := by
    show kinds (((i.onConflict.map (Conflict.mask m)).map Conflict.leaves).getD []) = _
    cases i.onConflict with
    | none => rfl
    | some c => exact c.kinds_mask m
  have hduplicate : kinds (((i.mask m).onDuplicateKey.map updateLeaves).getD []) =
      kinds ((i.onDuplicateKey.map updateLeaves).getD []) := by
    show kinds (((i.onDuplicateKey.map (List.map (ColumnUpdate.mask m))).map
      updateLeaves).getD []) = _
    cases i.onDuplicateKey with
    | none => rfl
    | some updates => exact kinds_updateLeaves m updates
  have hinto : kinds (i.mask m).into.leaves = kinds i.into.leaves := i.into.kinds_mask m
  have hreturning : kinds (returningLeaves (i.mask m).returning) =
      kinds (returningLeaves i.returning) := kinds_returningLeaves m i.returning
  simp only [Insert.leaves, Leaf.kinds_append, hinto, kinds_sourceLeaves, hconflict, hduplicate,
    hreturning]

end Insert

theorem Update.kinds_mask (u : Update) : kinds (u.mask m).leaves = kinds u.leaves := by
  simp only [Update.mask, Update.leaves, Leaf.kinds_append, Table.kinds_mask, kinds_updateLeaves,
    Expr.kinds_leavesOfOption, kinds_returningLeaves]

theorem Delete.kinds_mask (d : Delete) : kinds (d.mask m).leaves = kinds d.leaves := by
  simp only [Delete.mask, Delete.leaves, Leaf.kinds_append, Table.kinds_mask,
    Expr.kinds_leavesOfOption, kinds_returningLeaves]

-- A mask does not change which leaves are values and which are written.
theorem Query.kinds_mask (q : Query) : kinds (q.mask m).leaves = kinds q.leaves := by
  have hexplain : kinds (Explain.leavesOfOption (q.mask m).explain) =
      kinds (Explain.leavesOfOption q.explain) := by
    rw [explain_mask]
    rcases q.explain with _ | ⟨format, options⟩
    · rfl
    · exact Expr.kinds_leavesOfOption m options
  have hown : kinds (q.mask m).ownLeaves = kinds q.ownLeaves := by
    cases q with
    | select s =>
      have hs : { s.mask m with explain := none : Select } =
          ({ s with explain := none : Select }).mask m := by
        cases s
        rw [Select.mask, Select.mask]
        rfl
      show kinds ({ s.mask m with explain := none : Select }).leaves = _
      rw [hs]
      exact (Expr.kinds_hereditary m).ofSelect _
    | insert i => exact i.kinds_mask m
    | update u => exact u.kinds_mask m
    | delete d => exact d.kinds_mask m
  rw [leaves, Leaf.kinds_append, hexplain, hown, leaves, Leaf.kinds_append]

end

/-! ## Slots -/

namespace Leaf

/-- The positions of the bound values among all values, when the first value has number `n`. -/
def slots : Nat → List (Bool × Bool) → List Nat
  | _, [] => []
  | n, (false, _) :: rest => slots n rest
  | n, (true, true) :: rest => n :: slots (n + 1) rest
  | n, (true, false) :: rest => slots (n + 1) rest

def values (leaves : List Leaf) : List Value := leaves.filterMap fun l => l.atom.value?

def boundValues (leaves : List Leaf) : List Value := (atoms leaves).filterMap Atom.value?

theorem le_of_mem_slots {n k : Nat} {kinds : List (Bool × Bool)} (h : k ∈ slots n kinds) :
    n ≤ k := by
  induction kinds generalizing n with
  | nil => exact absurd h List.not_mem_nil
  | cons kind rest ih =>
    rcases kind with ⟨_ | _, _ | _⟩
    · exact ih h
    · exact ih h
    · have := ih h
      omega
    · rcases List.mem_cons.mp h with h | h
      · omega
      · have := ih h
        omega

theorem slots_increase (n : Nat) (kinds : List (Bool × Bool)) :
    (slots n kinds).Pairwise (· < ·) := by
  induction kinds generalizing n with
  | nil => exact .nil
  | cons kind rest ih =>
    rcases kind with ⟨_ | _, _ | _⟩
    · exact ih n
    · exact ih n
    · exact ih (n + 1)
    · exact .cons (fun k hk => le_of_mem_slots hk) (ih (n + 1))

-- The bound values are the values at the slots.
theorem map_slots (n : Nat) (leaves : List Leaf) :
    (slots n (kinds leaves)).map (fun k => (values leaves)[k - n]?) =
      (boundValues leaves).map some := by
  induction leaves generalizing n with
  | nil => rfl
  | cons l rest ih =>
    -- A value in front moves all others by one place.
    have hshift : ∀ v, (slots (n + 1) (kinds rest)).map (fun k => (v :: values rest)[k - n]?) =
        (slots (n + 1) (kinds rest)).map (fun k => (values rest)[k - (n + 1)]?) := by
      intro v
      refine List.map_congr_left fun k hk => ?_
      have hle := le_of_mem_slots hk
      rw [show k - n = k - (n + 1) + 1 by omega, List.getElem?_cons_succ]
    rcases l with ⟨name | v, _ | _⟩
    · exact ih n
    · exact ih n
    · exact (hshift v).trans (ih (n + 1))
    · have hsplit : slots n (kinds (⟨.value v, true⟩ :: rest)) =
          n :: slots (n + 1) (kinds rest) := rfl
      rw [hsplit, List.map_cons]
      show (v :: values rest)[n - n]? :: (slots (n + 1) (kinds rest)).map
        (fun k => (v :: values rest)[k - n]?) = some v :: (boundValues rest).map some
      rw [hshift, ih, Nat.sub_self, List.getElem?_cons_zero]

end Leaf

namespace Query

/-- The numbers of the values that are bound, among all values of the tree. -/
def slots (q : Query) : List Nat := Leaf.slots 0 (kinds q.leaves)

theorem length_slots (q : Query) : q.slots.length = q.boundValues.length := by
  have h := congrArg List.length (Leaf.map_slots 0 q.leaves)
  rwa [List.length_map, List.length_map] at h

theorem getElem_boundValues (q : Query) (i : Nat) :
    q.boundValues[i]? = q.slots[i]?.bind fun k => q.values[k]? := by
  have h := congrArg (fun l => l[i]?) (Leaf.map_slots 0 q.leaves)
  simp only [List.getElem?_map, Nat.sub_zero] at h
  change (q.slots[i]?).map (fun k => q.values[k]?) = (q.boundValues[i]?).map some at h
  cases hb : q.boundValues[i]? with
  | none =>
    rw [hb, Option.map_none, Option.map_eq_none_iff] at h
    rw [h]
    rfl
  | some v =>
    rw [hb, Option.map_some, Option.map_eq_some_iff] at h
    obtain ⟨k, hk, hv⟩ := h
    rw [hk]
    exact hv.symm

end Query

/-! ## Texts behind a mask -/

namespace Piece

variable (d : Dialect)

theorem failure_mask_values (piece : Piece) : (piece.mask .values).failure d = piece.failure d := by
  cases piece with
  | refuse fault => cases fault <;> rfl
  | _ => rfl

theorem layout_mask_values (n : Nat) (pieces : List Piece) :
    Symbol.layout d.placeholder n ((pieces.map (mask .values)).flatMap (symbols d)) =
      Symbol.layout d.placeholder n (pieces.flatMap (symbols d)) := by
  have hpiece : ∀ (n : Nat) (piece : Piece),
      Symbol.layout d.placeholder n ((piece.mask .values).symbols d) =
        Symbol.layout d.placeholder n (piece.symbols d) := by
    intro n piece
    cases piece <;> rfl
  have hcount : ∀ piece : Piece, (Symbol.params ((piece.mask .values).symbols d)).length =
      (Symbol.params (piece.symbols d)).length := by
    intro piece
    cases piece <;> rfl
  induction pieces generalizing n with
  | nil => rfl
  | cons piece rest ih =>
    rw [List.map_cons, List.flatMap_cons, List.flatMap_cons, Symbol.layout_append,
      Symbol.layout_append, hpiece, hcount, ih]

end Piece

-- What is written does not depend on the values in it.
theorem Sql.text_mask_values (d : Dialect) (pieces : List Piece) :
    (ofPieces d (pieces.map (Piece.mask .values))).map text = (ofPieces d pieces).map text := by
  have hfailure : (pieces.map (Piece.mask .values)).findSome? (Piece.failure d) =
      pieces.findSome? (Piece.failure d) := by
    rw [List.findSome?_map]
    exact congrArg (fun f => pieces.findSome? f) (funext (Piece.failure_mask_values d))
  rw [ofPieces_eq, ofPieces_eq, hfailure]
  cases pieces.findSome? (Piece.failure d) with
  | some e => rfl
  | none =>
    refine congrArg Except.ok ?_
    rw [← String.toList_inj, text_ofSymbols, text_ofSymbols, Piece.layout_mask_values]

namespace Query

variable {q q' : Query}

theorem text_compile_of_mask (d : Dialect) (h : q.mask .values = q'.mask .values) :
    (q.compile d).map Sql.text = (q'.compile d).map Sql.text := by
  unfold compile
  rw [← Sql.text_mask_values, ← rootPieces_mask, h, rootPieces_mask, Sql.text_mask_values]

theorem kinds_of_mask (m : Mask) (h : q.mask m = q'.mask m) : kinds q.leaves = kinds q'.leaves := by
  rw [← kinds_mask m, h, kinds_mask]

theorem length_values (q : Query) :
    q.values.length = ((kinds q.leaves).filter Prod.fst).length := by
  unfold values kinds
  rw [List.filter_map, List.length_map, ← List.countP_eq_length_filter,
    List.length_filterMap_eq_countP]
  rfl

end Query

/-- Values never reach the text of a statement.  Statements that differ in their values only have
the same text or fail for the same reason, and each of their parameters is the value at the same
slot of the one tree and of the other. -/
theorem values_do_not_reach_text (d : Dialect) (q q' : Query)
    (h : q.mask .values = q'.mask .values) :
    (q.compile d).map Sql.text = (q'.compile d).map Sql.text ∧
    q.values.length = q'.values.length ∧
    ∃ slots : List Nat, slots.Pairwise (· < ·) ∧
      ∀ sql sql', q.compile d = .ok sql → q'.compile d = .ok sql' →
        sql.params.length = slots.length ∧ sql'.params.length = slots.length ∧
        ∀ i : Nat, sql.params[i]? = slots[i]?.bind (fun k => q.values[k]?) ∧
          sql'.params[i]? = slots[i]?.bind (fun k => q'.values[k]?) := by
  have hkinds := Query.kinds_of_mask .values h
  have hslots : q'.slots = q.slots := by
    unfold Query.slots
    rw [hkinds]
  have hlength : q.values.length = q'.values.length := by
    rw [Query.length_values, Query.length_values, hkinds]
  refine ⟨Query.text_compile_of_mask d h, hlength, q.slots, Leaf.slots_increase 0 _, ?_⟩
  intro sql sql' hq hq'
  have hparams := Query.params_of_compile hq
  have hparams' := Query.params_of_compile hq'
  refine ⟨?_, ?_, fun i => ⟨?_, ?_⟩⟩
  · rw [hparams, q.length_slots]
  · rw [hparams', ← hslots, q'.length_slots]
  · rw [hparams, q.getElem_boundValues]
  · rw [hparams', q'.getElem_boundValues, hslots]

-- A hostile text in the place of a harmless one changes a parameter and nothing else.
theorem values_do_not_reach_text_delete :
    let q (v : Value) : Query := .delete { Delete.ofTable (.ofName "t") with
      filter := some (.binary (.reference none "b") .eq (.value v)) }
    ∃ sql sql', (q (.int 1)).compile .sqlite = .ok sql ∧
      (q (.text "0 OR 1=1")).compile .sqlite = .ok sql' ∧
      sql.text = sql'.text ∧ sql.params[0]? = some (.int 1) ∧
      sql'.params[0]? = some (.text "0 OR 1=1") := by
  intro q
  have hok : (q (.int 1)).compile .sqlite =
      .ok (Sql.ofSymbols .sqlite ((q (.int 1)).symbols .sqlite)) :=
    Sql.ofPieces_eq_ok_iff.mpr ⟨rfl, rfl⟩
  have hok' : (q (.text "0 OR 1=1")).compile .sqlite =
      .ok (Sql.ofSymbols .sqlite ((q (.text "0 OR 1=1")).symbols .sqlite)) :=
    Sql.ofPieces_eq_ok_iff.mpr ⟨rfl, rfl⟩
  have htext :=
    (values_do_not_reach_text .sqlite (q (.int 1)) (q (.text "0 OR 1=1")) rfl).1
  refine ⟨_, _, hok, hok', ?_, rfl, rfl⟩
  rw [hok, hok'] at htext
  exact Except.ok.inj htext

end SqlWeave
