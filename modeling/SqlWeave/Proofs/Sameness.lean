import SqlWeave.Proofs.Slot
import SqlWeave.Same

/-!
# Statements that are the same

Statements that are the same differ in their values at most, and there only in what a comparison
leaves out, such as the sign of a zero.  Behind a mask over the values they are equal, and so are
their texts.
-/

namespace SqlWeave

/-! ## Lists and options -/

section

variable {α β : Type} {same : α → α → Bool} {f : α → β}

theorem map_eq_of_sameList {as bs : List α} (h : sameList same as bs = true)
    (hf : ∀ a ∈ as, ∀ b, same a b = true → f a = f b) : as.map f = bs.map f := by
  induction as generalizing bs with
  | nil =>
    cases bs with
    | nil => rfl
    | cons b bs => exact nomatch h
  | cons a as ih =>
    cases bs with
    | nil => exact nomatch h
    | cons b bs =>
      obtain ⟨hhead, htail⟩ := Bool.and_eq_true_iff.mp h
      obtain ⟨hfhead, hftail⟩ := List.forall_mem_cons.mp hf
      rw [List.map_cons, List.map_cons, hfhead b hhead, ih htail hftail]

theorem map_eq_of_sameOption {a b : Option α} (h : sameOption same a b = true)
    (hf : ∀ x ∈ a, ∀ y, same x y = true → f x = f y) : a.map f = b.map f := by
  cases a with
  | none =>
    cases b with
    | none => rfl
    | some b => exact nomatch h
  | some a =>
    cases b with
    | none => exact nomatch h
    | some b => exact congrArg some (hf a rfl b h)

end

@[simp] theorem Expr.sameList_eq (as bs : List Expr) :
    Expr.sameList as bs = SqlWeave.sameList Expr.same as bs := by
  induction as generalizing bs with
  | nil => cases bs <;> simp only [Expr.sameList, SqlWeave.sameList]
  | cons a as ih => cases bs <;> simp only [Expr.sameList, SqlWeave.sameList, ih]

@[simp] theorem Expr.sameOption_eq (a b : Option Expr) :
    Expr.sameOption a b = SqlWeave.sameOption Expr.same a b := by
  cases a <;> cases b <;> simp only [Expr.sameOption, SqlWeave.sameOption]

@[simp] theorem Source.sameList_eq (as bs : List Source) :
    Source.sameList as bs = SqlWeave.sameList Source.same as bs := by
  induction as generalizing bs with
  | nil => cases bs <;> simp only [Source.sameList, SqlWeave.sameList]
  | cons a as ih => cases bs <;> simp only [Source.sameList, SqlWeave.sameList, ih]

@[simp] theorem Join.sameList_eq (as bs : List Join) :
    Join.sameList as bs = SqlWeave.sameList Join.same as bs := by
  induction as generalizing bs with
  | nil => cases bs <;> simp only [Join.sameList, SqlWeave.sameList]
  | cons a as ih => cases bs <;> simp only [Join.sameList, SqlWeave.sameList, ih]

@[simp] theorem OrderItem.sameList_eq (as bs : List OrderItem) :
    OrderItem.sameList as bs = SqlWeave.sameList OrderItem.same as bs := by
  induction as generalizing bs with
  | nil => cases bs <;> simp only [OrderItem.sameList, SqlWeave.sameList]
  | cons a as ih => cases bs <;> simp only [OrderItem.sameList, SqlWeave.sameList, ih]

@[simp] theorem Explain.sameOption_eq (a b : Option Explain) :
    Explain.sameOption a b = SqlWeave.sameOption Explain.same a b := by
  cases a <;> cases b <;> simp only [Explain.sameOption, SqlWeave.sameOption]

/-! ## Trees -/

-- The same values are null together, and beyond that a mask tells no values apart.
theorem Value.operand_of_same {v v' : Value} (h : v.same v' = true) (nullTest : Bool) :
    Mask.values.operand nullTest v = Mask.values.operand nullTest v' := by
  cases nullTest <;> cases v <;> cases v' <;> first | rfl | exact nomatch h

/-- Whatever is the same as the expression is equal to it behind a mask over the values. -/
def Expr.MasksSame (e : Expr) : Prop :=
  ∀ e', e.same e' = true → ∀ nullTest, e.mask .values nullTest = e'.mask .values nullTest

theorem Expr.MasksSame.map_eq {es es' : List Expr} (h : ∀ e ∈ es, e.MasksSame)
    (hsame : SqlWeave.sameList Expr.same es es' = true) :
    es.map (Expr.mask .values false) = es'.map (Expr.mask .values false) :=
  map_eq_of_sameList hsame fun e he e' hsame => h e he e' hsame false

theorem Expr.MasksSame.option_eq {o o' : Option Expr} (h : ∀ e ∈ o, e.MasksSame)
    (hsame : SqlWeave.sameOption Expr.same o o' = true) :
    o.map (Expr.mask .values false) = o'.map (Expr.mask .values false) :=
  map_eq_of_sameOption hsame fun e he e' hsame => h e he e' hsame false

theorem Explain.maskOption_of_same {x x' : Option Explain}
    (h : ∀ r ∈ x, ∀ e ∈ r.options, e.MasksSame)
    (hsame : SqlWeave.sameOption Explain.same x x' = true) :
    Explain.maskOption .values x = Explain.maskOption .values x' := by
  cases x with
  | none =>
    cases x' with
    | none => rfl
    | some r => exact nomatch hsame
  | some r =>
    cases x' with
    | none => exact nomatch hsame
    | some r' =>
      obtain ⟨format, options⟩ := r
      obtain ⟨format', options'⟩ := r'
      simp only [SqlWeave.sameOption, Explain.same, Expr.sameOption_eq, Bool.and_eq_true,
        beq_iff_eq] at hsame
      obtain ⟨rfl, hoptions⟩ := hsame
      simp only [Explain.maskOption, Expr.maskOption_eq_map,
        Expr.MasksSame.option_eq (h _ rfl) hoptions]

theorem Expr.masksSame_hereditary :
    Hereditary Expr.MasksSame
      (fun x => ∀ x', x.same x' = true → x.mask .values = x'.mask .values)
      (fun s => ∀ s', s.same s' = true → s.mask .values = s'.mask .values) where
  reference table column := by
    intro e' h
    cases e' <;> simp only [Expr.same, Bool.and_eq_true, beq_iff_eq, reduceCtorEq] at h
    obtain ⟨rfl, rfl⟩ := h
    exact fun _ => rfl
  value v := by
    intro e' h nullTest
    cases e' <;> simp only [Expr.same, reduceCtorEq] at h
    exact congrArg Expr.value (Value.operand_of_same h nullTest)
  raw fragments params hparams := by
    intro e' h nullTest
    cases e' <;>
      simp only [Expr.same, Expr.sameList_eq, Bool.and_eq_true, beq_iff_eq, reduceCtorEq] at h
    obtain ⟨rfl, hsame⟩ := h
    simp only [Expr.mask, Expr.maskList_eq_map, MasksSame.map_eq hparams hsame]
  binary left op right hleft hright := by
    intro e' h nullTest
    cases e' <;> simp only [Expr.same, Bool.and_eq_true, beq_iff_eq, reduceCtorEq] at h
    obtain ⟨⟨rfl, hl⟩, hr⟩ := h
    simp only [Expr.mask, hleft _ hl, hright _ hr]
  unary op e he := by
    intro e' h nullTest
    cases e' <;> simp only [Expr.same, Bool.and_eq_true, beq_iff_eq, reduceCtorEq] at h
    obtain ⟨rfl, hsame⟩ := h
    simp only [Expr.mask, he _ hsame]
  call name args hargs := by
    intro e' h nullTest
    cases e' <;>
      simp only [Expr.same, Expr.sameList_eq, Bool.and_eq_true, beq_iff_eq, reduceCtorEq] at h
    obtain ⟨rfl, hsame⟩ := h
    simp only [Expr.mask, Expr.maskList_eq_map, MasksSame.map_eq hargs hsame]
  aliased e label he := by
    intro e' h nullTest
    cases e' <;> simp only [Expr.same, Bool.and_eq_true, beq_iff_eq, reduceCtorEq] at h
    obtain ⟨rfl, hsame⟩ := h
    simp only [Expr.mask, he _ hsame]
  list items hitems := by
    intro e' h nullTest
    cases e' <;> simp only [Expr.same, Expr.sameList_eq, reduceCtorEq] at h
    simp only [Expr.mask, Expr.maskList_eq_map, MasksSame.map_eq hitems h]
  subquery s hs := by
    intro e' h nullTest
    cases e' <;> simp only [Expr.same, reduceCtorEq] at h
    simp only [Expr.mask, hs _ h]
  star table := by
    intro e' h nullTest
    cases e' <;> simp only [Expr.same, beq_iff_eq, reduceCtorEq] at h
    rw [h]
  defaultMarker := by
    intro e' h nullTest
    cases e' <;> simp only [Expr.same, reduceCtorEq] at h
    rfl
  table t label := by
    intro x' h
    cases x' <;> simp only [Source.same, Bool.and_eq_true, beq_iff_eq, reduceCtorEq] at h
    rw [h.1, h.2]
  derived s label hs := by
    intro x' h
    cases x' <;> simp only [Source.same, Bool.and_eq_true, beq_iff_eq, reduceCtorEq] at h
    simp only [Source.mask, h.1, hs _ h.2]
  select s hs := by
    intro s' h
    obtain ⟨sources, selections, distinct, joins, filter, groupBy, having, orderBy, limit, offset,
      explain⟩ := s
    obtain ⟨sources', selections', distinct', joins', filter', groupBy', having', orderBy', limit',
      offset', explain'⟩ := s'
    simp only [Select.same, Source.sameList_eq, Expr.sameList_eq, Join.sameList_eq,
      Expr.sameOption_eq, OrderItem.sameList_eq, Explain.sameOption_eq, Bool.and_eq_true,
      beq_iff_eq] at h
    obtain ⟨⟨⟨⟨⟨⟨⟨⟨⟨⟨hsources, hselections⟩, rfl⟩, hjoins⟩, hfilter⟩, hgroupBy⟩, hhaving⟩,
      horderBy⟩, hlimit⟩, hoffset⟩, hexplain⟩ := h
    have hjoin (j : Join) (hj : j ∈ joins) (j' : Join) (hsame : j.same j' = true) :
        (⟨j.kind, j.source.mask .values, j.on.mask .values false⟩ : Join) =
          ⟨j'.kind, j'.source.mask .values, j'.on.mask .values false⟩ := by
      obtain ⟨kind, x, e⟩ := j
      obtain ⟨kind', x', e'⟩ := j'
      simp only [Join.same, Bool.and_eq_true, beq_iff_eq] at hsame
      obtain ⟨⟨rfl, hx⟩, he⟩ := hsame
      rw [(hs.joins _ hj).1 x' hx, (hs.joins _ hj).2 e' he]
    have hitem (i : OrderItem) (hi : i ∈ orderBy) (i' : OrderItem) (hsame : i.same i' = true) :
        (⟨i.expr.mask .values false, i.direction⟩ : OrderItem) =
          ⟨i'.expr.mask .values false, i'.direction⟩ := by
      obtain ⟨e, direction⟩ := i
      obtain ⟨e', direction'⟩ := i'
      simp only [OrderItem.same, Bool.and_eq_true, beq_iff_eq] at hsame
      obtain ⟨rfl, he⟩ := hsame
      rw [hs.orderBy _ hi e' he]
    simp only [Select.mask, Source.maskList_eq_map, Expr.maskList_eq_map, Join.maskList_eq_map,
      Expr.maskOption_eq_map, OrderItem.maskList_eq_map,
      map_eq_of_sameList hsources hs.sources, MasksSame.map_eq hs.selections hselections,
      map_eq_of_sameList hjoins hjoin, MasksSame.option_eq hs.filter hfilter,
      MasksSame.map_eq hs.groupBy hgroupBy, MasksSame.option_eq hs.having hhaving,
      map_eq_of_sameList horderBy hitem, MasksSame.option_eq hs.limit hlimit,
      MasksSame.option_eq hs.offset hoffset, Explain.maskOption_of_same hs.explain hexplain]

theorem Expr.masksSame (e : Expr) : e.MasksSame := Expr.masksSame_hereditary.expr e

theorem Select.mask_of_same {s s' : Select} (h : s.same s' = true) :
    s.mask .values = s'.mask .values :=
  Expr.masksSame_hereditary.ofSelect s s' h

/-! ## Statements -/

theorem Expr.maskList_of_same {es es' : List Expr} (h : Expr.sameList es es' = true) :
    Expr.maskList .values es = Expr.maskList .values es' := by
  rw [Expr.sameList_eq] at h
  rw [Expr.maskList_eq_map, Expr.maskList_eq_map, MasksSame.map_eq (fun e _ => e.masksSame) h]

theorem Expr.option_mask_of_same {o o' : Option Expr}
    (h : SqlWeave.sameOption Expr.same o o' = true) :
    o.map (Expr.mask .values false) = o'.map (Expr.mask .values false) :=
  MasksSame.option_eq (fun e _ => e.masksSame) h

theorem ColumnUpdate.map_mask_of_same {us us' : List ColumnUpdate}
    (h : sameList ColumnUpdate.same us us' = true) :
    us.map (ColumnUpdate.mask .values) = us'.map (ColumnUpdate.mask .values) := by
  refine map_eq_of_sameList h fun u _ u' hsame => ?_
  obtain ⟨hcolumn, hvalue⟩ := Bool.and_eq_true_iff.mp hsame
  rw [ColumnUpdate.mask, ColumnUpdate.mask, beq_iff_eq.mp hcolumn, u.value.masksSame _ hvalue]

theorem returning_mask_of_same {r r' : Option (List Expr)}
    (h : sameOption Expr.sameList r r' = true) :
    r.map (Expr.maskList .values) = r'.map (Expr.maskList .values) :=
  map_eq_of_sameOption h fun _ _ _ => Expr.maskList_of_same

theorem Explain.mask_of_same {x x' : Option Explain}
    (h : SqlWeave.sameOption Explain.same x x' = true) :
    Explain.maskOption .values x = Explain.maskOption .values x' :=
  Explain.maskOption_of_same (fun _ _ e _ => e.masksSame) h

theorem InsertSource.mask_of_same {x x' : InsertSource} (h : x.same x' = true) :
    x.mask .values = x'.mask .values := by
  cases x <;> cases x' <;> simp only [InsertSource.same, Bool.false_eq_true] at h
  case rows.rows cells cells' =>
    have hcells : cells.map (Expr.maskList .values) = cells'.map (Expr.maskList .values) :=
      map_eq_of_sameList h fun _ _ _ => Expr.maskList_of_same
    rw [InsertSource.mask, InsertSource.mask, hcells]
  case expr.expr e e' => rw [InsertSource.mask, InsertSource.mask, e.masksSame _ h]
  case defaults.defaults => rfl

theorem ConflictTarget.mask_of_same {t t' : ConflictTarget} (h : t.same t' = true) :
    t.mask .values = t'.mask .values := by
  cases t <;> cases t' <;> simp only [ConflictTarget.same, beq_iff_eq, Bool.false_eq_true] at h
  case unspecified.unspecified => rfl
  case columns.columns => rw [h]
  case constraint.constraint => rw [h]
  case expr.expr e e' => rw [ConflictTarget.mask, ConflictTarget.mask, e.masksSame _ h]

theorem ConflictAction.mask_of_same {a a' : ConflictAction} (h : a.same a' = true) :
    a.mask .values = a'.mask .values := by
  cases a <;> cases a' <;>
    simp only [ConflictAction.same, Expr.sameOption_eq, Bool.and_eq_true, Bool.false_eq_true] at h
  case nothing.nothing => rfl
  case update.update =>
    simp only [ConflictAction.mask, Expr.maskOption_eq_map, ColumnUpdate.map_mask_of_same h.1,
      Expr.option_mask_of_same h.2]

theorem Conflict.mask_of_same {c c' : Conflict} (h : c.same c' = true) :
    c.mask .values = c'.mask .values := by
  simp only [Conflict.same, Expr.sameOption_eq, Bool.and_eq_true] at h
  obtain ⟨⟨htarget, hfilter⟩, haction⟩ := h
  simp only [Conflict.mask, Expr.maskOption_eq_map, ConflictTarget.mask_of_same htarget,
    Expr.option_mask_of_same hfilter, ConflictAction.mask_of_same haction]

theorem Insert.mask_of_same {i i' : Insert} (h : i.same i' = true) :
    i.mask .values = i'.mask .values := by
  simp only [Insert.same, Explain.sameOption_eq, Bool.and_eq_true, beq_iff_eq] at h
  obtain ⟨⟨⟨⟨⟨⟨⟨⟨hinto, hcolumns⟩, hsource⟩, hignore⟩, hreplace⟩, hconflict⟩, hduplicate⟩,
    hreturning⟩, hexplain⟩ := h
  simp only [Insert.mask, hinto, hcolumns, hignore, hreplace,
    map_eq_of_sameOption hsource fun _ _ _ => InsertSource.mask_of_same,
    map_eq_of_sameOption hconflict fun _ _ _ => Conflict.mask_of_same,
    map_eq_of_sameOption hduplicate fun _ _ _ => ColumnUpdate.map_mask_of_same,
    returning_mask_of_same hreturning, Explain.mask_of_same hexplain]

theorem Update.mask_of_same {u u' : Update} (h : u.same u' = true) :
    u.mask .values = u'.mask .values := by
  simp only [Update.same, Expr.sameOption_eq, Explain.sameOption_eq, Bool.and_eq_true,
    beq_iff_eq] at h
  obtain ⟨⟨⟨⟨htable, hupdates⟩, hfilter⟩, hreturning⟩, hexplain⟩ := h
  simp only [Update.mask, htable, ColumnUpdate.map_mask_of_same hupdates, Expr.maskOption_eq_map,
    Expr.option_mask_of_same hfilter, returning_mask_of_same hreturning,
    Explain.mask_of_same hexplain]

theorem Delete.mask_of_same {d d' : Delete} (h : d.same d' = true) :
    d.mask .values = d'.mask .values := by
  simp only [Delete.same, Expr.sameOption_eq, Explain.sameOption_eq, Bool.and_eq_true,
    beq_iff_eq] at h
  obtain ⟨⟨⟨hsource, hfilter⟩, hreturning⟩, hexplain⟩ := h
  simp only [Delete.mask, hsource, Expr.maskOption_eq_map, Expr.option_mask_of_same hfilter,
    returning_mask_of_same hreturning, Explain.mask_of_same hexplain]

namespace Query

theorem mask_of_same {q q' : Query} (h : q.same q' = true) : q.mask .values = q'.mask .values := by
  cases q <;> cases q' <;> simp only [same, Bool.false_eq_true] at h
  case select.select => exact congrArg select (Select.mask_of_same h)
  case insert.insert => exact congrArg insert (Insert.mask_of_same h)
  case update.update => exact congrArg update (Update.mask_of_same h)
  case delete.delete => exact congrArg delete (Delete.mask_of_same h)

/-- Statements that are the same have the same text, or fail alike, in every dialect. -/
theorem text_compile_of_same {q q' : Query} (h : q.same q' = true) (d : Dialect) :
    (q.compile d).map Sql.text = (q'.compile d).map Sql.text :=
  text_compile_of_mask d (mask_of_same h)

end Query

end SqlWeave
