import SqlWeave.Proofs.Hooks
import SqlWeave.Proofs.Rewriting
import SqlWeave.Proofs.Subtree

/-!
# Parts of rewritten statements

What is written inside a statement is rewritten with it, at any depth.  What stands in a request to
explain the statement is not.
-/

namespace SqlWeave

section

variable (r : Rewrite)

/-! ## Inside expressions and selects -/

def Subtree.rewrite : Subtree → Subtree
  | .expr e => .expr (e.rewrite r)
  | .select s => .select (s.rewrite r)

theorem Source.parts_rewrite (x : Source) :
    (x.rewrite r).parts = x.parts.map (Subtree.rewrite r) := by
  cases x <;> simp [Source.rewrite, Source.parts, Subtree.rewrite]

theorem Expr.parts_rewrite (e : Expr) : (e.rewrite r).parts = e.parts.map (Subtree.rewrite r) := by
  cases e <;>
    simp [Expr.rewrite, Expr.parts, Subtree.rewrite, List.map_take, Function.comp_def]

theorem Select.parts_rewrite (s : Select) :
    (s.rewrite r).parts = s.parts.map (Subtree.rewrite r) := by
  rw [Select.rewrite_eq]
  simp [Select.parts, Subtree.rewrite, List.map_flatMap, List.flatMap_map, Source.parts_rewrite,
    Join.rewrite_eq, OrderItem.rewrite_eq, Function.comp_def, Option.toList_map]

theorem Subtree.parts_rewrite (t : Subtree) :
    (t.rewrite r).parts = t.parts.map (Subtree.rewrite r) := by
  cases t with
  | expr e => exact e.parts_rewrite r
  | select s => exact s.parts_rewrite r

-- What is written inside a tree is rewritten with it.
theorem Subtree.Has.rewrite {t u : Subtree} (h : t.Has u) : (t.rewrite r).Has (u.rewrite r) := by
  refine Relation.ReflTransGen.lift (Subtree.rewrite r) (fun t u hu => ?_) _ _ h
  show u.rewrite r ∈ (t.rewrite r).parts
  rw [Subtree.parts_rewrite]
  exact List.mem_map_of_mem hu

/-! ## Inside statements -/

theorem map_value_rewriteUpdates (updates : List ColumnUpdate) :
    (rewriteUpdates r updates).map ColumnUpdate.value =
      (updates.map ColumnUpdate.value).map (Expr.rewrite r) := by
  rw [rewriteUpdates, List.map_map, List.map_map]
  rfl

theorem InsertSource.exprs_rewrite (source : InsertSource) :
    (source.rewrite r).exprs = source.exprs.map (Expr.rewrite r) := by
  cases source with
  | rows cells =>
    have hlists : Expr.rewriteList r = List.map (Expr.rewrite r) :=
      funext (Expr.rewriteList_eq_map r)
    simp only [rewrite, exprs, hlists, List.map_flatten]
  | expr e => rfl
  | defaults => rfl

theorem Conflict.exprs_rewrite (c : Conflict) :
    (c.rewrite r).exprs = c.exprs.map (Expr.rewrite r) := by
  obtain ⟨target, indexFilter, action⟩ := c
  have htarget : (target.rewrite r).exprs = target.exprs.map (Expr.rewrite r) := by
    cases target <;> rfl
  have haction : (action.rewrite r).exprs = action.exprs.map (Expr.rewrite r) := by
    cases action with
    | nothing => rfl
    | update updates filter =>
      simp only [ConflictAction.rewrite, ConflictAction.exprs, map_value_rewriteUpdates,
        Expr.rewriteOption_eq_map, Option.toList_map, List.map_append]
  simp only [rewrite, exprs, htarget, haction, Expr.rewriteOption_eq_map, Option.toList_map,
    List.map_append]

theorem returning_getD_rewrite (returning : Option (List Expr)) :
    (returning.map (Expr.rewriteList r)).getD [] = (returning.getD []).map (Expr.rewrite r) := by
  cases returning with
  | none => rfl
  | some selections => exact Expr.rewriteList_eq_map r selections

theorem flatMap_exprs_rewrite {α : Type} {rewrite : α → α} {exprs : α → List Expr}
    (h : ∀ x, exprs (rewrite x) = (exprs x).map (Expr.rewrite r)) (o : Option α) :
    (o.map rewrite).toList.flatMap exprs = (o.toList.flatMap exprs).map (Expr.rewrite r) := by
  rw [Option.toList_map, List.flatMap_map, List.map_flatMap]
  exact List.flatMap_congr fun x _ => h x

theorem Insert.writtenSource_rewrite (i : Insert) :
    (i.rewrite r).writtenSource = i.writtenSource.map (InsertSource.rewrite r) := by
  have hsource : (i.rewrite r).source = i.source.map (InsertSource.rewrite r) := rfl
  unfold writtenSource
  rw [writtenColumns_rewrite, hsource]
  rcases i.source with _ | ⟨_ | _ | _⟩ <;> cases i.writtenColumns <;> rfl

theorem Insert.written_rewrite (i : Insert) :
    (i.rewrite r).written = i.written.map (Expr.rewrite r) := by
  have hsource : (i.rewrite r).writtenSource.toList.flatMap InsertSource.exprs =
      (i.writtenSource.toList.flatMap InsertSource.exprs).map (Expr.rewrite r) := by
    rw [writtenSource_rewrite]
    exact flatMap_exprs_rewrite r (InsertSource.exprs_rewrite r) i.writtenSource
  have hconflict : (i.onConflict.map (Conflict.rewrite r)).toList.flatMap Conflict.exprs =
      (i.onConflict.toList.flatMap Conflict.exprs).map (Expr.rewrite r) :=
    flatMap_exprs_rewrite r (Conflict.exprs_rewrite r) i.onConflict
  have hduplicate : ((i.onDuplicateKey.map (rewriteUpdates r)).getD []).map ColumnUpdate.value =
      ((i.onDuplicateKey.getD []).map ColumnUpdate.value).map (Expr.rewrite r) := by
    cases i.onDuplicateKey with
    | none => rfl
    | some updates => exact map_value_rewriteUpdates r updates
  simp only [written, exprs, List.map_append, ← hsource, ← hconflict, ← hduplicate,
    ← returning_getD_rewrite]
  rfl

theorem Update.written_rewrite (u : Update) :
    (u.rewrite r).written = u.written.map (Expr.rewrite r) := by
  have hexprs : (u.rewrite r).exprs = u.exprs.map (Expr.rewrite r) := by
    simp only [exprs, rewrite, map_value_rewriteUpdates, Expr.rewriteOption_eq_map,
      Option.toList_map, returning_getD_rewrite, List.map_append]
  have hempty : (u.rewrite r).updates.isEmpty = u.updates.isEmpty := List.isEmpty_map
  unfold written
  rw [hempty, hexprs, apply_ite (List.map (Expr.rewrite r))]
  rfl

theorem Delete.exprs_rewrite (d : Delete) :
    (d.rewrite r).exprs = d.exprs.map (Expr.rewrite r) := by
  simp only [exprs, rewrite, Expr.rewriteOption_eq_map, Option.toList_map, returning_getD_rewrite,
    List.map_append]

theorem Query.ownParts_rewrite (q : Query) :
    (q.rewrite r).ownParts = q.ownParts.map (Subtree.rewrite r) := by
  cases q with
  | select s => rfl
  | insert i => simp [rewrite, ownParts, Insert.written_rewrite, Subtree.rewrite]
  | update u => simp [rewrite, ownParts, Update.written_rewrite, Subtree.rewrite]
  | delete d => simp [rewrite, ownParts, Delete.exprs_rewrite, Subtree.rewrite]

namespace Query

/-- The expression is written somewhere in the statement itself, at any depth. -/
def Holds (q : Query) (e : Expr) : Prop := ∃ t ∈ q.ownParts, t.Has (.expr e)

variable {r}

theorem Holds.rewrite {q : Query} {e : Expr} (h : q.Holds e) :
    (q.rewrite r).Holds (e.rewrite r) := by
  obtain ⟨t, ht, hhas⟩ := h
  refine ⟨t.rewrite r, ?_, hhas.rewrite r⟩
  rw [ownParts_rewrite]
  exact List.mem_map_of_mem ht

-- So it is with the query hooks of plugins that rewrite names, one after the other.
theorem Holds.rewritten {plugins : List Plugin} {rewrites : List Rewrite} {q : Query} {e : Expr}
    (hplugins : plugins.map Plugin.onQuery = rewrites.map Query.rewrite) (h : q.Holds e) :
    (Plugin.rewritten plugins q).Holds (rewrites.foldl (fun e r => e.rewrite r) e) := by
  induction rewrites generalizing plugins q e with
  | nil =>
    obtain rfl := List.map_eq_nil_iff.mp hplugins
    exact h
  | cons r rest ih =>
    obtain ⟨p, plugins, rfl, hp, hrest⟩ := List.map_eq_cons_iff.mp hplugins
    show (Plugin.rewritten plugins (p.onQuery q)).Holds _
    rw [hp]
    exact ih hrest h.rewrite

end Query

end

end SqlWeave
