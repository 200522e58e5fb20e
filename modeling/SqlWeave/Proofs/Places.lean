import SqlWeave.Proofs.Subtree

/-!
# Places inside a statement

A statement around a place for a select is data: what stands around the place, from the root down to
it.  The statement is there once a select fills the place.  The main statement is
`Query.Nests.exists_around`: every select that is written inside a statement fills a place of it.
-/

namespace SqlWeave

/-! ## Places -/

/-- A place for an expression in a larger one. -/
inductive Expr.Place where
  | param (fragments : List String) (before after : List Expr)
  | left (op : BinaryOp) (other : Expr)
  | right (other : Expr) (op : BinaryOp)
  | operand (op : UnaryOp)
  | arg (name : String) (before after : List Expr)
  | labelled (label : String)
  | item (before after : List Expr)

def Expr.Place.put : Expr.Place → Expr → Expr
  | .param fragments before after, e => .raw fragments (before ++ e :: after)
  | .left op other, e => .binary e op other
  | .right other op, e => .binary other op e
  | .operand op, e => .unary op e
  | .arg name before after, e => .call name (before ++ e :: after)
  | .labelled label, e => .aliased e label
  | .item before after, e => .list (before ++ e :: after)

/-- Parameters beyond the last fragment of raw SQL are not written. -/
def Expr.Place.isWritten : Expr.Place → Bool
  | .param fragments before _ => before.length < fragments.length
  | _ => true

/-- A place for an expression in a clause of a select. -/
inductive Select.Place where
  | selection (before after : List Expr)
  | on (before : List Join) (kind : JoinKind) (source : Source) (after : List Join)
  | filter
  | groupBy (before after : List Expr)
  | having
  | orderBy (before : List OrderItem) (direction : Option Direction) (after : List OrderItem)
  | limit
  | offset

def Select.put (s : Select) : Select.Place → Expr → Select
  | .selection before after, e => { s with selections := before ++ e :: after }
  | .on before kind source after, e => { s with joins := before ++ ⟨kind, source, e⟩ :: after }
  | .filter, e => { s with filter := some e }
  | .groupBy before after, e => { s with groupBy := before ++ e :: after }
  | .having, e => { s with having := some e }
  | .orderBy before direction after, e => { s with orderBy := before ++ ⟨e, direction⟩ :: after }
  | .limit, e => { s with limit := some e }
  | .offset, e => { s with offset := some e }

/-- A place for a select among the sources or the joins of another. -/
inductive Select.SourcePlace where
  | source (before : List Source) (label : String) (after : List Source)
  | join (before : List Join) (kind : JoinKind) (label : String) (on : Expr) (after : List Join)

def Select.putSource (s : Select) : Select.SourcePlace → Select → Select
  | .source before label after, t => { s with sources := before ++ .subquery t label :: after }
  | .join before kind label on after, t =>
    { s with joins := before ++ ⟨kind, .subquery t label, on⟩ :: after }

inductive Conflict.Place where
  | target
  | indexFilter
  | update (before : List ColumnUpdate) (column : String) (after : List ColumnUpdate)
      (filter : Option Expr)
  | filter (updates : List ColumnUpdate)

def Conflict.put (c : Conflict) : Conflict.Place → Expr → Conflict
  | .target, e => { c with target := .expr e }
  | .indexFilter, e => { c with indexFilter := some e }
  | .update before column after filter, e =>
    { c with action := .update (before ++ ⟨column, e⟩ :: after) filter }
  | .filter updates, e => { c with action := .update updates (some e) }

inductive Insert.Place where
  | cell (above : List (List Expr)) (before after : List Expr) (below : List (List Expr))
  | source
  | conflict (c : Conflict) (p : Conflict.Place)
  | duplicateKey (before : List ColumnUpdate) (column : String) (after : List ColumnUpdate)
  | returning (before after : List Expr)

def Insert.put (i : Insert) : Insert.Place → Expr → Insert
  | .cell above before after below, e =>
    { i with source := some (.rows (above ++ (before ++ e :: after) :: below)) }
  | .source, e => { i with source := some (.expr e) }
  | .conflict c p, e => { i with onConflict := some (c.put p e) }
  | .duplicateKey before column after, e =>
    { i with onDuplicateKey := some (before ++ ⟨column, e⟩ :: after) }
  | .returning before after, e => { i with returning := some (before ++ e :: after) }

/-- Rows are not written without columns. -/
def Insert.writes (i : Insert) : Insert.Place → Bool
  | .cell .. => !i.writtenColumns.isEmpty
  | _ => true

inductive Update.Place where
  | update (before : List ColumnUpdate) (column : String) (after : List ColumnUpdate)
  | filter
  | returning (before after : List Expr)

def Update.put (u : Update) : Update.Place → Expr → Update
  | .update before column after, e => { u with updates := before ++ ⟨column, e⟩ :: after }
  | .filter, e => { u with filter := some e }
  | .returning before after, e => { u with returning := some (before ++ e :: after) }

/-- Nothing is written of an update that sets nothing. -/
def Update.writes (u : Update) : Update.Place → Bool
  | .update .. => true
  | _ => !u.updates.isEmpty

inductive Delete.Place where
  | filter
  | returning (before after : List Expr)

def Delete.put (d : Delete) : Delete.Place → Expr → Delete
  | .filter, e => { d with filter := some e }
  | .returning before after, e => { d with returning := some (before ++ e :: after) }

/-- The statement with another request to explain it, or with none. -/
def Query.withExplain (explain : Option Explain) : Query → Query
  | .select s => .select { s with explain }
  | .insert i => .insert { i with explain }
  | .update u => .update { u with explain }
  | .delete d => .delete { d with explain }

/-! ## What stands around a select -/

mutual

/-- An expression around a place for a select. -/
inductive Expr.Around where
  | subquery (s : Select.Around)
  | place (p : Expr.Place) (e : Expr.Around)

/-- A select around a place for another, or the place itself. -/
inductive Select.Around where
  | here
  | place (s : Select) (p : Select.Place) (e : Expr.Around)
  | source (s : Select) (p : Select.SourcePlace) (t : Select.Around)
  /-- In the options of a request to explain the select. -/
  | explain (s : Select) (format : Option String) (e : Expr.Around)

end

/-- A statement around a place for a select.  A select at the root is around its parts, but not
around itself. -/
inductive Query.Around where
  | select (s : Select) (p : Select.Place) (e : Expr.Around)
  | source (s : Select) (p : Select.SourcePlace) (t : Select.Around)
  | insert (i : Insert) (p : Insert.Place) (e : Expr.Around)
  | update (u : Update) (p : Update.Place) (e : Expr.Around)
  | delete (d : Delete) (p : Delete.Place) (e : Expr.Around)
  | explain (q : Query) (format : Option String) (e : Expr.Around)

mutual

/-- The expression with a select in its place. -/
def Expr.Around.fill (x : Select) : Expr.Around → Expr
  | .subquery s => .subquery (s.fill x)
  | .place p e => p.put (e.fill x)

def Select.Around.fill (x : Select) : Select.Around → Select
  | .here => x
  | .place s p e => s.put p (e.fill x)
  | .source s p t => s.putSource p (t.fill x)
  | .explain s format e => { s with explain := some ⟨format, some (e.fill x)⟩ }

end

def Query.Around.fill (x : Select) : Query.Around → Query
  | .select s p e => .select (s.put p (e.fill x))
  | .source s p t => .select (s.putSource p (t.fill x))
  | .insert i p e => .insert (i.put p (e.fill x))
  | .update u p e => .update (u.put p (e.fill x))
  | .delete d p e => .delete (d.put p (e.fill x))
  | .explain q format e => q.withExplain (some ⟨format, some (e.fill x)⟩)

mutual

/-- Whether a select in the place is written. -/
def Expr.Around.isWritten : Expr.Around → Bool
  | .subquery s => s.isWritten
  | .place p e => p.isWritten && e.isWritten

/-- A request to explain a select inside a statement is not written. -/
def Select.Around.isWritten : Select.Around → Bool
  | .here => true
  | .place _ _ e => e.isWritten
  | .source _ _ t => t.isWritten
  | .explain .. => false

end

def Query.Around.isWritten : Query.Around → Bool
  | .select _ _ e => e.isWritten
  | .source _ _ t => t.isWritten
  | .insert i p e => i.writes p && e.isWritten
  | .update u p e => u.writes p && e.isWritten
  | .delete _ _ e => e.isWritten
  | .explain _ _ e => e.isWritten

theorem Query.withExplain_self (q : Query) : q.withExplain q.explain = q := by
  cases q with
  | select s => cases s; rfl
  | insert i => rfl
  | update u => rfl
  | delete d => rfl

/-! ## Every select inside -/

theorem Expr.exists_place {e : Expr} {u : Subtree} (h : u ∈ e.parts) :
    (∃ (p : Expr.Place) (x : Expr), u = .expr x ∧ p.isWritten = true ∧ p.put x = e) ∨
      ∃ s, u = .select s ∧ e = .subquery s := by
  cases e with
  | raw fragments params =>
    obtain ⟨x, hx, rfl⟩ := List.mem_map.mp h
    obtain ⟨left, right, htake⟩ := List.append_of_mem hx
    have hlength : left.length < fragments.length := by
      have hle := List.length_take_le fragments.length params
      rw [htake, List.length_append, List.length_cons] at hle
      omega
    refine .inl ⟨.param fragments left (right ++ params.drop fragments.length), x, rfl,
      decide_eq_true hlength, ?_⟩
    rw [Place.put, ← List.cons_append, ← List.append_assoc, ← htake, List.take_append_drop]
  | binary left op right =>
    rcases List.mem_pair.mp h with rfl | rfl
    · exact .inl ⟨.left op right, left, rfl, rfl, rfl⟩
    · exact .inl ⟨.right left op, right, rfl, rfl, rfl⟩
  | unary op x =>
    rw [List.mem_singleton.mp h]
    exact .inl ⟨.operand op, x, rfl, rfl, rfl⟩
  | call name args =>
    obtain ⟨x, hx, rfl⟩ := List.mem_map.mp h
    obtain ⟨left, right, rfl⟩ := List.append_of_mem hx
    exact .inl ⟨.arg name left right, x, rfl, rfl, rfl⟩
  | aliased x label =>
    rw [List.mem_singleton.mp h]
    exact .inl ⟨.labelled label, x, rfl, rfl, rfl⟩
  | list items =>
    obtain ⟨x, hx, rfl⟩ := List.mem_map.mp h
    obtain ⟨left, right, rfl⟩ := List.append_of_mem hx
    exact .inl ⟨.item left right, x, rfl, rfl, rfl⟩
  | subquery s => exact .inr ⟨s, List.mem_singleton.mp h, rfl⟩
  | reference | value | star | defaultMarker => exact absurd h List.not_mem_nil

/-- Whether some place of the select holds the part. -/
def Select.HasPlace (s : Select) : Subtree → Prop
  | .expr e => ∃ p, s.put p e = s
  | .select t => ∃ p, s.putSource p t = s

theorem Select.hasPlace_of_mem (s : Select) : ∀ u ∈ s.parts, s.HasPlace u := by
  obtain ⟨sources, selections, distinct, joins, filter, groupBy, having, orderBy, limit, offset,
    explain⟩ := s
  refine (forall_parts _).mpr ⟨?_, ?_, ?_, ?_, ?_, ?_, ?_, ?_, ?_⟩
  · intro x hx u hu
    obtain ⟨left, right, rfl⟩ := List.append_of_mem hx
    cases x with
    | table t label => exact absurd hu List.not_mem_nil
    | subquery t label =>
      rw [List.mem_singleton.mp hu]
      exact ⟨.source left label right, rfl⟩
  · intro e he
    obtain ⟨left, right, rfl⟩ := List.append_of_mem he
    exact ⟨.selection left right, rfl⟩
  · rintro ⟨kind, source, on⟩ hj
    obtain ⟨left, right, rfl⟩ := List.append_of_mem hj
    refine ⟨fun u hu => ?_, .on left kind source right, rfl⟩
    cases source with
    | table t label => exact absurd hu List.not_mem_nil
    | subquery t label =>
      rw [List.mem_singleton.mp hu]
      exact ⟨.join left kind label on right, rfl⟩
  · rintro e ⟨⟩
    exact ⟨.filter, rfl⟩
  · intro e he
    obtain ⟨left, right, rfl⟩ := List.append_of_mem he
    exact ⟨.groupBy left right, rfl⟩
  · rintro e ⟨⟩
    exact ⟨.having, rfl⟩
  · rintro ⟨e, direction⟩ hi
    obtain ⟨left, right, rfl⟩ := List.append_of_mem hi
    exact ⟨.orderBy left direction right, rfl⟩
  · rintro e ⟨⟩
    exact ⟨.limit, rfl⟩
  · rintro e ⟨⟩
    exact ⟨.offset, rfl⟩

/-- The tree is written around the select. -/
def Subtree.IsAround (x : Select) : Subtree → Prop
  | .expr e => ∃ a : Expr.Around, a.isWritten = true ∧ a.fill x = e
  | .select s => ∃ a : Select.Around, a.isWritten = true ∧ a.fill x = s

theorem Subtree.Has.isAround {x : Select} {t : Subtree} (h : t.Has (.select x)) :
    t.IsAround x := by
  induction h using Relation.ReflTransGen.head_induction_on with
  | refl => exact ⟨.here, rfl, rfl⟩
  | @head t u hu _ ih =>
    cases t with
    | expr e =>
      rcases Expr.exists_place hu with ⟨p, y, rfl, hp, rfl⟩ | ⟨s, rfl, rfl⟩
      · obtain ⟨a, ha, rfl⟩ := ih
        exact ⟨.place p a, by rw [Expr.Around.isWritten, hp, ha]; rfl, rfl⟩
      · obtain ⟨a, ha, rfl⟩ := ih
        exact ⟨.subquery a, ha, rfl⟩
    | select s =>
      have hplace := s.hasPlace_of_mem u hu
      cases u with
      | expr e =>
        obtain ⟨p, hp⟩ := hplace
        obtain ⟨a, ha, rfl⟩ := ih
        exact ⟨.place s p a, ha, hp⟩
      | select t =>
        obtain ⟨p, hp⟩ := hplace
        obtain ⟨a, ha, rfl⟩ := ih
        exact ⟨.source s p a, ha, hp⟩

theorem exists_update_of_mem {updates : List ColumnUpdate} {e : Expr}
    (h : e ∈ updates.map ColumnUpdate.value) :
    ∃ left column right, updates = left ++ ⟨column, e⟩ :: right := by
  obtain ⟨⟨column, value⟩, hmem, rfl⟩ := List.mem_map.mp h
  obtain ⟨left, right, hsplit⟩ := List.append_of_mem hmem
  exact ⟨left, column, right, hsplit⟩

theorem Conflict.exists_place {c : Conflict} {e : Expr} (h : e ∈ c.exprs) :
    ∃ p, c.put p e = c := by
  obtain ⟨target, indexFilter, action⟩ := c
  rw [exprs, List.mem_append, List.mem_append] at h
  rcases h with (h | h) | h
  · cases target with
    | expr x =>
      rw [List.mem_singleton.mp h]
      exact ⟨.target, rfl⟩
    | _ => exact absurd h List.not_mem_nil
  · cases Option.mem_toList.mp h
    exact ⟨.indexFilter, rfl⟩
  · cases action with
    | nothing => exact absurd h List.not_mem_nil
    | update updates filter =>
      rcases List.mem_append.mp h with h | h
      · obtain ⟨left, column, right, rfl⟩ := exists_update_of_mem h
        exact ⟨.update left column right filter, rfl⟩
      · cases Option.mem_toList.mp h
        exact ⟨.filter updates, rfl⟩

theorem Insert.writtenSource_eq_some {i : Insert} {source : InsertSource}
    (h : i.writtenSource = some source) :
    i.source = some source ∧ ∀ rows, source = .rows rows → i.writtenColumns ≠ [] := by
  unfold writtenSource at h
  split at h
  · exact nomatch h
  · next hrows => exact ⟨h, fun rows hsource hnil => hrows rows (hsource ▸ h) hnil⟩

theorem Insert.exists_place {i : Insert} {e : Expr} (h : e ∈ i.written) :
    ∃ p, i.writes p = true ∧ i.put p e = i := by
  rw [written, exprs, List.mem_append, List.mem_append, List.mem_append] at h
  rcases h with ((h | h) | h) | h
  · obtain ⟨source, hsource, he⟩ := List.mem_flatMap.mp h
    obtain ⟨hi, hcolumns⟩ := writtenSource_eq_some (Option.mem_toList.mp hsource)
    cases source with
    | rows rows =>
      obtain ⟨row, hrow, hcell⟩ := List.mem_flatten.mp he
      obtain ⟨above, below, rfl⟩ := List.append_of_mem hrow
      obtain ⟨left, right, rfl⟩ := List.append_of_mem hcell
      refine ⟨.cell above left right below, ?_, ?_⟩
      · simpa [writes] using hcolumns _ rfl
      · rw [put, ← hi]
    | expr x =>
      rw [List.mem_singleton.mp he]
      exact ⟨.source, rfl, by rw [put, ← hi]⟩
    | defaults => exact absurd he List.not_mem_nil
  · obtain ⟨c, hc, he⟩ := List.mem_flatMap.mp h
    obtain ⟨p, hp⟩ := Conflict.exists_place he
    refine ⟨.conflict c p, rfl, ?_⟩
    rw [put, hp, ← Option.mem_toList.mp hc]
  · cases hupdates : i.onDuplicateKey with
    | none => rw [hupdates] at h; exact absurd h List.not_mem_nil
    | some updates =>
      rw [hupdates] at h
      obtain ⟨left, column, right, rfl⟩ := exists_update_of_mem h
      exact ⟨.duplicateKey left column right, rfl, by rw [put, ← hupdates]⟩
  · cases hreturning : i.returning with
    | none => rw [hreturning] at h; exact absurd h List.not_mem_nil
    | some selections =>
      rw [hreturning] at h
      obtain ⟨left, right, rfl⟩ := List.append_of_mem h
      exact ⟨.returning left right, rfl, by rw [put, ← hreturning]⟩

theorem Update.exists_place {u : Update} {e : Expr} (h : e ∈ u.written) :
    ∃ p, u.writes p = true ∧ u.put p e = u := by
  obtain ⟨table, updates, filter, returning, explain⟩ := u
  unfold written at h
  split at h
  · exact absurd h List.not_mem_nil
  · next hne =>
    have hwrites : (!updates.isEmpty) = true := by simpa using hne
    rw [exprs, List.mem_append, List.mem_append] at h
    rcases h with (h | h) | h
    · obtain ⟨left, column, right, rfl⟩ := exists_update_of_mem h
      exact ⟨.update left column right, rfl, rfl⟩
    · cases Option.mem_toList.mp h
      exact ⟨.filter, hwrites, rfl⟩
    · cases returning with
      | none => exact absurd h List.not_mem_nil
      | some selections =>
        obtain ⟨left, right, rfl⟩ := List.append_of_mem h
        exact ⟨.returning left right, hwrites, rfl⟩

theorem Delete.exists_place {d : Delete} {e : Expr} (h : e ∈ d.exprs) : ∃ p, d.put p e = d := by
  obtain ⟨source, filter, returning, explain⟩ := d
  rcases List.mem_append.mp h with h | h
  · cases Option.mem_toList.mp h
    exact ⟨.filter, rfl⟩
  · cases returning with
    | none => exact absurd h List.not_mem_nil
    | some selections =>
      obtain ⟨left, right, rfl⟩ := List.append_of_mem h
      exact ⟨.returning left right, rfl⟩

/-- The select is written somewhere inside the statement. -/
def Query.Nests (q : Query) (x : Select) : Prop :=
  ∃ t ∈ q.parts, ∃ u ∈ t.parts, u.Has (.select x)

-- Every select that is written inside a statement fills a place of it.
theorem Query.Nests.exists_around {q : Query} {x : Select} (h : q.Nests x) :
    ∃ a : Query.Around, a.isWritten = true ∧ a.fill x = q := by
  obtain ⟨t, ht, u, hu, hx⟩ := h
  have hinside : t.IsAround x := Subtree.Has.isAround (.head hu hx)
  rcases List.mem_append.mp ht with ht | ht
  · obtain ⟨e, he, rfl⟩ := List.mem_map.mp ht
    obtain ⟨⟨format, options⟩, hexplain, hoptions⟩ := List.mem_flatMap.mp he
    cases Option.mem_toList.mp hoptions
    obtain ⟨a, ha, rfl⟩ := hinside
    refine ⟨.explain q format a, ha, ?_⟩
    rw [Around.fill, ← Option.mem_toList.mp hexplain, withExplain_self]
  · cases q with
    | select s =>
      rw [List.mem_singleton.mp ht] at hu
      have hplace := s.hasPlace_of_mem u hu
      have haround := hx.isAround
      cases u with
      | expr e =>
        obtain ⟨p, hp⟩ := hplace
        obtain ⟨a, ha, rfl⟩ := haround
        exact ⟨.select s p a, ha, congrArg Query.select hp⟩
      | select t =>
        obtain ⟨p, hp⟩ := hplace
        obtain ⟨a, ha, rfl⟩ := haround
        exact ⟨.source s p a, ha, congrArg Query.select hp⟩
    | insert i =>
      obtain ⟨e, he, rfl⟩ := List.mem_map.mp ht
      obtain ⟨p, hwrites, hp⟩ := Insert.exists_place he
      obtain ⟨a, ha, rfl⟩ := hinside
      exact ⟨.insert i p a, by rw [Around.isWritten, hwrites, ha]; rfl, congrArg Query.insert hp⟩
    | update u =>
      obtain ⟨e, he, rfl⟩ := List.mem_map.mp ht
      obtain ⟨p, hwrites, hp⟩ := Update.exists_place he
      obtain ⟨a, ha, rfl⟩ := hinside
      exact ⟨.update u p a, by rw [Around.isWritten, hwrites, ha]; rfl, congrArg Query.update hp⟩
    | delete d =>
      obtain ⟨e, he, rfl⟩ := List.mem_map.mp ht
      obtain ⟨p, hp⟩ := Delete.exists_place he
      obtain ⟨a, ha, rfl⟩ := hinside
      exact ⟨.delete d p a, ha, congrArg Query.delete hp⟩

end SqlWeave
