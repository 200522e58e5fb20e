import SqlWeave.Proofs.Merging

/-!
# Names that are given again

A name that is given again keeps the place where it was given first, and takes the new value.  So a
map holds the names of its pairs in the order of their first pairs, each with the value of its last
pair.  The columns of an assignment are such names without the blanks around them, and what is read
off an assignment finds nothing to trim.
-/

namespace SqlWeave

/-! ## What is left of a text -/

namespace Text

/-- The second text is the first without the blanks at its ends. -/
structure Trims (s t : String) : Prop where
  blanks : ∃ front back, s.toList = front ++ t.toList ++ back ∧
    ∀ c ∈ front ++ back, isBlank c = true
  first : ∀ c ∈ t.toList.head?, isBlank c = false
  last : ∀ c ∈ t.toList.getLast?, isBlank c = false

theorem exists_append_trimStart (cs : List Char) :
    ∃ front, cs = front ++ trimStart cs ∧ ∀ c ∈ front, isBlank c = true :=
  ⟨cs.takeWhile isBlank, List.takeWhile_append_dropWhile.symm, fun _ => List.mem_takeWhile_imp⟩

theorem exists_trimEnd_append (cs : List Char) :
    ∃ back, cs = trimEnd cs ++ back ∧ ∀ c ∈ back, isBlank c = true := by
  obtain ⟨front, hcs, hfront⟩ := exists_append_trimStart cs.reverse
  refine ⟨front.reverse, ?_, fun c hc => hfront c (List.mem_reverse.mp hc)⟩
  rw [trimEnd, ← List.reverse_append, ← trimStart, ← hcs, List.reverse_reverse]

theorem not_isBlank_head_trimStart {cs : List Char} {c : Char} (h : c ∈ (trimStart cs).head?) :
    isBlank c = false := by
  have hhead := List.head?_dropWhile_not isBlank cs
  rw [← trimStart, Option.mem_def.mp h] at hhead
  exact hhead

theorem trims_trim (s : String) : Trims s (trim s) := by
  obtain ⟨front, hfront, hblank⟩ := exists_append_trimStart s.toList
  obtain ⟨back, hback, hblank'⟩ := exists_trimEnd_append (trimStart s.toList)
  have htrim : (trim s).toList = trimEnd (trimStart s.toList) := String.toList_ofList
  constructor
  · refine ⟨front, back, ?_, fun c hc => (List.mem_append.mp hc).elim (hblank c) (hblank' c)⟩
    rw [htrim, List.append_assoc, ← hback, ← hfront]
  · intro c hc
    rw [htrim, ← trimStart_trimEnd] at hc
    exact not_isBlank_head_trimStart hc
  · intro c hc
    rw [htrim, trimEnd, List.getLast?_reverse] at hc
    exact not_isBlank_head_trimStart hc

end Text

/-! ## Maps and what was put in them -/

namespace OrderedMap

variable {α : Type}

/-- The map has the names of the pairs without repetition, in the order of their first pairs, and
each name has the value of its last pair. -/
structure Keeps (m : OrderedMap α) (pairs : List (String × α)) : Prop where
  names : FirstSeen (pairs.map Prod.fst) m.names
  values : ∀ name value, m.get? name = some value ↔
    ∃ before after, pairs = before ++ (name, value) :: after ∧ name ∉ after.map Prod.fst

theorem lookup_reverse_eq_some_iff {pairs : List (String × α)} {name : String} {value : α} :
    pairs.reverse.lookup name = some value ↔
      ∃ before after, pairs = before ++ (name, value) :: after ∧ name ∉ after.map Prod.fst := by
  have hnew (entries : List (String × α)) :
      (∀ p ∈ entries.reverse, (name != p.1) = true) ↔ name ∉ entries.map Prod.fst := by
    simp only [List.mem_reverse, bne_iff_ne, List.mem_map, not_exists, not_and, ne_comm]
  rw [List.lookup_eq_some_iff]
  constructor
  · rintro ⟨after, before, hpairs, hafter⟩
    refine ⟨before.reverse, after.reverse, ?_, ?_⟩
    · rw [← List.reverse_reverse pairs, hpairs]
      simp
    · rwa [← hnew, List.reverse_reverse]
  · rintro ⟨before, after, rfl, hafter⟩
    exact ⟨after.reverse, before.reverse, by simp, (hnew after).mpr hafter⟩

theorem keeps_ofList (pairs : List (String × α)) : (ofList pairs).Keeps pairs where
  names := firstSeen_ofList pairs
  values name value := by rw [get?_ofList, lookup_reverse_eq_some_iff]

-- Insertions go on from the pairs that a map was made of.
theorem foldl_insert (m : OrderedMap α) (pairs : List (String × α)) :
    pairs.foldl (fun m pair => m.insert pair.1 pair.2) m = ofList (m.entries ++ pairs) := by
  have hm : ofList m.entries = m := by
    have hentries := entries_ofList m.nodup
    cases h : ofList m.entries
    cases m
    simp_all
  rw [ofList, List.foldl_append, ← ofList, hm]

end OrderedMap

namespace Assignments

theorem ofSettings_eq (settings : List (String × Expr)) :
    ofSettings settings =
      .ofList (settings.map fun (column, value) => (Text.trim column, value)) := by
  rw [ofSettings, OrderedMap.ofList, List.foldl_map]
  rfl

theorem keeps_ofSettings (settings : List (String × Expr)) :
    (ofSettings settings).Keeps
      (settings.map fun (column, value) => (Text.trim column, value)) := by
  rw [ofSettings_eq]
  exact OrderedMap.keeps_ofList _

theorem entries_ofSettings_ne_nil {settings : List (String × Expr)} (h : settings ≠ []) :
    (ofSettings settings).entries ≠ [] := by
  obtain ⟨setting, hsetting⟩ := List.exists_mem_of_ne_nil _ h
  have hname : Text.trim setting.1 ∈ (ofSettings settings).names := by
    rw [(keeps_ofSettings settings).names.mem_iff]
    exact List.mem_map.mpr ⟨_, List.mem_map.mpr ⟨setting, hsetting, rfl⟩, rfl⟩
  exact fun hnil => List.ne_nil_of_mem hname (List.map_eq_nil_iff.mpr hnil)

-- The names are trimmed once, when they are set.
theorem updates_ofSettings (settings : List (String × Expr)) :
    (ofSettings settings).updates =
      if settings = [] then .error (.shape .emptyUpdate)
      else .ok ((ofSettings settings).entries.map fun (column, value) => ⟨column, value⟩) := by
  split
  · next hnil =>
    rw [hnil]
    rfl
  · next hne =>
    have hentries := entries_ofSettings_ne_nil hne
    rw [updates, OrderedMap.isEmpty, if_neg (mt List.isEmpty_iff.mp hentries)]
    refine congrArg Except.ok (List.map_congr_left fun (column, value) hentry => ?_)
    have hname : column ∈ (ofSettings settings).names := List.mem_map.mpr ⟨_, hentry, rfl⟩
    show (⟨Shorthand.columnName column, value⟩ : ColumnUpdate) = ⟨column, value⟩
    rw [columnName_of_mem hname]

end Assignments

/-! ## Main statement -/

/-- Trimming takes off the blanks at both ends and nothing else.  Settings keep the trimmed names,
which have nothing left to trim, and as updates they are the same columns and values in the same
order; there have to be some.  A row keeps the names that are inserted as they are, whether it is
put together at once or goes on from what it held. -/
theorem names_keep_first_place_and_last_value :
    (∀ s, Text.Trims s (Text.trim s)) ∧
    (∀ settings : List (String × Expr),
      let a := Assignments.ofSettings settings
      a.Keeps (settings.map fun (column, value) => (Text.trim column, value)) ∧
      (∀ name ∈ a.names, Text.trim name = name ∧ Shorthand.columnName name = name) ∧
      a.updates =
        if settings = [] then .error (.shape .emptyUpdate)
        else .ok (a.entries.map fun (column, value) => ⟨column, value⟩)) ∧
    ∀ pairs : List (String × Value),
      (OrderedMap.ofList pairs : Row).Keeps pairs ∧
      ∀ row : Row, (pairs.foldl (fun row pair => row.insert pair.1 pair.2) row).Keeps
        (row.entries ++ pairs) := by
  refine ⟨Text.trims_trim, fun settings => ⟨Assignments.keeps_ofSettings settings, ?_,
    Assignments.updates_ofSettings settings⟩, fun pairs => ⟨OrderedMap.keeps_ofList pairs, ?_⟩⟩
  · intro name hname
    have htrimmed := Assignments.columnName_of_mem hname
    exact ⟨htrimmed, htrimmed⟩
  · intro row
    rw [OrderedMap.foldl_insert]
    exact OrderedMap.keeps_ofList _

-- A column that is set again with other blanks around its name.
theorem names_keep_first_place_and_last_value_padded :
    let settings : List (String × Expr) :=
      [(" a", .value (.int 1)), ("b", .value (.int 2)), ("a\u2003", .value (.int 3))]
    let a := Assignments.ofSettings settings
    "a" ∈ a.names ∧ Text.trim "a" = "a" ∧ a.get? "a" = some (.value (.int 3)) ∧
      a.updates = .ok [⟨"a", .value (.int 3)⟩, ⟨"b", .value (.int 2)⟩] := by
  intro settings a
  obtain ⟨-, hsettings, -⟩ := names_keep_first_place_and_last_value
  obtain ⟨hkeeps, htrimmed, hupdates⟩ := hsettings settings
  have hname : "a" ∈ a.names := by decide
  refine ⟨hname, (htrimmed "a" hname).1, (hkeeps.values _ _).mpr ?_, hupdates⟩
  exact ⟨[("a", .value (.int 1)), ("b", .value (.int 2))], [], rfl, List.not_mem_nil⟩

end SqlWeave
