import SqlWeave.Proofs.Answering
import SqlWeave.Proofs.Keys
import SqlWeave.Proofs.Tabulating

/-!
# Columns that fall together

A row whose columns are renamed is put together anew, column by column.  Columns that come to have
one name are one column then, which stands where the first of them stood and holds the value of the
last; the other values are gone.  So a row keeps its values exactly if its columns have distinct
names in the end.
-/

namespace SqlWeave

/-! ## Maps of pairs -/

section

variable {α : Type}

-- Of two lists with the same members, the one without repetition is the shorter one.
theorem length_le_of_mem_iff {xs ys : List α} (hnodup : xs.Nodup) (h : ∀ x, x ∈ xs ↔ x ∈ ys) :
    xs.length ≤ ys.length :=
  (List.subperm_of_subset hnodup fun x hx => (h x).mp hx).length_le

theorem length_eq_iff_nodup {xs ys : List α} (hnodup : xs.Nodup) (h : ∀ x, x ∈ xs ↔ x ∈ ys) :
    xs.length = ys.length ↔ ys.Nodup := by
  constructor
  · intro hlength
    have hperm : xs.Perm ys :=
      (List.subperm_of_subset hnodup fun x hx => (h x).mp hx).perm_of_length_le hlength.ge
    exact hperm.nodup_iff.mp hnodup
  · exact fun hys => ((List.perm_ext_iff_of_nodup hnodup hys).mpr h).length_eq

end

namespace OrderedMap

variable {α : Type}

/-- The values, in the order of their names. -/
def values (m : OrderedMap α) : List α := m.entries.map Prod.snd

theorem length_values (m : OrderedMap α) : m.values.length = m.size := List.length_map _

theorem length_names (m : OrderedMap α) : m.names.length = m.size := List.length_map _

theorem ofList_append_singleton (pairs : List (String × α)) (pair : String × α) :
    ofList (pairs ++ [pair]) = (ofList pairs).insert pair.1 pair.2 := by
  rw [ofList, List.foldl_append]
  rfl

-- Every name is there, at the place of its first pair.
theorem firstSeen_ofList (pairs : List (String × α)) :
    FirstSeen (pairs.map Prod.fst) (ofList pairs).names := by
  induction pairs using List.reverseRecOn with
  | nil => exact ⟨fun _ => Iff.rfl, .nil⟩
  | append_singleton pairs pair ih =>
    have hfound {name : String} (h : name ∈ (ofList pairs).names) :
        ((pairs ++ [pair]).map Prod.fst).idxOf name = (pairs.map Prod.fst).idxOf name := by
      rw [List.map_append, List.idxOf_append_of_mem ((ih.mem_iff name).mp h)]
    have hordered : (ofList pairs).names.Pairwise fun a b =>
        ((pairs ++ [pair]).map Prod.fst).idxOf a < ((pairs ++ [pair]).map Prod.fst).idxOf b :=
      ih.ordered.imp_of_mem fun ha hb hab => by rwa [hfound ha, hfound hb]
    rw [ofList_append_singleton, names_insert]
    split
    · next hknown =>
      refine ⟨fun name => ?_, hordered⟩
      rw [ih.mem_iff, List.map_append, List.mem_append, iff_self_or]
      intro hname
      rw [List.mem_singleton.mp hname]
      exact (ih.mem_iff pair.1).mp hknown
    · next hnew =>
      refine ⟨fun name => ?_, List.pairwise_append.mpr ⟨hordered, List.pairwise_singleton _ _, ?_⟩⟩
      · rw [List.mem_append, ih.mem_iff, List.map_append, List.mem_append]
        rfl
      · intro a ha b hb
        rw [List.mem_singleton.mp hb, hfound ha, List.map_append,
          List.idxOf_append_of_notMem fun h => hnew ((ih.mem_iff pair.1).mpr h)]
        exact Nat.lt_add_right _ (List.idxOf_lt_length_of_mem ((ih.mem_iff a).mp ha))

-- The value of the last pair is the one that is found.
theorem get?_ofList (pairs : List (String × α)) (name : String) :
    (ofList pairs).get? name = pairs.reverse.lookup name := by
  induction pairs using List.reverseRecOn with
  | nil => rfl
  | append_singleton pairs pair ih =>
    rw [ofList_append_singleton, get?_insert, List.reverse_append, List.reverse_singleton,
      List.singleton_append, List.lookup_cons, ih]
    by_cases hname : name = pair.1
    · rw [if_pos hname, hname, beq_self_eq_true]
    · rw [if_neg hname, beq_eq_false_iff_ne.mpr hname]

end OrderedMap

/-! ## Rows renamed several times -/

/-- What becomes of a name under renames, one after the other. -/
def newName (renames : List (String → String)) (name : String) : String :=
  renames.foldl (fun name rename => rename name) name

theorem newName_replicate (n : Nat) (rename : String → String) :
    newName (List.replicate n rename) = rename^[n] := by
  funext name
  induction n generalizing name with
  | zero => rfl
  | succ n ih => exact ih (rename name)

namespace Row

/-- A row after renames of its columns, one after the other. -/
def renamed (renames : List (String → String)) (row : Row) : Row :=
  renames.foldl mapColumns row

variable (renames : List (String → String)) (row : Row)

theorem firstSeen_mapColumns (rename : String → String) :
    FirstSeen (row.names.map rename) (row.mapColumns rename).names := by
  rw [← map_fst_renaming]
  exact OrderedMap.firstSeen_ofList _

theorem mem_names_renamed (name : String) :
    name ∈ (row.renamed renames).names ↔ name ∈ row.names.map (newName renames) := by
  induction renames generalizing row with
  | nil =>
    rw [show newName [] = id from rfl, List.map_id]
    rfl
  | cons rename rest ih =>
    show name ∈ ((row.mapColumns rename).renamed rest).names ↔ _
    have hmem := (row.firstSeen_mapColumns rename).mem_iff
    rw [ih, show newName (rename :: rest) = newName rest ∘ rename from rfl, ← List.map_map,
      List.mem_map, List.mem_map]
    exact exists_congr fun column => and_congr_left' (hmem column)

variable {renames row}

theorem entries_renamed (h : (row.names.map (newName renames)).Nodup) :
    (row.renamed renames).entries =
      row.entries.map fun (column, value) => (newName renames column, value) := by
  induction renames generalizing row with
  | nil => exact (List.map_id _).symm
  | cons rename rest ih =>
    rw [show newName (rename :: rest) = newName rest ∘ rename from rfl, ← List.map_map] at h
    have hentries : (row.mapColumns rename).entries =
        row.entries.map fun (column, value) => (rename column, value) :=
      OrderedMap.entries_ofList (by rw [map_fst_renaming]; exact h.of_map _)
    have hnames : (row.mapColumns rename).names = row.names.map rename := by
      rw [OrderedMap.names, hentries, map_fst_renaming]
    show ((row.mapColumns rename).renamed rest).entries = _
    rw [ih (hnames ▸ h), hentries, List.map_map]
    rfl

variable (renames row)

theorem size_renamed_le : (row.renamed renames).size ≤ row.size := by
  have hle := length_le_of_mem_iff (row.renamed renames).names_nodup (row.mem_names_renamed renames)
  rwa [List.length_map, OrderedMap.length_names, OrderedMap.length_names] at hle

theorem size_renamed_eq_iff :
    (row.renamed renames).size = row.size ↔ (row.names.map (newName renames)).Nodup := by
  rw [← length_eq_iff_nodup (row.renamed renames).names_nodup (row.mem_names_renamed renames),
    List.length_map, OrderedMap.length_names, OrderedMap.length_names]

theorem values_renamed_eq_iff :
    (row.renamed renames).values = row.values ↔ (row.names.map (newName renames)).Nodup := by
  constructor
  · intro h
    rw [← size_renamed_eq_iff, ← OrderedMap.length_values, h, OrderedMap.length_values]
  · intro h
    rw [OrderedMap.values, entries_renamed h, List.map_map]
    rfl

end Row

/-! ## Hooks for camel case -/

namespace Text

-- A word with a capital at its start has it already.
theorem SmallWord.capitalWord_capitalWord {w : List Char} (h : SmallWord w) :
    capitalWord (capitalWord w) = capitalWord w := by
  have hsmall := h.small
  obtain ⟨a, b, rest, rfl, ha, -⟩ := h
  obtain ⟨-, -, x, hx, -, -, -, hidem⟩ := ascii_letter ha
  rw [List.forall_mem_cons] at hsmall
  rw [capitalWord, hx, lowerWord_small hsmall.2, List.singleton_append, capitalWord, hidem,
    lowerWord_small hsmall.2, List.singleton_append]

theorem camelCase_camelWords {ws : List (List Char)} (h : ∀ w ∈ ws, SmallWord w) :
    camelCase (String.ofList (camelWords ws)) = String.ofList (camelWords ws) := by
  cases ws with
  | nil => rfl
  | cons w rest =>
    rw [List.forall_mem_cons] at h
    have hrest : (rest.map capitalWord).map capitalWord = rest.map capitalWord := by
      rw [List.map_map]
      exact List.map_congr_left fun v hv => (h.2 v hv).capitalWord_capitalWord
    rw [camelCase, words_camelWords h.1 h.2, camelWords, camelWords, List.flatMap_def, hrest,
      ← List.flatMap_def]

variable {capitals : Bool} {column : String}

theorem IsColumn.exists_camelWords (h : IsColumn capitals column) :
    ∃ ws, (∀ w ∈ ws, SmallWord w) ∧ camelCase column = String.ofList (camelWords ws) := by
  obtain ⟨ws, hws, rfl⟩ := h
  cases capitals with
  | false =>
    have hsmall : ∀ w ∈ ws, SmallWord w := fun w hw => (hws w hw).1.smallWord
    exact ⟨ws, hsmall, camelCase_underscored hsmall⟩
  | true =>
    have hall : ∀ w ∈ ws, ColumnWord w ∧ HasCapitals w := fun w hw =>
      ⟨(hws w hw).1, (hws w hw).2 rfl⟩
    exact ⟨ws.map fun w => lowerWord (upperWord w),
      List.forall_mem_map.mpr fun w hw => (smallWord_lowerWord (hall w hw).1 (hall w hw).2).1,
      camelCase_underscored_upperWord hall⟩

-- After the first hook, the columns of a schema have their keys.
theorem IsColumn.iterate_camelCase (h : IsColumn capitals column) (n : Nat) :
    camelCase^[n + 1] column = camelCase column := by
  obtain ⟨ws, hws, hkey⟩ := h.exists_camelWords
  rw [Function.iterate_succ_apply, hkey]
  exact Function.iterate_fixed (camelCase_camelWords hws) n

end Text

theorem Row.nodup_of_columns {capitals : Bool} {row : Row}
    (h : ∀ c ∈ row.names, Text.IsColumn capitals c) (n : Nat) :
    (row.names.map Text.camelCase^[n]).Nodup := by
  cases n with
  | zero =>
    rw [Function.iterate_zero, List.map_id]
    exact row.names_nodup
  | succ n =>
    refine row.names_nodup.map_on fun c hc c' hc' heq => ?_
    rw [(h c hc).iterate_camelCase, (h c' hc').iterate_camelCase] at heq
    exact Plugin.camelCase_injective (h c' hc') (h c hc) heq

theorem Plugin.mapRows_camelCase (capitals : List Bool) :
    MapRows (capitals.map camelCase)
      (Row.renamed (List.replicate capitals.length Text.camelCase)) := by
  induction capitals with
  | nil => exact mapRows_nil
  | cons _ rest ih => exact .cons ih fun _ => rfl

/-! ## Main statement -/

/-- Renaming columns never adds one.  A row has as many columns as before, and it has its values in
their order, just if the new names are distinct; its columns are the renamed ones then.  Otherwise
columns of one new name become one, at the place of the first and with the value of the last.  Hooks
for camel case never fail and keep the number of rows; each row keeps its values just if its names
are distinct after all hooks, as are those of a schema in one case. -/
theorem values_survive_renaming_iff (renames : List (String → String)) (row : Row)
    (capitals : List Bool) (result : QueryResult) :
    (let row' := row.renamed renames
      let names := row.names.map (newName renames)
      row'.size ≤ row.size ∧ (row'.size = row.size ↔ names.Nodup) ∧
      (row'.values = row.values ↔ names.Nodup) ∧
      (names.Nodup → row'.entries =
        row.entries.map fun (column, value) => (newName renames column, value))) ∧
    (∀ rename : String → String,
      FirstSeen (row.names.map rename) (row.mapColumns rename).names ∧
      ∀ name, (row.mapColumns rename).get? name =
        (row.entries.map fun (column, value) => (rename column, value)).reverse.lookup name) ∧
    ∃ out, Plugin.revised (capitals.map Plugin.camelCase) result = .ok out ∧
      out.insertId = result.insertId ∧ out.affectedRows = result.affectedRows ∧
      List.Forall₂
        (fun row row' : Row =>
          let kept := row'.size = row.size ∧ row'.values = row.values
          (kept ↔ (row.names.map Text.camelCase^[capitals.length]).Nodup) ∧
          ∀ inCapitals, (∀ c ∈ row.names, Text.IsColumn inCapitals c) → kept)
        result.rows out.rows := by
  refine ⟨⟨row.size_renamed_le renames, row.size_renamed_eq_iff renames,
    row.values_renamed_eq_iff renames, Row.entries_renamed⟩,
    fun rename => ⟨row.firstSeen_mapColumns rename, OrderedMap.get?_ofList _⟩,
    _, Plugin.mapRows_camelCase capitals result, rfl, rfl, ?_⟩
  rw [List.forall₂_map_right_iff, List.forall₂_same]
  intro row _
  have hkept := and_congr
    (row.size_renamed_eq_iff (List.replicate capitals.length Text.camelCase))
    (row.values_renamed_eq_iff (List.replicate capitals.length Text.camelCase))
  rw [and_self_iff, newName_replicate] at hkept
  exact ⟨hkept, fun _ hcolumns => hkept.mpr (Row.nodup_of_columns hcolumns _)⟩

-- Two columns whose names are distinct after one hook, but not after two.
theorem values_survive_renaming_iff_twice :
    let row : Row := .ofList [("a_b_c", .int 1), ("a_bc", .int 2)]
    (∃ out, Plugin.revised [.camelCase false] (.ofRows [row]) = .ok out ∧
      out.rows.map OrderedMap.values = [[.int 1, .int 2]]) ∧
    ∃ out, Plugin.revised [.camelCase false, .camelCase true] (.ofRows [row]) = .ok out ∧
      out.rows.map OrderedMap.values ≠ [[.int 1, .int 2]] := by
  intro row
  have hhooks (capitals : List Bool) :=
    (values_survive_renaming_iff [] row capitals (.ofRows [row])).2.2
  constructor
  · obtain ⟨out, hout, -, -, hrows⟩ := hhooks [false]
    obtain ⟨row', rest, ⟨hkept, -⟩, hrest, hall⟩ := List.forall₂_cons_left_iff.mp hrows
    obtain rfl := List.forall₂_nil_left_iff.mp hrest
    refine ⟨out, hout, ?_⟩
    rw [hall, List.map_singleton, (hkept.mpr (by decide +kernel)).2]
    rfl
  · obtain ⟨out, hout, -, -, hrows⟩ := hhooks [false, true]
    obtain ⟨row', rest, ⟨hkept, -⟩, -, hall⟩ := List.forall₂_cons_left_iff.mp hrows
    refine ⟨out, hout, fun hsame => ?_⟩
    rw [hall, List.map_cons] at hsame
    have hvalues : row'.values = row.values := (List.cons.inj hsame).1
    have hsize : row'.size = row.size := by
      rw [← OrderedMap.length_values, hvalues, OrderedMap.length_values]
    exact absurd (hkept.mp ⟨hsize, hvalues⟩) (by decide +kernel)

-- A column in snake case and one in camel case become one, and the first value is lost.
theorem columns_fall_together :
    let row : Row := .ofList [("first_name", .text "a"), ("firstName", .text "b")]
    ∃ row', Plugin.revised [.camelCase false] (.ofRows [row]) = .ok (.ofRows [row']) ∧
      row.values = [.text "a", .text "b"] ∧ row'.entries = [("firstName", .text "b")] := by
  intro row
  refine ⟨_, rfl, rfl, ?_⟩
  have hsnake : Text.camelCase "first_name" = "firstName" := by decide +kernel
  have hcamel : Text.camelCase "firstName" = "firstName" := by decide +kernel
  show (OrderedMap.ofList [(Text.camelCase "first_name", Value.text "a"),
    (Text.camelCase "firstName", Value.text "b")]).entries = _
  rw [hsnake, hcamel]
  rfl

end SqlWeave
