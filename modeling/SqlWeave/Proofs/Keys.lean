import SqlWeave.Proofs.Casing
import SqlWeave.Proofs.Chaining
import SqlWeave.Proofs.Renaming

/-!
# Keys of columns

Under the plugin for camel case, a row gives its columns under other names, its keys.  A key in a
query stands for the column that it came from, on whichever side of the database the words of a name
are looked for.
-/

namespace SqlWeave

/-! ## Rows -/

section Entries

variable {α : Type} {keep : String → Bool}

theorem filter_upsert_of_not {name : String} (h : keep name = false) (value : α)
    (entries : List (String × α)) :
    (upsert name value entries).filter (keep ·.1) = entries.filter (keep ·.1) := by
  induction entries with
  | nil => simp [upsert, h]
  | cons entry rest ih =>
    by_cases hname : entry.1 = name
    · simp [upsert, hname, h]
    · simp [upsert, hname, List.filter_cons, ih]

theorem upsert_of_not_mem {name : String} {entries : List (String × α)}
    (h : name ∉ entries.map Prod.fst) (value : α) :
    upsert name value entries = entries ++ [(name, value)] := by
  induction entries with
  | nil => rfl
  | cons entry rest ih =>
    rw [List.map_cons, List.mem_cons, not_or] at h
    rw [upsert, if_neg (Ne.symm h.1), ih h.2, List.cons_append]

-- Names that are given once keep their values and their order, whatever the other names are.
theorem OrderedMap.filter_entries_ofList (keep : String → Bool) {pairs : List (String × α)}
    (h : ((pairs.filter (keep ·.1)).map Prod.fst).Nodup) :
    (ofList pairs).entries.filter (keep ·.1) = pairs.filter (keep ·.1) := by
  induction pairs using List.reverseRecOn with
  | nil => rfl
  | append_singleton pairs pair ih =>
    have hentries : (ofList (pairs ++ [pair])).entries =
        upsert pair.1 pair.2 (ofList pairs).entries := by
      rw [ofList, List.foldl_append]
      rfl
    rw [List.filter_append, List.map_append, List.nodup_append] at h
    rw [hentries, List.filter_append]
    cases hkeep : keep pair.1 with
    | false => simp [filter_upsert_of_not hkeep, ih h.1, hkeep]
    | true =>
      have hnew : pair.1 ∉ (ofList pairs).entries.map Prod.fst := by
        intro hmem
        obtain ⟨entry, hentry, hname⟩ := List.mem_map.mp hmem
        have hfilter : entry ∈ pairs.filter (keep ·.1) := by
          rw [← ih h.1]
          exact List.mem_filter.mpr ⟨hentry, by rw [hname]; exact hkeep⟩
        refine h.2.2 _ (List.mem_map_of_mem hfilter) pair.1 ?_ hname
        simp [hkeep]
      rw [upsert_of_not_mem hnew, List.filter_append, ih h.1]

theorem OrderedMap.entries_ofList {pairs : List (String × α)} (h : (pairs.map Prod.fst).Nodup) :
    (ofList pairs).entries = pairs := by
  have hall (entries : List (String × α)) : entries.filter (fun _ => true) = entries :=
    List.filter_eq_self.mpr fun _ _ => rfl
  have hfilter := filter_entries_ofList (fun _ => true) ((hall pairs).symm ▸ h)
  rwa [hall, hall] at hfilter

end Entries

namespace Row

variable {rename : String → String} {row : Row}

theorem nodup_renamed (kept : String → Bool)
    (h : ∀ c ∈ row.names, kept c = true → ∀ c' ∈ row.names, rename c' = rename c → c' = c) :
    (((row.entries.filter (kept ·.1)).map fun e => (rename e.1, e.2)).map Prod.fst).Nodup := by
  have hnames : (row.entries.filter (kept ·.1)).map Prod.fst = row.names.filter kept := by
    rw [OrderedMap.names, List.filter_map]
    rfl
  have hfst : ((row.entries.filter (kept ·.1)).map fun e => (rename e.1, e.2)).map Prod.fst =
      (row.names.filter kept).map rename := by
    rw [← hnames, List.map_map, List.map_map]
    rfl
  rw [hfst]
  refine List.Nodup.map_on (fun c hc c' hc' heq => ?_) (row.names_nodup.filter kept)
  obtain ⟨hmem, hkept⟩ := List.mem_filter.mp hc'
  exact h c' hmem hkept c (List.mem_filter.mp hc).1 heq

-- Columns whose new names no other column takes are found under these names, in their order.
theorem sublist_mapColumns {kept : String → Bool}
    (h : ∀ c ∈ row.names, kept c = true → ∀ c' ∈ row.names, rename c' = rename c → c' = c) :
    ((row.entries.filter (kept ·.1)).map fun e => (rename e.1, e.2)).Sublist
      (row.mapColumns rename).entries := by
  let taken (name : String) : Bool := decide (name ∈ (row.names.filter kept).map rename)
  have htaken : (row.entries.map fun e => (rename e.1, e.2)).filter (taken ·.1) =
      (row.entries.filter (kept ·.1)).map fun e => (rename e.1, e.2) := by
    rw [List.filter_map]
    refine congrArg _ (List.filter_congr fun e he => Bool.eq_iff_iff.mpr ?_)
    have hname : e.1 ∈ row.names := List.mem_map_of_mem he
    simp only [taken, Function.comp_apply, decide_eq_true_eq, List.mem_map, List.mem_filter]
    constructor
    · rintro ⟨c, ⟨hc, hkept⟩, heq⟩
      rwa [h c hc hkept e.1 hname heq.symm]
    · exact fun hkept => ⟨e.1, ⟨hname, hkept⟩, rfl⟩
  have hfilter := OrderedMap.filter_entries_ofList taken (htaken ▸ nodup_renamed kept h)
  rw [htaken] at hfilter
  rw [← hfilter]
  exact List.filter_sublist

theorem map_fst_renaming (rename : String → String) (row : Row) :
    (row.entries.map fun e => (rename e.1, e.2)).map Prod.fst = row.names.map rename := by
  rw [OrderedMap.names, List.map_map, List.map_map]
  rfl

theorem entries_mapColumns
    (h : ∀ c ∈ row.names, ∀ c' ∈ row.names, rename c' = rename c → c' = c) :
    (row.mapColumns rename).entries = row.entries.map fun e => (rename e.1, e.2) := by
  refine OrderedMap.entries_ofList ?_
  rw [map_fst_renaming]
  exact row.names_nodup.map_on fun c hc c' hc' heq => h c' hc' c hc heq

end Row

/-! ## Columns and their keys -/

namespace Plugin

variable {capitals : Bool} {column : String}

-- The words of a column are found again in its key.
theorem snake_camelCase (h : Text.IsColumn capitals column) :
    snake capitals (Text.camelCase column) = column := by
  obtain ⟨ws, hws, rfl⟩ := h
  cases capitals with
  | false =>
    have hsmall : ∀ w ∈ ws, Text.SmallWord w := fun w hw => (hws w hw).1.smallWord
    show Text.snakeCase (Text.camelCase (String.ofList (Text.underscored ws))) = _
    rw [Text.camelCase_underscored hsmall, Text.snakeCase_camelWords hsmall]
    rfl
  | true =>
    have hall : ∀ w ∈ ws, Text.ColumnWord w ∧ Text.HasCapitals w := fun w hw =>
      ⟨(hws w hw).1, (hws w hw).2 rfl⟩
    have hsmall : ∀ v ∈ ws.map (fun w => Text.lowerWord (Text.upperWord w)), Text.SmallWord v :=
      List.forall_mem_map.mpr fun w hw =>
        (Text.smallWord_lowerWord (hall w hw).1 (hall w hw).2).1
    have hupper : (ws.map fun w => Text.lowerWord (Text.upperWord w)).map Text.upperWord =
        ws.map Text.upperWord := by
      rw [List.map_map]
      exact List.map_congr_left fun w hw =>
        (Text.lowerWord_capitals (Text.exists_capitalOf (hall w hw).1 (hall w hw).2)).2
    show Text.shoutingCase
      (Text.camelCase (String.ofList (Text.underscored (ws.map Text.upperWord)))) = _
    rw [Text.camelCase_underscored_upperWord hall, Text.shoutingCase_camelWords hsmall, hupper]
    rfl

theorem camelCase_injective {column' : String} (h : Text.IsColumn capitals column)
    (h' : Text.IsColumn capitals column')
    (hkey : Text.camelCase column' = Text.camelCase column) : column' = column := by
  rw [← snake_camelCase h', hkey, snake_camelCase h]

/-- Under the plugin for camel case, the key of a column, written anywhere among the identifiers of
a query, is mapped to the column again; so a query written in keys becomes the same query written in
columns.  Of the columns in upper case these are the ones in capitals throughout, because a letter
without a capital parts the word that it stands in.  The rows of a result give columns under their
keys, each with its value and in the order of the row: all of them if the row has no other columns,
and in any row those whose keys no other column of the row takes. -/
theorem keys_find_columns (capitals : Bool) :
    (∀ column, Text.IsColumn capitals column → ∀ (q : Query) (i : Nat),
      (Piece.names q.pieces)[i]? = some (Text.camelCase column) →
        (Piece.names ((camelCase capitals).onQuery q).pieces)[i]? = some column) ∧
    (∀ column : String → String, (∀ s, Text.IsColumn capitals (column s)) → ∀ q : Query,
      (camelCase capitals).onQuery (q.rewrite (.names (Text.camelCase ∘ column))) =
        q.rewrite (.names column)) ∧
    (∀ c c', Text.IsColumn capitals c → Text.IsColumn capitals c' →
      Text.camelCase c' = Text.camelCase c → c' = c) ∧
    ∀ result, ∃ rows, (camelCase capitals).onResult result = .ok { result with rows } ∧
      List.Forall₂ (fun row row' : Row =>
        ((∀ c ∈ row.names, Text.IsColumn capitals c) →
          row'.entries = row.entries.map fun e => (Text.camelCase e.1, e.2)) ∧
        ∀ kept : String → Bool,
          (∀ c ∈ row.names, kept c = true → Text.IsColumn capitals c ∧
            ∀ c' ∈ row.names, kept c' = false → Text.camelCase c' ≠ Text.camelCase c) →
          ((row.entries.filter (kept ·.1)).map fun e =>
            (Text.camelCase e.1, e.2)).Sublist row'.entries)
        result.rows rows := by
  refine ⟨fun column hcolumn q i hi => ?_, fun column hcolumn q => ?_,
    fun c c' h h' => camelCase_injective h h', fun result => ⟨_, rfl, ?_⟩⟩
  · show (Piece.names (q.rewrite (.names (snake capitals))).pieces)[i]? = some column
    rw [Query.pieces_names, Piece.names_renaming, List.getElem?_map, hi, Option.map_some,
      snake_camelCase hcolumn]
  · have hfill : snake capitals ∘ Text.camelCase ∘ column = column :=
      funext fun s => snake_camelCase (hcolumn s)
    show (q.rewrite (.names (Text.camelCase ∘ column))).rewrite (.names (snake capitals)) = _
    rw [Query.rewrite_names_names, hfill]
  · rw [List.forall₂_map_right_iff, List.forall₂_same]
    refine fun row _ => ⟨fun hall => Row.entries_mapColumns fun c hc c' hc' =>
      camelCase_injective (hall c hc) (hall c' hc'), fun kept hkept => Row.sublist_mapColumns ?_⟩
    intro c hc hckept c' hc' heq
    cases hother : kept c' with
    | true => exact camelCase_injective (hkept c hc hckept).1 (hkept c' hc' hother).1 heq
    | false => exact absurd heq ((hkept c hc hckept).2 c' hc' hother)

-- Two columns in capitals, and a key in a query.
theorem keys_find_columns_first_name :
    let q : Query := .delete { Delete.ofTable (.ofName "t") with
      filter := some (.reference none "firstName") }
    let row : Row := .ofList [("FIRST_NAME", .int 1), ("AGE2", .null)]
    Text.IsColumn true "FIRST_NAME" ∧ Text.IsColumn true "AGE2" ∧
      (Piece.names ((camelCase true).onQuery q).pieces)[1]? = some "FIRST_NAME" ∧
      ∃ row', (camelCase true).onResult (.ofRows [row]) = .ok (.ofRows [row']) ∧
        row'.entries = [("firstName", .int 1), ("age2", .null)] := by
  intro q row
  have hfirst : Text.IsColumn true "FIRST_NAME" := by
    refine ⟨[['f', 'i', 'r', 's', 't'], ['n', 'a', 'm', 'e']], ?_, by decide +kernel⟩
    simp only [List.forall_mem_cons]
    have hwords :
        Text.ColumnWord ['f', 'i', 'r', 's', 't'] ∧ Text.ColumnWord ['n', 'a', 'm', 'e'] :=
      ⟨Text.columnWord_of_ascii rfl rfl (by simp), Text.columnWord_of_ascii rfl rfl (by simp)⟩
    exact ⟨⟨hwords.1, fun _ => Text.hasCapitals_of_ascii (by simp)⟩,
      ⟨hwords.2, fun _ => Text.hasCapitals_of_ascii (by simp)⟩, List.forall_mem_nil _⟩
  have hage : Text.IsColumn true "AGE2" :=
    ⟨[['a', 'g', 'e', '2']], List.forall_mem_singleton.mpr
      ⟨Text.columnWord_of_ascii rfl rfl (by simp), fun _ => Text.hasCapitals_of_ascii (by simp)⟩,
      by decide +kernel⟩
  have hkeys : Text.camelCase "FIRST_NAME" = "firstName" ∧ Text.camelCase "AGE2" = "age2" :=
    ⟨by decide +kernel, by decide +kernel⟩
  obtain ⟨hquery, -, -, hrows⟩ := keys_find_columns true
  obtain ⟨rows, hresult, hforall⟩ := hrows (.ofRows [row])
  obtain ⟨row', rest, ⟨hentries, -⟩, hrest, rfl⟩ := List.forall₂_cons_left_iff.mp hforall
  obtain rfl := List.forall₂_nil_left_iff.mp hrest
  refine ⟨hfirst, hage, hquery _ hfirst q 1 ?_, row', hresult, ?_⟩
  · rw [hkeys.1]
    rfl
  · have hnames : row.names = ["FIRST_NAME", "AGE2"] := rfl
    rw [hentries (by simpa [hnames] using ⟨hfirst, hage⟩)]
    show [(Text.camelCase "FIRST_NAME", Value.int 1), (Text.camelCase "AGE2", Value.null)] = _
    rw [hkeys.1, hkeys.2]

-- A letter without a capital, and one whose capital has a mark: neither column is found again.
theorem keys_miss_letters_without_capitals :
    let q (key : String) : Query := .delete { Delete.ofTable (.ofName "t") with
      filter := some (.reference none key) }
    (Text.ColumnWord ['a', 'b', 'ĸ'] ∧ Text.columnOf true [['a', 'b', 'ĸ']] = "ABĸ" ∧
      Text.camelCase "ABĸ" = "aBĸ" ∧
      Piece.names ((camelCase true).onQuery (q "aBĸ")).pieces = ["T", "A_Bĸ"]) ∧
    Text.ColumnWord ['a', 'b', 'ǰ'] ∧ Text.columnOf true [['a', 'b', 'ǰ']] = "ABJ\u030c" ∧
      Text.camelCase "ABJ\u030c" = "abj" ∧
      Piece.names ((camelCase true).onQuery (q "abj")).pieces = ["T", "ABJ"] := by
  intro q
  have hword (c : Char) (halphanumeric : Text.isAlphanumeric c = true)
      (hlower : Text.isLower c = true) : Text.ColumnWord ['a', 'b', c] :=
    ⟨'a', 'b', [c], rfl, rfl, rfl, List.forall_mem_singleton.mpr (.inr ⟨halphanumeric, hlower⟩)⟩
  exact ⟨⟨hword 'ĸ' (by decide +kernel) (by decide +kernel), by decide +kernel, by decide +kernel,
      by decide +kernel⟩,
    hword 'ǰ' (by decide +kernel) (by decide +kernel), by decide +kernel, by decide +kernel,
    by decide +kernel⟩

end Plugin

end SqlWeave
