import SqlWeave.Shorthand

/-!
# Names as they are spelled

A text names a column by itself, in a table, or in a table of a schema, and may give it an alias.
The parts are cut at the first and at the last point and at the last keyword, and what is cut off
loses its blanks; whatever the parts hold, they are found again as they were put together.
-/

namespace SqlWeave

open Text

-- Only a letter has another lower-case form, which is 32 code points after it.
theorem Text.toLower_eq {c w : Char} (h : c.toLower = w) :
    c = w ∨ 65 ≤ c.toNat ∧ c.toNat + 32 = w.toNat := by
  unfold Char.toLower at h
  split at h
  · rename_i hc
    obtain ⟨hfirst, hlast⟩ : 65 ≤ c.toNat ∧ c.toNat ≤ 90 := hc
    subst h
    refine .inr ⟨hfirst, ?_⟩
    show c.toNat + 32 = (c.val + 32).toNat
    rw [UInt32.toNat_add]
    change c.toNat + 32 = (c.toNat + 32) % 2 ^ 32
    omega
  · exact .inl h

namespace Shorthand

/-! ## The keyword before an alias -/

/-- The keyword before an alias, with the blanks around it, in any case of its letters. -/
def asKeywords : List String := [" as ", " aS ", " As ", " AS "]

theorem mem_asKeywords_iff {keyword : String} :
    keyword ∈ asKeywords ↔ keyword.toList.map Char.toLower = aliasKeyword := by
  constructor
  · have hall : ∀ k ∈ asKeywords, k.toList.map Char.toLower = aliasKeyword := by decide
    exact hall keyword
  · intro h
    have hblank {c : Char} (hc : c.toLower = ' ') : c = ' ' :=
      (toLower_eq hc).resolve_right fun hupper => by
        change _ ∧ c.toNat + 32 = 32 at hupper
        omega
    have hletter {c w : Char} (u : Char) (hu : u.toNat + 32 = w.toNat) (hc : c.toLower = w) :
        c = w ∨ c = u :=
      (toLower_eq hc).imp_right fun hupper => Char.toNat_inj.mp (by omega)
    obtain ⟨c₁, cs, hkeyword, h₁, h⟩ := List.map_eq_cons_iff.mp h
    obtain ⟨c₂, cs, rfl, h₂, h⟩ := List.map_eq_cons_iff.mp h
    obtain ⟨c₃, cs, rfl, h₃, h⟩ := List.map_eq_cons_iff.mp h
    obtain ⟨c₄, cs, rfl, h₄, h⟩ := List.map_eq_cons_iff.mp h
    obtain rfl := List.map_eq_nil_iff.mp h
    obtain rfl := hblank h₁
    obtain rfl := hblank h₄
    obtain rfl : keyword = String.ofList [' ', c₂, c₃, ' '] := by
      rw [← hkeyword, String.ofList_toList]
    rcases hletter 'A' rfl h₂ with rfl | rfl <;> rcases hletter 'S' rfl h₃ with rfl | rfl <;>
      decide

/-- Whether a text holds the keyword before an alias. -/
def MentionsAlias (s : String) : Prop :=
  ∃ before, ∃ keyword ∈ asKeywords, ∃ after, s = before ++ keyword ++ after

-- A keyword is found if there is one.
theorem cutLastKeyword_eq_none {s : String} :
    cutLastKeyword aliasKeyword s.toList = none ↔ ¬ MentionsAlias s := by
  rw [cutLastKeyword_eq_none_iff]
  constructor
  · rintro h ⟨before, keyword, hkeyword, after, rfl⟩
    have hsuffix : keyword.toList ++ after.toList <:+ (before ++ keyword ++ after).toList := by
      rw [String.toList_append, String.toList_append, List.append_assoc]
      exact List.suffix_append _ _
    have hfound : afterKeyword aliasKeyword (keyword.toList ++ after.toList) = some after.toList :=
      afterKeyword_eq_some_iff.mpr ⟨_, mem_asKeywords_iff.mp hkeyword, rfl⟩
    exact nomatch (h _ hsuffix).symm.trans hfound
  · rintro h rest ⟨before, hs⟩
    cases hfound : afterKeyword aliasKeyword rest with
    | none => rfl
    | some after =>
      obtain ⟨keyword, hkeyword, rfl⟩ := afterKeyword_eq_some_iff.mp hfound
      refine absurd ⟨String.ofList before, String.ofList keyword, ?_, String.ofList after, ?_⟩ h
      · rwa [mem_asKeywords_iff, String.toList_ofList]
      · rw [← String.toList_inj]
        simp [← hs]

/-! ## References -/

/-- How a text names a column: by itself, in a table, or in a table of a schema.  The first point
ends the schema and the last one begins the column; what is between them is the table. -/
inductive Spells : String → Option Table → String → Prop
  | column {column : String} (hcolumn : '.' ∉ column.toList) : Spells column none (trim column)
  | inTable {table column : String} (htable : '.' ∉ table.toList)
      (hcolumn : '.' ∉ column.toList) :
    Spells (table ++ "." ++ column) (some ⟨none, trim table⟩) (trim column)
  | inSchema {schema table column : String} (hschema : '.' ∉ schema.toList)
      (hcolumn : '.' ∉ column.toList) :
    Spells (schema ++ "." ++ table ++ "." ++ column) (some ⟨some (trim schema), trim table⟩)
      (trim column)

theorem not_isBlank_point : isBlank '.' = false := by decide

theorem exists_spells (s : String) : ∃ table column, Spells s table column := by
  cases hlast : cutLast '.' s.toList with
  | none => exact ⟨_, _, .column (cutLast_eq_none_iff.mp hlast)⟩
  | some parts =>
    obtain ⟨front, column⟩ := parts
    obtain ⟨hs, hcolumn⟩ := append_of_cutLast hlast
    rw [← String.toList_ofList (l := column)] at hcolumn
    cases hfirst : cutFirst '.' front with
    | none =>
      have hfront := cutFirst_eq_none_iff.mp hfirst
      rw [← String.toList_ofList (l := front)] at hfront
      obtain rfl : s = String.ofList front ++ "." ++ String.ofList column := by
        rw [← String.toList_inj, hs]
        simp
      exact ⟨_, _, .inTable hfront hcolumn⟩
    | some parts =>
      obtain ⟨schema, table⟩ := parts
      obtain ⟨hfront, hschema⟩ := append_of_cutFirst hfirst
      rw [← String.toList_ofList (l := schema)] at hschema
      obtain rfl : s =
          String.ofList schema ++ "." ++ String.ofList table ++ "." ++ String.ofList column := by
        rw [← String.toList_inj, hs, hfront]
        simp
      exact ⟨_, _, .inSchema hschema hcolumn⟩

theorem tableOfChars_name {cs : List Char} (h : '.' ∉ cs) :
    tableOfChars cs = ⟨none, String.ofList (trimChars cs)⟩ := by
  rw [tableOfChars, cutFirst_eq_none_iff.mpr (mt mem_of_mem_trimChars h)]

theorem tableOfChars_inSchema {schema : List Char} (h : '.' ∉ schema) (table : List Char) :
    tableOfChars (schema ++ '.' :: table) =
      ⟨some (String.ofList (trimChars schema)), String.ofList (trimChars table)⟩ := by
  rw [tableOfChars, trimChars_append_cons _ not_isBlank_point,
    cutFirst_append (mt mem_of_mem_trimStart h)]
  dsimp only
  rw [trimChars_trimStart, trimChars_trimEnd]

theorem tableOfChars_congr {a b : List Char} (h : trimChars a = trimChars b) :
    tableOfChars a = tableOfChars b := by
  rw [tableOfChars, tableOfChars, h]

theorem referenceOfChars_congr {a b : List Char} (h : trimChars a = trimChars b) :
    referenceOfChars a = referenceOfChars b := by
  rw [referenceOfChars, referenceOfChars, h]

theorem referenceOfChars_name {cs : List Char} (h : '.' ∉ cs) :
    referenceOfChars cs = column none (trimChars cs) := by
  rw [referenceOfChars, cutLast_eq_none_iff.mpr (mt mem_of_mem_trimChars h)]

theorem referenceOfChars_inTable (table : List Char) {name : List Char} (h : '.' ∉ name) :
    referenceOfChars (table ++ '.' :: name) =
      column (some (tableOfChars table)) (trimChars name) := by
  rw [referenceOfChars, trimChars_append_cons _ not_isBlank_point,
    cutLast_append _ (mt mem_of_mem_trimEnd h)]
  dsimp only
  rw [trimChars_trimEnd, tableOfChars_congr (trimChars_trimStart table)]

theorem column_trimmed (table : Option Table) (s : String) :
    column table (trimChars s.toList) =
      if trim s = "*" then .star table else .reference table (trim s) := by
  have hstar : trimChars s.toList = ['*'] ↔ trim s = "*" := by
    rw [trim, ← String.toList_inj, String.toList_ofList]
    rfl
  unfold column
  simp only [hstar]
  rfl

theorem reference_of_spells {s name : String} {table : Option Table} (h : Spells s table name) :
    reference s = if name = "*" then .star table else .reference table name := by
  have hpoint (a b : String) : (a ++ "." ++ b).toList = a.toList ++ '.' :: b.toList := by simp
  cases h with
  | column hname => rw [reference, referenceOfChars_name hname, column_trimmed]
  | @inTable table name htable hname =>
    rw [reference, hpoint, referenceOfChars_inTable _ hname, column_trimmed,
      tableOfChars_name htable]
    rfl
  | @inSchema schema table name hschema hname =>
    rw [reference, hpoint, referenceOfChars_inTable _ hname, column_trimmed, hpoint,
      tableOfChars_inSchema hschema]
    rfl

/-! ## Aliases -/

theorem afterKeyword_letter {c : Char} (h : c.toLower ≠ ' ') (cs : List Char) :
    afterKeyword aliasKeyword (c :: cs) = none :=
  if_neg h

-- A keyword that no other one follows, not even one that shares its last blank, is the last one.
theorem cutLastKeyword_keyword {keyword : String} (hkeyword : keyword ∈ asKeywords)
    {label : List Char} (h : cutLastKeyword aliasKeyword (' ' :: label) = none) :
    cutLastKeyword aliasKeyword (keyword.toList ++ label) = some ([], label) := by
  obtain ⟨a, s, hletters, ha, hs⟩ : ∃ a s, keyword.toList = [' ', a, s, ' '] ∧
      a.toLower ≠ ' ' ∧ s.toLower ≠ ' ' := by
    simp only [asKeywords, List.mem_cons, List.not_mem_nil, or_false] at hkeyword
    rcases hkeyword with rfl | rfl | rfl | rfl <;> exact ⟨_, _, rfl, by decide, by decide⟩
  have hfound : afterKeyword aliasKeyword (keyword.toList ++ label) = some label :=
    afterKeyword_eq_some_iff.mpr ⟨_, mem_asKeywords_iff.mp hkeyword, rfl⟩
  have hlater : cutLastKeyword aliasKeyword (a :: s :: ' ' :: label) = none := by
    rw [cutLastKeyword_cons_eq_none_iff, cutLastKeyword_cons_eq_none_iff]
    exact ⟨⟨h, afterKeyword_letter hs _⟩, afterKeyword_letter ha _⟩
  rw [hletters] at hfound ⊢
  rw [List.cons_append, cutLastKeyword]
  simp only [List.cons_append, List.nil_append] at hfound ⊢
  rw [hlater, hfound]
  rfl

theorem splitAlias_keyword {r keyword a : String} (hkeyword : keyword ∈ asKeywords)
    (hr : trim r ≠ "") (ha : a ≠ "") (htrim : trim a = a) (hfree : ¬ MentionsAlias (" " ++ a)) :
    splitAlias (r ++ keyword ++ a).toList = (trimChars r.toList, some a.toList) := by
  have hlabel : trimChars a.toList = a.toList := by
    rw [← String.toList_inj, trim, String.toList_ofList] at htrim
    exact htrim
  have hend : trimEnd a.toList = a.toList := by
    rw [← hlabel, trimChars, trimEnd_idem]
  have hstart : (trimStart r.toList).isEmpty = false := by
    cases hcs : trimStart r.toList with
    | nil => exact absurd (by rw [trim, trimChars, hcs]; rfl) hr
    | cons c cs => rfl
  have hne : a.toList.isEmpty = false := by
    cases hcs : a.toList with
    | nil => exact absurd (String.toList_eq_nil_iff.mp hcs) ha
    | cons c cs => rfl
  have hchars : trimChars (r ++ keyword ++ a).toList =
      trimStart r.toList ++ (keyword.toList ++ a.toList) := by
    rw [String.toList_append, String.toList_append, List.append_assoc, trimChars, trimStart_append,
      hstart, if_neg Bool.false_ne_true, ← List.append_assoc, trimEnd_append, hend, hne,
      if_neg Bool.false_ne_true, List.append_assoc]
  have hlast : cutLastKeyword aliasKeyword (' ' :: a.toList) = none := by
    rw [← cutLastKeyword_eq_none, String.toList_append] at hfree
    exact hfree
  rw [splitAlias, hchars,
    cutLastKeyword_append _ _ (cutLastKeyword_keyword hkeyword hlast), List.append_nil]
  dsimp only
  rw [trimChars_trimStart, hlabel]

theorem splitAlias_none {s : String} (h : ¬ MentionsAlias (trim s)) :
    splitAlias s.toList = (trimChars s.toList, none) := by
  rw [← cutLastKeyword_eq_none, trim, String.toList_ofList] at h
  rw [splitAlias, h]

/-! ## Main statement -/

/-- Every text names a column in one of three ways, and stands for it; a star in its place stands
for all columns.  A text with an alias after the keyword stands for what is before the keyword under
the alias, if no other keyword begins after the blank of this one, and a text without a keyword has
no alias. -/
theorem texts_spell_names :
    (∀ s, ∃ table name, Spells s table name) ∧
    (∀ s table name, Spells s table name →
      reference s = if name = "*" then .star table else .reference table name) ∧
    (∀ r keyword a, keyword ∈ asKeywords → trim r ≠ "" → a ≠ "" → trim a = a →
      ¬ MentionsAlias (" " ++ a) →
      selection (r ++ keyword ++ a) = .aliased (reference r) a ∧
        source (r ++ keyword ++ a) = .table (table r) (some a)) ∧
    ∀ s, ¬ MentionsAlias (trim s) →
      selection s = reference s ∧ source s = .table (table s) none := by
  refine ⟨exists_spells, fun s table name => reference_of_spells, ?_, fun s h => ?_⟩
  · intro r keyword a hkeyword hr ha htrim hfree
    have hsplit := splitAlias_keyword hkeyword hr ha htrim hfree
    rw [selection, source, hsplit]
    dsimp only
    rw [referenceOfChars_congr (trimChars_idem _), tableOfChars_congr (trimChars_idem _),
      String.ofList_toList]
    exact ⟨rfl, by rw [Option.map_some, String.ofList_toList]; rfl⟩
  · rw [selection, source, splitAlias_none h]
    dsimp only
    rw [referenceOfChars_congr (trimChars_idem _), tableOfChars_congr (trimChars_idem _)]
    exact ⟨rfl, rfl⟩

-- The column's name holds the keyword too, and neither name is in ASCII.
theorem texts_spell_names_nested_keyword :
    let r := " é.t.名 as x"
    Spells r (some ⟨some "é", "t"⟩) "名 as x" ∧ " AS " ∈ asKeywords ∧ trim r ≠ "" ∧ "ß" ≠ "" ∧
      trim "ß" = "ß" ∧ ¬ MentionsAlias (" " ++ "ß") ∧
      selection (r ++ " AS " ++ "ß") =
        .aliased (.reference (some ⟨some "é", "t"⟩) "名 as x") "ß" ∧
      ¬ MentionsAlias (trim " t . * ") ∧ selection " t . * " = .star (some ⟨none, "t"⟩) := by
  intro r
  have hr : Spells r (some ⟨some "é", "t"⟩) "名 as x" :=
    @Spells.inSchema " é" "t" "名 as x" (by decide) (by decide)
  have hkeyword : " AS " ∈ asKeywords := by decide
  have hblank : trim r ≠ "" := by decide
  have htrim : trim "ß" = "ß" := by decide
  have hfree : ¬ MentionsAlias (" " ++ "ß") := cutLastKeyword_eq_none.mp (by decide)
  have hstar : Spells " t . * " (some ⟨none, "t"⟩) "*" :=
    @Spells.inTable " t " " * " (by decide) (by decide)
  have hnone : ¬ MentionsAlias (trim " t . * ") := cutLastKeyword_eq_none.mp (by decide)
  obtain ⟨-, hreference, halias, hplain⟩ := texts_spell_names
  refine ⟨hr, hkeyword, hblank, by decide, htrim, hfree, ?_, hnone, ?_⟩
  · have hselection := (halias r " AS " "ß" hkeyword hblank (by decide) htrim hfree).1
    rw [hselection, hreference r _ _ hr]
    rfl
  · rw [(hplain _ hnone).1, hreference _ _ _ hstar]
    rfl

end Shorthand

end SqlWeave
