/-!
# Cutting a text in two

A text is cut at the first or the last occurrence of a separator, which belongs to neither part.
-/

namespace SqlWeave.Text

/-- The parts before and after the first occurrence of a character. -/
def cutFirst (sep : Char) : List Char → Option (List Char × List Char)
  | [] => none
  | c :: cs =>
    if c = sep then some ([], cs)
    else (cutFirst sep cs).map fun (before, after) => (c :: before, after)

/-- The parts before and after the last occurrence of a character. -/
def cutLast (sep : Char) : List Char → Option (List Char × List Char)
  | [] => none
  | c :: cs =>
    match cutLast sep cs with
    | some (before, after) => some (c :: before, after)
    | none => if c = sep then some ([], cs) else none

/-- The characters after a keyword with which a text begins.  Lower- and upper-case forms of a
letter of the keyword count as equal when both are ASCII letters. -/
def afterKeyword : (word : List Char) → List Char → Option (List Char)
  | [], cs => some cs
  | _ :: _, [] => none
  | w :: ws, c :: cs => if c.toLower = w then afterKeyword ws cs else none

/-- The parts before and after the last place where a keyword begins. -/
def cutLastKeyword (word : List Char) : List Char → Option (List Char × List Char)
  | [] => (afterKeyword word []).map fun after => ([], after)
  | c :: cs =>
    match cutLastKeyword word cs with
    | some (before, after) => some (c :: before, after)
    | none => (afterKeyword word (c :: cs)).map fun after => ([], after)

-- Cutting loses nothing but the separator.
theorem append_of_cutFirst {sep : Char} {cs before after : List Char}
    (h : cutFirst sep cs = some (before, after)) :
    cs = before ++ sep :: after ∧ sep ∉ before := by
  induction cs generalizing before after with
  | nil => simp [cutFirst] at h
  | cons c cs ih =>
    simp only [cutFirst] at h
    split at h
    · rename_i hc
      simp only [Option.some.injEq, Prod.mk.injEq] at h
      obtain ⟨rfl, rfl⟩ := h
      simp [hc]
    · rename_i hc
      simp only [Option.map_eq_some_iff, Prod.mk.injEq, Prod.exists] at h
      obtain ⟨b, a, hcut, rfl, rfl⟩ := h
      obtain ⟨happend, hmem⟩ := ih hcut
      exact ⟨by simp [happend], by simp [hmem, Ne.symm hc]⟩

theorem cutFirst_eq_none_iff {sep : Char} {cs : List Char} :
    cutFirst sep cs = none ↔ sep ∉ cs := by
  induction cs with
  | nil => simp [cutFirst]
  | cons c cs ih =>
    simp only [cutFirst, List.mem_cons, not_or]
    split
    · rename_i hc
      simp [hc]
    · rename_i hc
      simp [ih, Ne.symm hc]

theorem cutFirst_append {sep : Char} {before : List Char} (h : sep ∉ before) (after : List Char) :
    cutFirst sep (before ++ sep :: after) = some (before, after) := by
  induction before with
  | nil => rw [List.nil_append, cutFirst, if_pos rfl]
  | cons c before ih =>
    rw [List.mem_cons, not_or] at h
    rw [List.cons_append, cutFirst, if_neg (Ne.symm h.1), ih h.2]
    rfl

theorem cutLast_eq_none_iff {sep : Char} {cs : List Char} :
    cutLast sep cs = none ↔ sep ∉ cs := by
  induction cs with
  | nil => simp [cutLast]
  | cons c cs ih =>
    rw [cutLast, List.mem_cons, not_or, ← ih]
    cases cutLast sep cs with
    | some parts => simp
    | none => simp [eq_comm]

theorem append_of_cutLast {sep : Char} {cs before after : List Char}
    (h : cutLast sep cs = some (before, after)) :
    cs = before ++ sep :: after ∧ sep ∉ after := by
  induction cs generalizing before with
  | nil => exact nomatch h
  | cons c cs ih =>
    rw [cutLast] at h
    cases hcut : cutLast sep cs with
    | some parts =>
      rw [hcut] at h
      obtain ⟨rfl, rfl⟩ := Prod.mk.inj (Option.some.inj h)
      obtain ⟨happend, hmem⟩ := ih hcut
      exact ⟨congrArg (c :: ·) happend, hmem⟩
    | none =>
      rw [hcut] at h
      dsimp only at h
      split at h
      · rename_i hc
        obtain ⟨rfl, rfl⟩ := Prod.mk.inj (Option.some.inj h)
        exact ⟨by rw [hc, List.nil_append], cutLast_eq_none_iff.mp hcut⟩
      · exact nomatch h

theorem cutLast_append (before : List Char) {sep : Char} {after : List Char} (h : sep ∉ after) :
    cutLast sep (before ++ sep :: after) = some (before, after) := by
  induction before with
  | nil => rw [List.nil_append, cutLast, cutLast_eq_none_iff.mpr h]; exact if_pos rfl
  | cons c before ih => rw [List.cons_append, cutLast, ih]

/-! ## Keywords -/

theorem afterKeyword_eq_some_iff {word cs after : List Char} :
    afterKeyword word cs = some after ↔
      ∃ keyword, keyword.map Char.toLower = word ∧ cs = keyword ++ after := by
  induction word generalizing cs with
  | nil =>
    rw [afterKeyword]
    constructor
    · exact fun h => ⟨[], rfl, Option.some.inj h⟩
    · rintro ⟨keyword, hkeyword, rfl⟩
      rw [List.map_eq_nil_iff.mp hkeyword, List.nil_append]
  | cons w word ih =>
    cases cs with
    | nil =>
      rw [afterKeyword]
      refine ⟨nofun, ?_⟩
      rintro ⟨keyword, hkeyword, hnil⟩
      rw [(List.append_eq_nil_iff.mp hnil.symm).1] at hkeyword
      exact nomatch hkeyword
    | cons c cs =>
      rw [afterKeyword]
      constructor
      · intro h
        split at h
        · rename_i hc
          obtain ⟨keyword, hkeyword, rfl⟩ := ih.mp h
          exact ⟨c :: keyword, by rw [List.map_cons, hc, hkeyword], rfl⟩
        · exact nomatch h
      · rintro ⟨keyword, hkeyword, hcs⟩
        obtain ⟨k, keyword, rfl, hc, hword⟩ := List.map_eq_cons_iff.mp hkeyword
        obtain ⟨rfl, rfl⟩ := List.cons.inj hcs
        rw [if_pos hc, ih]
        exact ⟨keyword, hword, rfl⟩

theorem cutLastKeyword_append (word front : List Char) {cs before after : List Char}
    (h : cutLastKeyword word cs = some (before, after)) :
    cutLastKeyword word (front ++ cs) = some (front ++ before, after) := by
  induction front with
  | nil => exact h
  | cons c front ih => rw [List.cons_append, cutLastKeyword, ih]; rfl

theorem cutLastKeyword_cons_eq_none_iff {word cs : List Char} {c : Char} :
    cutLastKeyword word (c :: cs) = none ↔
      cutLastKeyword word cs = none ∧ afterKeyword word (c :: cs) = none := by
  rw [cutLastKeyword]
  cases cutLastKeyword word cs with
  | some parts => exact ⟨nofun, fun h => nomatch h.1⟩
  | none => rw [Option.map_eq_none_iff]; exact (and_iff_right rfl).symm

-- A keyword is found wherever it stands.
theorem cutLastKeyword_eq_none_iff {word cs : List Char} :
    cutLastKeyword word cs = none ↔ ∀ rest, rest <:+ cs → afterKeyword word rest = none := by
  induction cs with
  | nil => simp [cutLastKeyword]
  | cons c cs ih =>
    rw [cutLastKeyword_cons_eq_none_iff, ih]
    simp only [List.suffix_cons_iff, forall_eq_or_imp]
    exact and_comm

theorem afterKeyword_concat_eq_none {word cs : List Char} {c : Char} (hc : c.toLower ∉ word)
    (h : afterKeyword word cs = none) : afterKeyword word (cs ++ [c]) = none := by
  fun_induction afterKeyword word cs with
  | case1 => exact nomatch h
  | case2 w word =>
    have hw : c.toLower ≠ w := fun heq => hc (heq ▸ List.mem_cons_self)
    exact if_neg hw
  | case3 word d cs ih =>
    rw [List.cons_append, afterKeyword, if_pos rfl]
    exact ih (fun hmem => hc (List.mem_cons_of_mem _ hmem)) h
  | case4 w word d cs hd =>
    rw [List.cons_append, afterKeyword, if_neg hd]

-- A character that no keyword has completes none.
theorem cutLastKeyword_concat_eq_none {word cs : List Char} {c : Char} (hc : c.toLower ∉ word)
    (h : cutLastKeyword word cs = none) : cutLastKeyword word (cs ++ [c]) = none := by
  induction cs with
  | nil =>
    rw [cutLastKeyword, Option.map_eq_none_iff] at h
    rw [List.nil_append, cutLastKeyword_cons_eq_none_iff, cutLastKeyword, h]
    exact ⟨rfl, afterKeyword_concat_eq_none hc h⟩
  | cons d cs ih =>
    rw [cutLastKeyword_cons_eq_none_iff] at h
    rw [List.cons_append, cutLastKeyword_cons_eq_none_iff]
    exact ⟨ih h.1, afterKeyword_concat_eq_none hc h.2⟩

end SqlWeave.Text
