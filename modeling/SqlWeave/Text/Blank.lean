/-!
# Runs of characters, and blanks

Unicode properties are tables over code points.  A row of such a table is a run of code points at
a fixed distance, because upper- and lower-case letters alternate in many scripts.  The first of
these properties is `White_Space`: what it is to be a blank, and texts without blanks at their ends.
-/

namespace SqlWeave.Text

/-- The code points `first`, `first + step`, … up to `last`. -/
structure Run where
  first : Nat
  last : Nat
  step : Nat
  deriving DecidableEq

def Run.holds (r : Run) (n : Nat) : Bool :=
  r.first ≤ n && n ≤ r.last && (n - r.first) % r.step == 0

/-- A run of code points that a mapping moves by the same amount. -/
structure Shift where
  run : Run
  offset : Int
  deriving DecidableEq

/-- The characters with the property `White_Space`. -/
def blankRuns : List Run := [
  ⟨0x9, 0xd, 1⟩, ⟨0x20, 0x20, 1⟩, ⟨0x85, 0x85, 1⟩, ⟨0xa0, 0xa0, 1⟩, ⟨0x1680, 0x1680, 1⟩,
  ⟨0x2000, 0x200a, 1⟩, ⟨0x2028, 0x2029, 1⟩, ⟨0x202f, 0x202f, 1⟩, ⟨0x205f, 0x205f, 1⟩,
  ⟨0x3000, 0x3000, 1⟩]

def isBlank (c : Char) : Bool :=
  blankRuns.any (·.holds c.toNat)

/-- The characters from the first that is not blank. -/
def trimStart (cs : List Char) : List Char :=
  cs.dropWhile isBlank

/-- The characters up to the last that is not blank. -/
def trimEnd (cs : List Char) : List Char :=
  (cs.reverse.dropWhile isBlank).reverse

/-- The characters from the first that is not blank to the last that is not. -/
def trimChars (cs : List Char) : List Char :=
  trimEnd (trimStart cs)

def trim (s : String) : String :=
  String.ofList (trimChars s.toList)

theorem trimStart_cons_of_not_blank (cs : List Char) {c : Char} (h : isBlank c = false) :
    trimStart (c :: cs) = c :: cs := by
  simp [trimStart, List.dropWhile, h]

-- Trimming the end of a text leaves its first character alone unless nothing is left.
theorem trimEnd_cons (c : Char) (cs : List Char) :
    trimEnd (c :: cs) = if isBlank c && (trimEnd cs).isEmpty then [] else c :: trimEnd cs := by
  simp only [trimEnd, List.reverse_cons, List.dropWhile_append, List.isEmpty_reverse]
  cases h : (List.dropWhile isBlank cs.reverse).isEmpty <;> cases hc : isBlank c <;>
    simp_all [List.dropWhile]

theorem trimEnd_idem (cs : List Char) : trimEnd (trimEnd cs) = trimEnd cs := by
  induction cs with
  | nil => rfl
  | cons c cs ih =>
    rw [trimEnd_cons]
    split
    · rfl
    · rename_i h
      rw [trimEnd_cons, ih, if_neg h]

theorem trimStart_idem (cs : List Char) : trimStart (trimStart cs) = trimStart cs := by
  induction cs with
  | nil => rfl
  | cons c cs ih =>
    cases hc : isBlank c with
    | true => simpa [trimStart, List.dropWhile, hc] using ih
    | false => simp [trimStart, List.dropWhile, hc]

-- The two ends can be trimmed in either order.
theorem trimStart_trimEnd (cs : List Char) : trimStart (trimEnd cs) = trimEnd (trimStart cs) := by
  induction cs with
  | nil => rfl
  | cons c cs ih =>
    cases hc : isBlank c with
    | false =>
      rw [trimStart_cons_of_not_blank cs hc, trimEnd_cons, hc, Bool.false_and,
        if_neg Bool.false_ne_true, trimStart_cons_of_not_blank _ hc]
    | true =>
      have hskip (cs : List Char) : trimStart (c :: cs) = trimStart cs :=
        List.dropWhile_cons_of_pos hc
      rw [hskip, ← ih, trimEnd_cons, hc, Bool.true_and]
      split
      · rename_i hnil
        rw [List.isEmpty_iff.mp hnil]
      · exact hskip _

-- What is trimmed has nothing left to trim.
theorem trimChars_idem (cs : List Char) : trimChars (trimChars cs) = trimChars cs := by
  simp only [trimChars]
  rw [trimStart_trimEnd, trimStart_idem, trimEnd_idem]

theorem trim_idem (s : String) : trim (trim s) = trim s := by
  simp [trim, trimChars_idem]

theorem trimChars_trimStart (cs : List Char) : trimChars (trimStart cs) = trimChars cs := by
  rw [trimChars, trimStart_idem, trimChars]

theorem trimChars_trimEnd (cs : List Char) : trimChars (trimEnd cs) = trimChars cs := by
  rw [trimChars, trimStart_trimEnd, trimEnd_idem, trimChars]

theorem mem_of_mem_trimStart {c : Char} {cs : List Char} (h : c ∈ trimStart cs) : c ∈ cs :=
  (List.dropWhile_suffix isBlank).subset h

theorem mem_of_mem_trimEnd {c : Char} {cs : List Char} (h : c ∈ trimEnd cs) : c ∈ cs := by
  have hmem := (List.dropWhile_suffix isBlank).subset (List.mem_reverse.mp h)
  exact List.mem_reverse.mp hmem

theorem mem_of_mem_trimChars {c : Char} {cs : List Char} (h : c ∈ trimChars cs) : c ∈ cs :=
  mem_of_mem_trimStart (mem_of_mem_trimEnd h)

/-! ## Texts one after the other -/

theorem trimStart_append (as bs : List Char) :
    trimStart (as ++ bs) =
      if (trimStart as).isEmpty then trimStart bs else trimStart as ++ bs :=
  List.dropWhile_append

theorem trimEnd_append (as bs : List Char) :
    trimEnd (as ++ bs) = if (trimEnd bs).isEmpty then trimEnd as else as ++ trimEnd bs := by
  simp only [trimEnd, List.reverse_append, List.dropWhile_append, List.isEmpty_reverse]
  split <;> simp

-- What is not blank keeps what is before it at its end and what is after it at its start.
theorem trimStart_append_cons (as : List Char) {c : Char} (h : isBlank c = false)
    (bs : List Char) : trimStart (as ++ c :: bs) = trimStart as ++ c :: bs := by
  rw [trimStart_append, trimStart_cons_of_not_blank bs h]
  split
  · rename_i hnil
    rw [List.isEmpty_iff.mp hnil, List.nil_append]
  · rfl

theorem trimEnd_append_cons (as : List Char) {c : Char} (h : isBlank c = false)
    (bs : List Char) : trimEnd (as ++ c :: bs) = as ++ c :: trimEnd bs := by
  have hcons : trimEnd (c :: bs) = c :: trimEnd bs := by
    rw [trimEnd_cons, h, Bool.false_and, if_neg Bool.false_ne_true]
  rw [trimEnd_append, hcons, List.isEmpty_cons, if_neg Bool.false_ne_true]

theorem trimChars_append_cons (as : List Char) {c : Char} (h : isBlank c = false)
    (bs : List Char) : trimChars (as ++ c :: bs) = trimStart as ++ c :: trimEnd bs := by
  rw [trimChars, trimStart_append_cons as h, trimEnd_append_cons _ h]

end SqlWeave.Text
