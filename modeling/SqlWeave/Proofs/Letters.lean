import SqlWeave.Text.Words

/-!
# Letters, digits and their case

What the proofs about words need to know of the tables of Unicode: a few characters are neither
letters nor digits, a lower-case letter is no capital and is its own lower case, and a capital that
a lower-case letter has is the capital of its own lower case.
-/

namespace SqlWeave.Text

theorem isAlphanumeric_of_ascii {c : Char} (h : c.toNat < 0x80) :
    isAlphanumeric c = (alphanumericRuns.take 3).any (·.holds c.toNat) := by
  have hfirst : ∀ r ∈ alphanumericRuns.drop 3, 0x80 ≤ r.first := by decide +kernel
  have hnone : (alphanumericRuns.drop 3).any (·.holds c.toNat) = false := by
    refine List.any_eq_false.mpr fun r hr hholds => ?_
    have hle := hfirst r hr
    simp only [Run.holds, Bool.and_eq_true, decide_eq_true_eq] at hholds
    omega
  calc isAlphanumeric c
      = (alphanumericRuns.take 3 ++ alphanumericRuns.drop 3).any (·.holds c.toNat) := by
        rw [List.take_append_drop, isAlphanumeric]
    _ = (alphanumericRuns.take 3).any (·.holds c.toNat) := by
        rw [List.any_append, hnone, Bool.or_false]

-- Neither the quotes of identifiers, nor what comments begin with, nor the underscore.
theorem not_isAlphanumeric_punctuation :
    ∀ c ∈ ['"', '\x60', '-', '/', '*', '_'], isAlphanumeric c = false := by
  have hascii : ∀ c ∈ ['"', '\x60', '-', '/', '*', '_'], c.toNat < 0x80 := by simp
  have htake : (['"', '\x60', '-', '/', '*', '_'].all fun c =>
      !(alphanumericRuns.take 3).any (·.holds c.toNat)) = true := by decide +kernel
  exact fun c hc => (isAlphanumeric_of_ascii (hascii c hc)).trans
    ((Bool.not_eq_true' _).mp (List.all_eq_true.mp htake c hc))

/-! ## Lower-case letters -/

/-- The code points of a run, in ascending order. -/
def Run.elements (r : Run) : List Nat :=
  List.range' r.first ((r.last - r.first) / r.step + 1) r.step

/-- No code point is in both runs. -/
def Run.avoids (r r' : Run) : Bool :=
  Nat.blt r.last r'.first || Nat.blt r'.last r.first || r.elements.all fun n => !r'.holds n

theorem Run.mem_elements {r : Run} {n : Nat} (h : r.holds n = true) : n ∈ r.elements := by
  simp only [holds, Bool.and_eq_true, decide_eq_true_eq, beq_iff_eq] at h
  obtain ⟨⟨hfirst, hlast⟩, hstep⟩ := h
  refine List.mem_range'.mpr ⟨(n - r.first) / r.step, ?_, ?_⟩
  · have hle : (n - r.first) / r.step ≤ (r.last - r.first) / r.step :=
      Nat.div_le_div_right (by omega)
    omega
  · have hmul := Nat.div_add_mod (n - r.first) r.step
    omega

theorem Run.not_holds_of_avoids {r r' : Run} (h : r.avoids r' = true) {n : Nat}
    (hn : r.holds n = true) : r'.holds n = false := by
  simp only [avoids, Bool.or_eq_true, Nat.blt_eq, List.all_eq_true, Bool.not_eq_true'] at h
  rcases h with (hlt | hlt) | hall
  · simp only [holds, Bool.and_eq_true, decide_eq_true_eq] at hn
    simp [holds]
    omega
  · simp only [holds, Bool.and_eq_true, decide_eq_true_eq] at hn
    simp [holds]
    omega
  · exact hall n (mem_elements hn)

theorem not_isUpper_of_isLower {c : Char} (h : isLower c = true) : isUpper c = false := by
  have htables : (lowerRuns.all fun r => upperRuns.all r.avoids) = true := by decide +kernel
  obtain ⟨r, hr, hholds⟩ := List.any_eq_true.mp h
  refine List.any_eq_false.mpr fun r' hr' => ?_
  have havoids := List.all_eq_true.mp (List.all_eq_true.mp htables r hr) r' hr'
  simp [Run.not_holds_of_avoids havoids hholds]

theorem not_isLower_of_isUpper {c : Char} (h : isUpper c = true) : isLower c = false := by
  cases hc : isLower c with
  | false => rfl
  | true => exact absurd h (by simp [not_isUpper_of_isLower hc])

theorem toLower_of_isLower {c : Char} (h : isLower c = true) : toLower c = [c] := by
  have htables : (lowerRuns.all fun r => toLowerShifts.all fun s => r.avoids s.run) = true := by
    decide +kernel
  have hspecials : ∀ r ∈ lowerRuns, ∀ row ∈ toLowerSpecials, r.holds row.1 = false := by
    decide +kernel
  obtain ⟨r, hr, hholds⟩ := List.any_eq_true.mp h
  have hspecial : toLowerSpecials.lookup c.toNat = none := by
    refine List.lookup_eq_none_iff.mpr fun row hrow => ?_
    have hnot := hspecials r hr row hrow
    refine bne_iff_ne.mpr fun heq => ?_
    rw [heq, hnot] at hholds
    exact Bool.noConfusion hholds
  have hshift : toLowerShifts.find? (·.run.holds c.toNat) = none := by
    refine List.find?_eq_none.mpr fun s hs => ?_
    have havoids := List.all_eq_true.mp (List.all_eq_true.mp htables r hr) s hs
    simp [Run.not_holds_of_avoids havoids hholds]
  rw [toLower, mapped, hspecial]
  show [shifted toLowerShifts c] = [c]
  rw [shifted, hshift]

/-- A letter or number that is no capital and is its own lower case. -/
structure Small (c : Char) : Prop where
  alphanumeric : isAlphanumeric c = true
  notUpper : isUpper c = false
  lower : toLower c = [c]

theorem small_of_isLower {c : Char} (h : isLower c = true)
    (halphanumeric : isAlphanumeric c = true) : Small c :=
  ⟨halphanumeric, not_isUpper_of_isLower h, toLower_of_isLower h⟩

/-! ## Capitals -/

/-- A capital, or a character without case, whose lower case is the small character that it is the
upper case of. -/
structure CapitalOf (c x : Char) : Prop where
  small : Small c
  upper : toUpper c = [x]
  alphanumeric : isAlphanumeric x = true
  notLower : isLower x = false
  lower : toLower x = [c]

/-- A character whose lower case has it as its upper case again, unless it is in lower case itself
or parts words. -/
def regained (x : Char) : Bool :=
  isLower x || !isAlphanumeric x ||
    match toLower x with
    | [c] => isAlphanumeric c && !isUpper c && toLower c == [c] && toUpper c == [x]
    | _ => false

theorem exists_capitalOf_of_regained {x : Char} (h : regained x = true)
    (halphanumeric : isAlphanumeric x = true) (hlower : isLower x = false) :
    ∃ c, CapitalOf c x := by
  rw [regained, hlower, halphanumeric, Bool.not_true, Bool.false_or, Bool.false_or] at h
  split at h
  · next c hc =>
    simp only [Bool.and_eq_true, Bool.not_eq_true', beq_iff_eq] at h
    obtain ⟨⟨⟨hsmall, hupper⟩, hlow⟩, hup⟩ := h
    exact ⟨c, ⟨hsmall, hupper, hlow⟩, hup, halphanumeric, hlower, hc⟩
  · exact absurd h Bool.false_ne_true

/-- All code points of a run are in the other. -/
def Run.within (r r' : Run) : Bool :=
  Nat.ble r'.first r.first && Nat.ble r.last r'.last && (r.first - r'.first) % r'.step == 0 &&
    r.step % r'.step == 0

theorem Run.holds_of_within {r r' : Run} (h : r.within r' = true) {n : Nat}
    (hn : r.holds n = true) : r'.holds n = true := by
  simp only [within, holds, Bool.and_eq_true, Nat.ble_eq, decide_eq_true_eq, beq_iff_eq] at h hn ⊢
  obtain ⟨⟨⟨hfirst, hlast⟩, hoffset⟩, hstep⟩ := h
  have hsplit : n - r'.first = (n - r.first) + (r.first - r'.first) := by omega
  refine ⟨by omega, ?_⟩
  have hmultiple : r'.step ∣ n - r.first :=
    Nat.dvd_trans (Nat.dvd_of_mod_eq_zero hstep) (Nat.dvd_of_mod_eq_zero hn.2)
  rw [hsplit]
  exact Nat.mod_eq_zero_of_dvd (Nat.dvd_add hmultiple (Nat.dvd_of_mod_eq_zero hoffset))

namespace Shift

/-- The code points that a shift leads to. -/
def image (s : Shift) : Run :=
  ⟨(s.run.first + s.offset).toNat, (s.run.last + s.offset).toNat, s.run.step⟩

/-- A table of shifts leads all code points of the image back. -/
def isUndone (shifts : List Shift) (s : Shift) : Bool :=
  decide (0 ≤ s.run.first + s.offset) && shifts.any (fun s' => s.image.within s'.run) &&
    shifts.all fun s' => s'.offset == -s.offset || s.image.avoids s'.run

variable {s : Shift} {shifts : List Shift} {n : Nat}

theorem first_nonneg_of_isUndone (h : s.isUndone shifts = true) :
    0 ≤ s.run.first + s.offset := by
  simp only [isUndone, Bool.and_eq_true, decide_eq_true_eq] at h
  exact h.1.1

theorem image_holds (hfirst : 0 ≤ s.run.first + s.offset) (hn : s.run.holds n = true) :
    s.image.holds (n + s.offset).toNat = true := by
  simp only [Run.holds, Bool.and_eq_true, decide_eq_true_eq, beq_iff_eq] at hn
  obtain ⟨⟨hlow, hhigh⟩, hstep⟩ := hn
  have hdistance : (n + s.offset).toNat - (s.run.first + s.offset).toNat = n - s.run.first := by
    omega
  have hlow' : (s.run.first + s.offset).toNat ≤ (n + s.offset).toNat := by omega
  have hhigh' : (n + s.offset).toNat ≤ (s.run.last + s.offset).toNat := by omega
  rw [image, Run.holds, hdistance, hstep, decide_eq_true hlow', decide_eq_true hhigh']
  rfl

-- Of the rows that name a code point of the image, the first leads it back.
theorem shifted_of_isUndone (h : s.isUndone shifts = true) (hn : s.run.holds n = true) {x : Char}
    (hx : x.toNat = (n + s.offset).toNat) : shifted shifts x = Char.ofNat n := by
  simp only [isUndone, Bool.and_eq_true, decide_eq_true_eq] at h
  obtain ⟨⟨hfirst, hany⟩, hall⟩ := h
  have himage := image_holds hfirst hn
  obtain ⟨s', hs', hwithin⟩ := List.any_eq_true.mp hany
  have hnamed : (shifts.find? (·.run.holds x.toNat)).isSome = true :=
    List.find?_isSome.mpr ⟨s', hs', hx ▸ Run.holds_of_within hwithin himage⟩
  obtain ⟨row, hrow⟩ := Option.isSome_iff_exists.mp hnamed
  have hholds := List.find?_some hrow
  rw [hx] at hholds
  have hoffset : row.offset = -s.offset := by
    have hback := List.all_eq_true.mp hall row (List.mem_of_find?_eq_some hrow)
    rw [Bool.or_eq_true, beq_iff_eq] at hback
    refine hback.resolve_right fun havoids => ?_
    rw [Run.not_holds_of_avoids havoids himage] at hholds
    exact absurd hholds Bool.false_ne_true
  have hpos : s.run.first ≤ n := by
    simp only [Run.holds, Bool.and_eq_true, decide_eq_true_eq] at hn
    exact hn.1.1
  rw [shifted, hrow]
  exact congrArg Char.ofNat (by omega)

end Shift

theorem toNat_charOfNat (n : Nat) : (Char.ofNat n).toNat = n ∨ (Char.ofNat n).toNat = 0 := by
  by_cases h : n.isValidChar
  · left
    rw [Char.ofNat, dif_pos h]
    rfl
  · right
    rw [Char.ofNat, dif_neg h]
    rfl

theorem toLower_of_isUndone {s : Shift} {c x : Char} (hback : s.isUndone toLowerShifts = true)
    (hordinary : (toLowerSpecials.all fun row => !s.image.holds row.1) = true)
    (hc : s.run.holds c.toNat = true) (hx : x.toNat = (c.toNat + s.offset).toNat) :
    toLower x = [c] := by
  have himage : s.image.holds x.toNat = true :=
    hx ▸ Shift.image_holds (Shift.first_nonneg_of_isUndone hback) hc
  have hnone : toLowerSpecials.lookup x.toNat = none := by
    refine List.lookup_eq_none_iff.mpr fun row hrow => bne_iff_ne.mpr fun heq => ?_
    have hnot := List.all_eq_true.mp hordinary row hrow
    rw [← heq, himage] at hnot
    exact Bool.noConfusion hnot
  rw [toLower, mapped, hnone]
  show [shifted toLowerShifts x] = [c]
  rw [Shift.shifted_of_isUndone hback hc hx, Char.ofNat_toNat]

-- The capital of a lower-case letter is led back to this letter, or to another small character.
theorem exists_capitalOf_of_mem_toUpper {c x : Char} (hc : isLower c = true)
    (hletter : isAlphanumeric c = true) (hx : x ∈ toUpper c)
    (halphanumeric : isAlphanumeric x = true) (hlower : isLower x = false) :
    ∃ y, CapitalOf y x := by
  have hspecials : (toUpperSpecials.all fun row => row.2.all fun n => regained (Char.ofNat n)) =
      true := by decide +kernel
  have hshifts : (toUpperShifts.all fun s =>
      (s.isUndone toLowerShifts && toLowerSpecials.all fun row => !s.image.holds row.1) ||
        s.run.elements.all fun n => regained (Char.ofNat (n + s.offset).toNat)) = true := by
    decide +kernel
  have hnul : alphanumericRuns.any (·.holds 0) = false := by decide +kernel
  rw [toUpper, mapped] at hx
  split at hx
  · next cs hlookup =>
    obtain ⟨before, after, hrow, -⟩ := List.lookup_eq_some_iff.mp hlookup
    obtain ⟨n, hn, rfl⟩ := List.mem_map.mp hx
    have hall := List.all_eq_true.mp hspecials (c.toNat, cs) (by simp [hrow])
    exact exists_capitalOf_of_regained (List.all_eq_true.mp hall n hn) halphanumeric hlower
  · next hlookup =>
    have htoUpper : toUpper c = [x] := by
      rw [toUpper, mapped, hlookup, List.mem_singleton.mp hx]
    rw [List.mem_singleton, shifted] at hx
    split at hx
    · next s hs =>
      have hholds := List.find?_some hs
      have hrow := List.all_eq_true.mp hshifts s (List.mem_of_find?_eq_some hs)
      rcases (Bool.or_eq_true _ _).mp hrow with hundone | hall
      · obtain ⟨hback, hordinary⟩ := (Bool.and_eq_true _ _).mp hundone
        have htoNat : x.toNat = (c.toNat + s.offset).toNat := by
          rw [hx]
          refine (toNat_charOfNat _).resolve_right fun hzero => ?_
          rw [isAlphanumeric, hx, hzero, hnul] at halphanumeric
          exact Bool.noConfusion halphanumeric
        have htoLower : toLower x = [c] := toLower_of_isUndone hback hordinary hholds htoNat
        exact ⟨c, small_of_isLower hc hletter, htoUpper, halphanumeric, hlower, htoLower⟩
      · have hregained := List.all_eq_true.mp hall _ (Run.mem_elements hholds)
        rw [← hx] at hregained
        exact exists_capitalOf_of_regained hregained halphanumeric hlower
    · rw [hx, hc] at hlower
      exact absurd hlower Bool.noConfusion

end SqlWeave.Text
