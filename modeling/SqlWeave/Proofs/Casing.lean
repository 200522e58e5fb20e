import SqlWeave.Proofs.Letters

/-!
# Words and their case

Identifiers made of words that begin with two small letters are split into these words again,
whether the words are joined by underscores or by capitals.  Where a word ends is found from the
letters on both sides, so the scan is followed letter by letter.
-/

namespace SqlWeave.Text

/-! ## ASCII -/

theorem exists_of_isLower {c : Char} (h : c.isLower = true) :
    ∃ n ∈ List.range 26, c = Char.ofNat (97 + n) := by
  change (decide ('a'.val ≤ c.val) && decide (c.val ≤ 'z'.val)) = true at h
  simp only [Bool.and_eq_true, decide_eq_true_eq, UInt32.le_iff_toNat_le] at h
  change 97 ≤ c.toNat ∧ c.toNat ≤ 122 at h
  refine ⟨c.toNat - 97, List.mem_range.mpr (by omega), ?_⟩
  rw [Nat.add_sub_cancel' h.1, Char.ofNat_toNat]

theorem exists_of_isDigit {c : Char} (h : c.isDigit = true) :
    ∃ n ∈ List.range 10, c = Char.ofNat (48 + n) := by
  change (decide ('0'.val ≤ c.val) && decide (c.val ≤ '9'.val)) = true at h
  simp only [Bool.and_eq_true, decide_eq_true_eq, UInt32.le_iff_toNat_le] at h
  change 48 ≤ c.toNat ∧ c.toNat ≤ 57 at h
  refine ⟨c.toNat - 48, List.mem_range.mpr (by omega), ?_⟩
  rw [Nat.add_sub_cancel' h.1, Char.ofNat_toNat]

theorem ascii_letter {c : Char} (h : c.isLower = true) :
    isAlphanumeric c = true ∧ isLower c = true ∧ ∃ x, toUpper c = [x] ∧ isAlphanumeric x = true ∧
      isUpper x = true ∧ toLower x = [c] ∧ toUpper x = [x] := by
  have htable : ∀ n ∈ List.range 26,
      let a := Char.ofNat (97 + n)
      let x := Char.ofNat (65 + n)
      isAlphanumeric a = true ∧ isLower a = true ∧ toUpper a = [x] ∧ isAlphanumeric x = true ∧
        isUpper x = true ∧ toLower x = [a] ∧ toUpper x = [x] := by decide +kernel
  obtain ⟨n, hn, rfl⟩ := exists_of_isLower h
  obtain ⟨halphanumeric, hlower, hupper, hx⟩ := htable n hn
  exact ⟨halphanumeric, hlower, _, hupper, hx⟩

/-- A letter or number that is the same in both cases, such as a digit. -/
structure Caseless (c : Char) : Prop where
  alphanumeric : isAlphanumeric c = true
  notLower : isLower c = false
  notUpper : isUpper c = false
  lower : toLower c = [c]
  upper : toUpper c = [c]

theorem caseless_of_isDigit {c : Char} (h : c.isDigit = true) : Caseless c := by
  have htable : ∀ n ∈ List.range 10,
      let c := Char.ofNat (48 + n)
      isAlphanumeric c = true ∧ isLower c = false ∧ isUpper c = false ∧ toLower c = [c] ∧
        toUpper c = [c] := by decide +kernel
  obtain ⟨n, hn, rfl⟩ := exists_of_isDigit h
  obtain ⟨halphanumeric, hlower, hupper, hlow, hup⟩ := htable n hn
  exact ⟨halphanumeric, hlower, hupper, hlow, hup⟩

theorem Caseless.small {c : Char} (h : Caseless c) : Small c :=
  ⟨h.alphanumeric, h.notUpper, h.lower⟩

theorem Caseless.capitalOf {c : Char} (h : Caseless c) : CapitalOf c c :=
  ⟨h.small, h.upper, h.alphanumeric, h.notLower, h.lower⟩

/-! ## Splitting at separators -/

theorem parts_append {w : List Char} (h : ∀ c ∈ w, isAlphanumeric c = true)
    (part rest : List Char) : parts part (w ++ rest) = parts (w.reverse ++ part) rest := by
  induction w generalizing part with
  | nil => rfl
  | cons c w ih =>
    rw [List.forall_mem_cons] at h
    rw [List.cons_append, parts, if_pos h.1, ih h.2, List.reverse_cons, List.append_assoc,
      List.singleton_append]

theorem parts_underscored {ws : List (List Char)} (hne : ws ≠ [])
    (h : ∀ w ∈ ws, ∀ c ∈ w, isAlphanumeric c = true) : parts [] (underscored ws) = ws := by
  have hunderscore : isAlphanumeric '_' = false := not_isAlphanumeric_punctuation '_' (by simp)
  induction ws with
  | nil => exact absurd rfl hne
  | cons w rest ih =>
    rw [List.forall_mem_cons] at h
    cases rest with
    | nil =>
      have hparts := parts_append h.1 [] []
      rw [List.append_nil, List.append_nil, parts, List.reverse_reverse] at hparts
      rw [underscored, hparts]
    | cons next rest =>
      rw [underscored, parts_append h.1, parts, if_neg (by rw [hunderscore]; decide),
        List.append_nil, List.reverse_reverse, ih (by simp) h.2]
      exact nofun

/-! ## Splitting at changes of case -/

variable {mode : WordCase} {word tail w : List Char} {c : Char}

-- A word that has come to small letters goes on up to the next capital.
theorem splitCases_small (hmode : mode.next c = .lower) (hc : isUpper c = false)
    (hw : ∀ x ∈ w, isUpper x = false) (htail : ∀ x ∈ tail.head?, isUpper x = true) :
    splitCases mode word (c :: w ++ tail) =
      (word.reverse ++ c :: w) :: splitCases .none [] tail := by
  induction w generalizing mode word c with
  | nil =>
    cases tail with
    | nil => simp [splitCases]
    | cons x tail =>
      rw [List.singleton_append, splitCases, if_pos ⟨hmode, htail x rfl⟩, List.reverse_cons]
  | cons x w ih =>
    rw [List.forall_mem_cons] at hw
    have hnext : WordCase.lower.next x = .lower := by
      simp [WordCase.next, hw.1]
    rw [List.cons_append, List.cons_append, splitCases, if_neg (by simp [hw.1]),
      if_neg (by simp [hc]), hmode]
    refine (ih hnext hw.1 hw.2).trans ?_
    rw [List.reverse_cons, List.append_assoc, List.singleton_append]

-- A word without lower-case letters is one word.
theorem splitCases_capitals (hmode : mode ≠ .lower) (h : ∀ x ∈ c :: w, isLower x = false) :
    splitCases mode word (c :: w) = [word.reverse ++ c :: w] := by
  induction w generalizing mode word c with
  | nil => simp [splitCases]
  | cons x w ih =>
    rw [List.forall_mem_cons] at h
    have hnext : mode.next c ≠ .lower := by
      rw [WordCase.next, if_neg (by simp [h.1])]
      split
      · decide
      · exact hmode
    rw [splitCases, if_neg (by simp [hnext]), if_neg (by simp [h.2 x List.mem_cons_self]),
      ih hnext h.2, List.reverse_cons, List.append_assoc, List.singleton_append]

/-! ## Words in lower case -/

/-- A word of small letters that begins with two letters of ASCII. -/
def SmallWord (w : List Char) : Prop :=
  ∃ a b rest, w = a :: b :: rest ∧ a.isLower = true ∧ b.isLower = true ∧ ∀ c ∈ rest, Small c

-- Only a capital sigma at the end of a word has a lower case of its own there.
theorem lowerWord_cons {c : Char} {w : List Char} (hc : c = 'Σ' → w ≠ []) :
    lowerWord (c :: w) = toLower c ++ lowerWord w := by
  cases w with
  | nil =>
    have hsigma : c ≠ 'Σ' := fun h => hc h rfl
    simp [lowerWord, hsigma]
  | cons x w =>
    rw [lowerWord]
    exact nofun

theorem isUpper_sigma : isUpper 'Σ' = true := by decide +kernel

theorem Small.ne_sigma {c : Char} (h : Small c) : c ≠ 'Σ' := by
  rintro rfl
  exact absurd (isUpper_sigma.symm.trans h.notUpper) (by decide)

theorem lowerWord_small {w : List Char} (h : ∀ c ∈ w, Small c) : lowerWord w = w := by
  induction w with
  | nil => rfl
  | cons c w ih =>
    rw [List.forall_mem_cons] at h
    rw [lowerWord_cons fun hc => absurd hc h.1.ne_sigma, h.1.lower, ih h.2, List.singleton_append]

theorem small_of_ascii {c : Char} (h : c.isLower = true) : Small c :=
  small_of_isLower (ascii_letter h).2.1 (ascii_letter h).1

namespace SmallWord

variable {w : List Char} (h : SmallWord w)
include h

theorem small : ∀ c ∈ w, Small c := by
  obtain ⟨a, b, rest, rfl, ha, hb, hrest⟩ := h
  exact List.forall_mem_cons.mpr
    ⟨small_of_ascii ha, List.forall_mem_cons.mpr ⟨small_of_ascii hb, hrest⟩⟩

theorem lowerWord_eq : lowerWord w = w := lowerWord_small h.small

-- A capital at the start is all that changes.
theorem exists_capitalWord :
    ∃ x b rest, capitalWord w = x :: b :: rest ∧ isUpper x = true ∧ isAlphanumeric x = true ∧
      isLower b = true ∧ (∀ c ∈ b :: rest, Small c) ∧ lowerWord (x :: b :: rest) = w ∧
      upperWord (x :: b :: rest) = upperWord w := by
  have hsmall := h.small
  obtain ⟨a, b, rest, rfl, ha, hb, -⟩ := h
  obtain ⟨-, -, x, hx, halphanumeric, hupper, hlower, hidem⟩ := ascii_letter ha
  rw [List.forall_mem_cons] at hsmall
  refine ⟨x, b, rest, ?_, hupper, halphanumeric, (ascii_letter hb).2.1, hsmall.2, ?_, ?_⟩
  · rw [capitalWord, hx, lowerWord_small hsmall.2, List.singleton_append]
  · rw [lowerWord, hlower, lowerWord_small hsmall.2, List.singleton_append]
    exact nofun
  · show toUpper x ++ upperWord (b :: rest) = toUpper a ++ upperWord (b :: rest)
    rw [hidem, hx]

end SmallWord

/-! ## Keys -/

variable {ws : List (List Char)}

theorem head?_flatMap_capitalWord (h : ∀ w ∈ ws, SmallWord w) :
    ∀ c ∈ (ws.flatMap capitalWord).head?, isUpper c = true := by
  cases ws with
  | nil => exact nofun
  | cons w rest =>
    obtain ⟨x, b, r, hword, hupper, -⟩ := (h w List.mem_cons_self).exists_capitalWord
    intro c hc
    rw [List.flatMap_cons, hword, List.cons_append, List.head?_cons, Option.mem_some_iff] at hc
    exact hc ▸ hupper

-- A word ends before the capital of the next one.
theorem splitCases_flatMap_capitalWord (h : ∀ w ∈ ws, SmallWord w) :
    splitCases .none [] (ws.flatMap capitalWord) = ws.map capitalWord := by
  induction ws with
  | nil => rfl
  | cons w rest ih =>
    rw [List.forall_mem_cons] at h
    obtain ⟨x, b, r, hword, hupper, -, hb, hsmall, -⟩ := h.1.exists_capitalWord
    have hx : isLower x = false := not_isLower_of_isUpper hupper
    have hb' : isUpper b = false := (hsmall b List.mem_cons_self).notUpper
    have hcapital : WordCase.none.next x = .upper := by simp [WordCase.next, hx, hupper]
    have hlower : WordCase.upper.next b = .lower := by simp [WordCase.next, hb]
    have hrest : ∀ c ∈ r, isUpper c = false := fun c hc =>
      (hsmall c (List.mem_cons_of_mem _ hc)).notUpper
    rw [List.flatMap_cons, List.map_cons, hword, List.cons_append, List.cons_append, splitCases,
      if_neg (by simp [hb']), if_neg (by simp), hcapital, ← List.cons_append,
      splitCases_small hlower hb' hrest (head?_flatMap_capitalWord h.2), ih h.2]
    rfl

theorem splitCases_camelWords {w : List Char} (hw : SmallWord w) (h : ∀ w ∈ ws, SmallWord w) :
    splitCases .none [] (w ++ ws.flatMap capitalWord) = w :: ws.map capitalWord := by
  have hsmall := hw.small
  obtain ⟨a, b, rest, rfl, ha, -⟩ := hw
  rw [List.forall_mem_cons] at hsmall
  have hlower : WordCase.none.next a = .lower := by simp [WordCase.next, (ascii_letter ha).2.1]
  have hrest : ∀ c ∈ b :: rest, isUpper c = false := fun c hc => (hsmall.2 c hc).notUpper
  rw [splitCases_small hlower hsmall.1.notUpper hrest (head?_flatMap_capitalWord h),
    splitCases_flatMap_capitalWord h]
  rfl

theorem words_camelWords {w : List Char} (hw : SmallWord w) (h : ∀ w ∈ ws, SmallWord w) :
    words (String.ofList (camelWords (w :: ws))) = w :: ws.map capitalWord := by
  have hkey : ∀ c ∈ w ++ ws.flatMap capitalWord, isAlphanumeric c = true := by
    intro c hc
    rcases List.mem_append.mp hc with hc | hc
    · exact (hw.small c hc).alphanumeric
    · obtain ⟨v, hv, hc⟩ := List.mem_flatMap.mp hc
      obtain ⟨x, b, r, hword, -, hx, -, hsmall, -⟩ := (h v hv).exists_capitalWord
      rw [hword] at hc
      rcases List.mem_cons.mp hc with rfl | hc
      · exact hx
      · exact (hsmall c hc).alphanumeric
  have hparts : parts [] (w ++ ws.flatMap capitalWord) = [w ++ ws.flatMap capitalWord] := by
    have hall := parts_append hkey [] []
    rwa [List.append_nil, List.append_nil, parts, List.reverse_reverse] at hall
  rw [words, String.toList_ofList, camelWords, hw.lowerWord_eq, hparts, List.flatMap_singleton,
    splitCases_camelWords hw h]

theorem lowerWord_capitalWord {w : List Char} (h : SmallWord w) :
    lowerWord (capitalWord w) = w := by
  obtain ⟨x, b, rest, hword, -, -, -, -, hlower, -⟩ := h.exists_capitalWord
  rw [hword, hlower]

theorem upperWord_capitalWord {w : List Char} (h : SmallWord w) :
    upperWord (capitalWord w) = upperWord w := by
  obtain ⟨x, b, rest, hword, -, -, -, -, -, hupper⟩ := h.exists_capitalWord
  rw [hword, hupper]

-- The words of a key in camel case are found again.
theorem snakeCase_camelWords (h : ∀ w ∈ ws, SmallWord w) :
    snakeCase (String.ofList (camelWords ws)) = String.ofList (underscored ws) := by
  cases ws with
  | nil => rfl
  | cons w rest =>
    rw [List.forall_mem_cons] at h
    have hrest : (rest.map capitalWord).map lowerWord = rest := by
      rw [List.map_map]
      exact (List.map_congr_left fun v hv => lowerWord_capitalWord (h.2 v hv)).trans
        (List.map_id rest)
    rw [snakeCase, words_camelWords h.1 h.2, List.map_cons, h.1.lowerWord_eq, hrest]

theorem shoutingCase_camelWords (h : ∀ w ∈ ws, SmallWord w) :
    shoutingCase (String.ofList (camelWords ws)) =
      String.ofList (underscored (ws.map upperWord)) := by
  cases ws with
  | nil => rfl
  | cons w rest =>
    rw [List.forall_mem_cons] at h
    have hrest : (rest.map capitalWord).map upperWord = rest.map upperWord := by
      rw [List.map_map]
      exact List.map_congr_left fun v hv => upperWord_capitalWord (h.2 v hv)
    rw [shoutingCase, words_camelWords h.1 h.2, List.map_cons, List.map_cons, hrest]

/-! ## Columns -/

-- Words without changes of case are found again between underscores.
theorem words_underscored
    (h : ∀ w ∈ ws, (∀ c ∈ w, isAlphanumeric c = true) ∧ splitCases .none [] w = [w]) :
    words (String.ofList (underscored ws)) = ws := by
  cases ws with
  | nil => rfl
  | cons w rest =>
    have hwhole : (w :: rest).map (splitCases .none []) = (w :: rest).map fun v => [v] :=
      List.map_congr_left fun v hv => (h v hv).2
    rw [words, String.toList_ofList, parts_underscored (by simp) fun v hv => (h v hv).1,
      List.flatMap_def, hwhole, ← List.flatMap_def, List.flatMap_singleton']

theorem camelCase_underscored (h : ∀ w ∈ ws, SmallWord w) :
    camelCase (String.ofList (underscored ws)) = String.ofList (camelWords ws) := by
  rw [camelCase, words_underscored fun w hw => ⟨fun c hc => ((h w hw).small c hc).alphanumeric, ?_⟩]
  have hsplit := splitCases_camelWords (h w hw) (List.forall_mem_nil _)
  rwa [List.flatMap_nil, List.append_nil, List.map_nil] at hsplit

/-! ## Columns in capitals -/

theorem exists_capitalOf_ascii {c : Char} (h : c.isLower = true) :
    ∃ x, CapitalOf c x ∧ isUpper x = true ∧ toUpper x = [x] ∧ x ≠ 'Σ' := by
  obtain ⟨halphanumeric, hlower, x, hup, hx, hupper, hlow, hidem⟩ := ascii_letter h
  refine ⟨x, ⟨small_of_ascii h, hup, hx, not_isLower_of_isUpper hupper, hlow⟩, hupper, hidem, ?_⟩
  rintro rfl
  have hsigma : toLower 'Σ' = ['σ'] := by decide +kernel
  rw [hsigma, List.singleton_inj] at hlow
  exact absurd h (by rw [← hlow]; decide)

-- The lower case of capitals has these capitals again, also where a sigma takes its final form.
theorem lowerWord_capitals {w : List Char} (h : ∀ x ∈ w, ∃ c, CapitalOf c x) :
    (∀ c ∈ lowerWord w, Small c) ∧ upperWord (lowerWord w) = w := by
  have hsigma : Small 'ς' ∧ toUpper 'ς' = ['Σ'] ∧ lowerWord ['Σ'] = ['ς'] :=
    ⟨⟨by decide +kernel, by decide +kernel, by decide +kernel⟩, by decide +kernel, rfl⟩
  induction w with
  | nil => exact ⟨List.forall_mem_nil _, rfl⟩
  | cons x w ih =>
    rw [List.forall_mem_cons] at h
    obtain ⟨⟨c, hc⟩, hw⟩ := h
    obtain ⟨hsmall, hupper⟩ := ih hw
    by_cases hfinal : x = 'Σ' ∧ w = []
    · obtain ⟨rfl, rfl⟩ := hfinal
      rw [hsigma.2.2]
      refine ⟨List.forall_mem_singleton.mpr hsigma.1, ?_⟩
      rw [upperWord, List.flatMap_singleton, hsigma.2.1]
    · rw [lowerWord_cons fun hx hnil => hfinal ⟨hx, hnil⟩, hc.lower, List.singleton_append]
      refine ⟨List.forall_mem_cons.mpr ⟨hc.small, hsmall⟩, ?_⟩
      show toUpper c ++ upperWord (lowerWord w) = x :: w
      rw [hc.upper, hupper, List.singleton_append]

/-- A word of a column: two lower-case letters of ASCII, and then lower-case letters and digits. -/
def ColumnWord (w : List Char) : Prop :=
  ∃ a b rest, w = a :: b :: rest ∧ a.isLower = true ∧ b.isLower = true ∧
    ∀ c ∈ rest, Caseless c ∨ isAlphanumeric c = true ∧ isLower c = true

/-- In upper case the word is all capitals and digits.  A letter without a capital would stay in
lower case, and some letters become a capital and a mark, at which words are parted. -/
def HasCapitals (w : List Char) : Prop :=
  ∀ x ∈ upperWord w, isAlphanumeric x = true ∧ isLower x = false

theorem ColumnWord.smallWord {w : List Char} (h : ColumnWord w) : SmallWord w := by
  obtain ⟨a, b, rest, rfl, ha, hb, hrest⟩ := h
  refine ⟨a, b, rest, rfl, ha, hb, fun c hc => ?_⟩
  rcases hrest c hc with hcaseless | ⟨halphanumeric, hlower⟩
  · exact hcaseless.small
  · exact small_of_isLower hlower halphanumeric

theorem columnWord_of_ascii {a b : Char} {rest : List Char} (ha : a.isLower = true)
    (hb : b.isLower = true) (hrest : ∀ c ∈ rest, c.isDigit = true ∨ c.isLower = true) :
    ColumnWord (a :: b :: rest) := by
  refine ⟨a, b, rest, rfl, ha, hb, fun c hc => ?_⟩
  rcases hrest c hc with hdigit | hlower
  · exact .inl (caseless_of_isDigit hdigit)
  · exact .inr ⟨(ascii_letter hlower).1, (ascii_letter hlower).2.1⟩

theorem hasCapitals_of_ascii {w : List Char} (h : ∀ c ∈ w, c.isDigit = true ∨ c.isLower = true) :
    HasCapitals w := by
  intro x hx
  obtain ⟨c, hc, hxc⟩ := List.mem_flatMap.mp hx
  rcases h c hc with hdigit | hlower
  · have hcaseless := caseless_of_isDigit hdigit
    rw [hcaseless.upper, List.mem_singleton] at hxc
    exact hxc ▸ ⟨hcaseless.alphanumeric, hcaseless.notLower⟩
  · obtain ⟨-, -, y, hup, halphanumeric, hupper, -⟩ := ascii_letter hlower
    rw [hup, List.mem_singleton] at hxc
    exact hxc ▸ ⟨halphanumeric, not_isLower_of_isUpper hupper⟩

section

variable {w : List Char} (h : ColumnWord w) (hcapitals : HasCapitals w)
include h hcapitals

theorem exists_capitalOf : ∀ x ∈ upperWord w, ∃ c, CapitalOf c x := by
  have hletter (c : Char) (hc : c ∈ w) :
      Caseless c ∨ isAlphanumeric c = true ∧ isLower c = true := by
    obtain ⟨a, b, rest, rfl, ha, hb, hrest⟩ := h
    rcases List.mem_cons.mp hc with rfl | hc
    · exact .inr ⟨(ascii_letter ha).1, (ascii_letter ha).2.1⟩
    rcases List.mem_cons.mp hc with rfl | hc
    · exact .inr ⟨(ascii_letter hb).1, (ascii_letter hb).2.1⟩
    · exact hrest c hc
  intro x hx
  obtain ⟨c, hc, hxc⟩ := List.mem_flatMap.mp hx
  rcases hletter c hc with hcaseless | ⟨halphanumeric, hlower⟩
  · rw [hcaseless.upper, List.mem_singleton] at hxc
    exact ⟨c, hxc ▸ hcaseless.capitalOf⟩
  · obtain ⟨hx, hnotLower⟩ := hcapitals x hx
    exact exists_capitalOf_of_mem_toUpper hlower halphanumeric hxc hx hnotLower

-- A word in capitals is one word.
theorem splitCases_upperWord :
    (∀ x ∈ upperWord w, isAlphanumeric x = true) ∧
      splitCases .none [] (upperWord w) = [upperWord w] := by
  have hlower : ∀ x ∈ upperWord w, isLower x = false := fun x hx => (hcapitals x hx).2
  refine ⟨fun x hx => (hcapitals x hx).1, ?_⟩
  obtain ⟨a, b, rest, rfl, ha, -⟩ := h
  obtain ⟨x, hx, -⟩ := exists_capitalOf_ascii ha
  have hword : upperWord (a :: b :: rest) = x :: upperWord (b :: rest) := by
    show toUpper a ++ upperWord (b :: rest) = _
    rw [hx.upper, List.singleton_append]
  rw [hword] at hlower ⊢
  exact splitCases_capitals (by decide) hlower

theorem smallWord_lowerWord :
    SmallWord (lowerWord (upperWord w)) ∧
      capitalWord (upperWord w) = capitalWord (lowerWord (upperWord w)) := by
  have hall := exists_capitalOf h hcapitals
  obtain ⟨a, b, rest, rfl, ha, hb, -⟩ := h
  obtain ⟨x, hx, -, hidem, hxsigma⟩ := exists_capitalOf_ascii ha
  obtain ⟨y, hy, -, -, hysigma⟩ := exists_capitalOf_ascii hb
  have hword : upperWord (a :: b :: rest) = x :: y :: upperWord rest := by
    show toUpper a ++ (toUpper b ++ upperWord rest) = _
    rw [hx.upper, hy.upper]
    rfl
  have hsmall : ∀ c ∈ lowerWord (upperWord rest), Small c := by
    rw [hword] at hall
    exact (lowerWord_capitals fun x hx => hall x (by simp [hx])).1
  have hsecond : lowerWord (y :: upperWord rest) = b :: lowerWord (upperWord rest) := by
    rw [lowerWord_cons fun h => absurd h hysigma, hy.lower, List.singleton_append]
  have hlower : lowerWord (x :: y :: upperWord rest) = a :: b :: lowerWord (upperWord rest) := by
    rw [lowerWord_cons fun h => absurd h hxsigma, hsecond, hx.lower, List.singleton_append]
  have hbsmall : ∀ c ∈ b :: lowerWord (upperWord rest), Small c :=
    List.forall_mem_cons.mpr ⟨hy.small, hsmall⟩
  rw [hword, hlower]
  refine ⟨⟨a, b, _, rfl, ha, hb, hsmall⟩, ?_⟩
  rw [capitalWord, capitalWord, hidem, hx.upper, hsecond, lowerWord_small hbsmall]

end

theorem camelCase_underscored_upperWord (h : ∀ w ∈ ws, ColumnWord w ∧ HasCapitals w) :
    camelCase (String.ofList (underscored (ws.map upperWord))) =
      String.ofList (camelWords (ws.map fun w => lowerWord (upperWord w))) := by
  have hwords : words (String.ofList (underscored (ws.map upperWord))) = ws.map upperWord :=
    words_underscored (List.forall_mem_map.mpr fun w hw =>
      splitCases_upperWord (h w hw).1 (h w hw).2)
  have hsmall (w : List Char) (hw : w ∈ ws) := smallWord_lowerWord (h w hw).1 (h w hw).2
  rw [camelCase, hwords]
  cases ws with
  | nil => rfl
  | cons w rest =>
    rw [List.forall_mem_cons] at hsmall
    have hrest : (rest.map upperWord).map capitalWord =
        (rest.map fun v => lowerWord (upperWord v)).map capitalWord := by
      rw [List.map_map, List.map_map]
      exact List.map_congr_left fun v hv => (hsmall.2 v hv).2
    rw [List.map_cons, List.map_cons, camelWords, camelWords, hsmall.1.1.lowerWord_eq,
      List.flatMap_def, hrest, ← List.flatMap_def]

/-- The name that words make: joined by underscores, all in lower case or all in upper case. -/
def columnOf (capitals : Bool) (ws : List (List Char)) : String :=
  String.ofList (underscored (if capitals then ws.map upperWord else ws))

/-- A column name whose words can be told apart: in upper case all of them are in capitals. -/
def IsColumn (capitals : Bool) (column : String) : Prop :=
  ∃ ws : List (List Char), (∀ w ∈ ws, ColumnWord w ∧ (capitals = true → HasCapitals w)) ∧
    column = columnOf capitals ws

end SqlWeave.Text
