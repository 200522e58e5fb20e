import SqlWeave.Proofs.Letters
import SqlWeave.Proofs.Scan

/-!
# Scanning compiled statements

The dialects that come with the library keep their quotes out of everything but identifiers.  So a
scanner reads the text of a statement without raw SQL as it was written.
-/

namespace SqlWeave

namespace Text

-- No punctuation is the upper-case form of another character.
theorem mem_toUpper {c x : Char} (h : c ∈ toUpper x) :
    c = x ∨ c.toNat = 0 ∨ 'A'.toNat ≤ c.toNat := by
  have hspecials : ∀ row ∈ toUpperSpecials, ∀ n ∈ row.2, 'A'.toNat ≤ n := by decide +kernel
  have hshifts : ∀ row ∈ toUpperShifts, ('A'.toNat : Int) ≤ row.run.first + row.offset := by
    decide +kernel
  have hofNat : ∀ n, 'A'.toNat ≤ n →
      (Char.ofNat n).toNat = 0 ∨ 'A'.toNat ≤ (Char.ofNat n).toNat := by
    intro n hn
    rcases toNat_charOfNat n with h | h <;> omega
  unfold toUpper mapped at h
  split at h
  · next cs hlookup =>
    obtain ⟨before, after, hrow, -⟩ := List.lookup_eq_some_iff.mp hlookup
    obtain ⟨n, hn, rfl⟩ := List.mem_map.mp h
    exact Or.inr (hofNat n (hspecials (x.toNat, cs) (by simp [hrow]) n hn))
  · rw [List.mem_singleton] at h
    unfold shifted at h
    split at h
    · next row hfind =>
      have hholds := List.find?_some hfind
      have hfirst : row.run.first ≤ x.toNat := by
        simp only [Run.holds, Bool.and_eq_true, decide_eq_true_eq] at hholds
        exact hholds.1.1
      have hbound := hshifts row (List.mem_of_find?_eq_some hfind)
      rw [h]
      exact Or.inr (hofNat _ (by omega))
    · exact Or.inl h

end Text

/-! ## Dialects -/

section Dialect

variable {bad : List Char}

theorem ClearOf.append {a b : String} (ha : ClearOf bad a) (hb : ClearOf bad b) :
    ClearOf bad (a ++ b) := by
  intro c hc
  rw [String.toList_append, List.mem_append] at hc
  exact hc.elim (ha c) (hb c)

theorem ClearOf.upperText {s : String} (h : ClearOf bad s)
    (hbad : ∀ c ∈ bad, 0 < c.toNat ∧ c.toNat < 'A'.toNat) : ClearOf bad (Text.upperText s) := by
  intro c hc hmem
  rw [Text.upperText, String.toList_ofList] at hc
  obtain ⟨x, hx, hcx⟩ := List.mem_flatMap.mp hc
  have hrange := hbad c hmem
  rcases Text.mem_toUpper hcx with rfl | h0 | hA
  · exact h c hx hmem
  · omega
  · omega

theorem Dialect.postgres_scannable (hquote : '"' ∈ bad) (hbad : ∀ c ∈ bad, c ∈ ['"', '$']) :
    postgres.Scannable bad := by
  have hclear : ∀ s : String, SqlWeave.ClearOf ['"', '$'] s → SqlWeave.ClearOf bad s :=
    fun s hs c hc hmem => hs c hc (hbad c hmem)
  have hrange : ∀ c ∈ bad, 0 < c.toNat ∧ c.toNat < 'A'.toNat := by
    have hall : ∀ c ∈ ['"', '$'], 0 < c.toNat ∧ c.toNat < 'A'.toNat := by simp
    exact fun c hc => hall c (hbad c hc)
  constructor
  case clear => exact ⟨hclear _ (by decide), hclear _ (by decide), hclear _ (by decide)⟩
  case quote => exact hquote
  case delimiter => decide
  case placeholder =>
    intro n hn
    change '"' ∈ ("$" ++ toString n).toList at hn
    rw [String.toList_append, List.mem_append] at hn
    rcases hn with hn | hn
    · exact absurd hn (by decide)
    · exact absurd (Nat.isDigit_of_mem_toDigits (b := 10) (by decide) (by decide)
        (by rwa [← Nat.toList_repr])) (by decide)
  case format =>
    intro s hs
    exact ((hclear "(FORMAT " (by decide)).append (hs.upperText hrange)).append
      (hclear ")" (by decide))

theorem Dialect.mysql_scannable : mysql.Scannable [mysql.quote] where
  clear := ⟨by decide, by decide, by decide⟩
  quote := by decide
  delimiter := by decide
  placeholder _ := (by decide : mysql.quote ∉ "?".toList)
  format s hs := by
    have hformat : SqlWeave.ClearOf [mysql.quote] "FORMAT=" := by decide
    exact hformat.append hs

theorem Dialect.sqlite_scannable : sqlite.Scannable [sqlite.quote] where
  clear := ⟨by decide, by decide, by decide⟩
  quote := by decide
  delimiter := by decide
  placeholder _ := (by decide : sqlite.quote ∉ "?".toList)
  format _ _ := (by decide : SqlWeave.ClearOf [sqlite.quote] "QUERY PLAN")

/-- The dialects that come with the library. -/
def Dialect.builtIn : List Dialect := [postgres, mysql, sqlite]

theorem Dialect.scannable_of_builtIn {d : Dialect} (hd : d ∈ builtIn) : d.Scannable [d.quote] := by
  simp only [builtIn, List.mem_cons, List.not_mem_nil, or_false] at hd
  rcases hd with rfl | rfl | rfl
  · exact postgres_scannable (by decide) (by simp [postgres, standard])
  · exact mysql_scannable
  · exact sqlite_scannable

end Dialect

/-! ## Statements -/

/-- No raw SQL, and none of some characters in the names of functions and in the format of a
request to explain. -/
structure Query.Clean (bad : List Char) (q : Query) : Prop where
  exprs : q.Everywhere (Expr.Plain (ClearOf bad) fun _ => True)
  format : ∀ x ∈ q.explain, ∀ s ∈ x.format, ClearOf bad s

namespace Query

variable {d : Dialect} {bad : List Char} {q : Query} {sql : Sql}

theorem fits_of_clean (hd : d.Scannable bad) (hq : q.Clean bad) : Fits d bad q.rootPieces :=
  fits hd.clear (fun _ h => h) hq.exprs fun x hx s hs => hd.format s (hq.format x hx s hs)

-- A compiled statement is scanned into the tokens that its pieces are written for.
theorem tokens_of_compile (hd : d.Scannable bad) (hfits : Fits d bad q.rootPieces)
    (h : q.compile d = .ok sql) :
    Scan.tokens d.quote .outside sql.text.toList = Piece.tokens d 1 q.rootPieces := by
  obtain ⟨u, hu⟩ := hfits
  rw [eq_ofSymbols_of_compile h, Sql.text_ofSymbols, symbols, Piece.tokens_layout hu hd]

end Query

end SqlWeave
