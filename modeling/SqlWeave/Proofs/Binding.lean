import Mathlib
import SqlWeave.Postgres.Column

/-!
# Values bound to parameters

A field that was read can be bound to a parameter of the same type, which receives the bytes that
the column had; and an integer reaches a parameter unchanged or not at all.  The identifiers of a
database's own objects are the exception: they are read from columns of type `oid`, but no parameter
of that type takes them.
-/

namespace SqlWeave

open SqlWeave.Text (number? whole)

/-! ## Integers of a width -/

theorem Bytes.range_eq {width : Nat} (h : 0 < width) : range width = 2 * 2 ^ (8 * width - 1) := by
  have hbits : 8 * width = (8 * width - 1) + 1 := by omega
  calc 256 ^ width
    _ = 2 ^ (8 * width) := (Nat.pow_mul 2 8 width).symm
    _ = 2 ^ (8 * width - 1 + 1) := by rw [← hbits]
    _ = 2 * 2 ^ (8 * width - 1) := Nat.pow_succ'

-- The integers with a form of a given width are those of two's complement.
theorem Bytes.fits_iff {width : Nat} (h : 0 < width) {i : Int} :
    fits width i = true ↔ -2 ^ (8 * width - 1) ≤ i ∧ i < 2 ^ (8 * width - 1) := by
  have hrange : (range width : Int) = 2 * 2 ^ (8 * width - 1) := by
    rw [range_eq h]
    push_cast
    rfl
  rw [fits, decide_eq_true_eq, hrange]
  omega

/-- The integer that a text writes in decimal digits, after a minus sign if it is negative. -/
def Text.integer? : List Char → Option Int
  | '-' :: digits => (whole number? digits).map fun n : Nat => -(n : Int)
  | digits => (whole number? digits).map fun n : Nat => (n : Int)

theorem Text.integer?_intText (i : Int) : integer? (Json.intText i) = some i := by
  have hnumber := whole_number?_toDigits i.natAbs
  by_cases hneg : i < 0
  · rw [Json.intText, if_pos hneg, List.singleton_append, integer?, hnumber, Option.map_some]
    congr
    omega
  · rw [Json.intText, if_neg hneg, List.nil_append, integer?, hnumber, Option.map_some]
    · congr
      omega
    · intro digits hdigits
      have hdigit : '-' ∈ Nat.toDigits 10 i.natAbs := hdigits ▸ List.mem_cons_self
      exact absurd (Nat.isDigit_of_mem_toDigits (by decide) (by decide) hdigit) (by decide)

namespace Postgres

/-- The types of integers, with the number of their bytes. -/
def intWidths : List (WireType × Nat) := [(.int2, 2), (.int4, 4), (.int8, 8)]

variable {type : WireType} {width : Nat} {content : List UInt8}

theorem width_of_mem (h : (type, width) ∈ intWidths) : 0 < width ∧ width ≤ 8 := by
  have hall : ∀ entry ∈ intWidths, 0 < entry.2 ∧ entry.2 ≤ 8 := by decide
  exact hall _ h

theorem reader?_of_mem (h : (type, width) ∈ intWidths) : reader? type = some (readInt width) := by
  simp only [intWidths, List.mem_cons, List.not_mem_nil, or_false, Prod.mk.injEq] at h
  rcases h with ⟨rfl, rfl⟩ | ⟨rfl, rfl⟩ | ⟨rfl, rfl⟩ <;> rfl

theorem bindInt_of_mem (h : (type, width) ∈ intWidths) (i : Int) :
    bindInt i type = intBytes width i := by
  simp only [intWidths, List.mem_cons, List.not_mem_nil, or_false, Prod.mk.injEq] at h
  rcases h with ⟨rfl, rfl⟩ | ⟨rfl, rfl⟩ | ⟨rfl, rfl⟩ <;> rfl

-- A reader that takes bytes of one width takes all of them.
theorem ofWidth_eq_some_iff {read : List UInt8 → Value} {v : Value} :
    (do return read (← ofWidth width content)) = some v ↔
      content.length = width ∧ read content = v := by
  unfold ofWidth
  by_cases h : content.length = width
  · rw [if_pos h]
    exact ⟨fun hv => ⟨h, Option.some.inj hv⟩, fun hv => congrArg some hv.2⟩
  · rw [if_neg h]
    exact ⟨nofun, fun hv => absurd hv.1 h⟩

theorem readInt_eq_some_iff {v : Value} : readInt width content = some v ↔
    content.length = width ∧ .ofInt (Bytes.toInt content) = v :=
  ofWidth_eq_some_iff

-- The values of 64 bits hold the integers of every width.
theorem toInt_ofInt64 {i : Int} (h : (type, width) ∈ intWidths)
    (hfits : Bytes.fits width i = true) : (Int64.ofInt i).toInt = i := by
  obtain ⟨hpos, hwidth⟩ := width_of_mem h
  obtain ⟨hlow, hhigh⟩ := (Bytes.fits_iff hpos).mp hfits
  have hbound : (2 : Int) ^ (8 * width - 1) ≤ 2 ^ 63 := by
    exact_mod_cast Nat.pow_le_pow_right (by decide : 0 < 2) (by omega : 8 * width - 1 ≤ 63)
  exact Int64.toInt_ofInt_of_le (by omega) (by omega)

theorem bind_int_of_fits (h : (type, width) ∈ intWidths) {v : Int64}
    (hfits : Bytes.fits width v.toInt = true) :
    bind (.int v) type = .ok (some (Bytes.ofInt width v.toInt)) := by
  show some <$> bindInt v.toInt type = _
  rw [bindInt_of_mem h, intBytes, if_pos hfits]
  rfl

theorem bind_int_of_not_fits (h : (type, width) ∈ intWidths) {v : Int64}
    (hfits : ¬ Bytes.fits width v.toInt = true) :
    bind (.int v) type = .error .outOfRange := by
  show some <$> bindInt v.toInt type = _
  rw [bindInt_of_mem h, intBytes, if_neg hfits]
  rfl

/-! ## Fields -/

/-- The types that keys and references to them have in tables. -/
def keyTypes : List WireType :=
  [.bool, .int2, .int4, .int8, .oid, .text, .varchar, .bpchar, .name, .bytea, .uuid]

/-- The types of texts that are converted in both directions. -/
def textTypes : List WireType := [.text, .varchar, .bpchar, .name]

/-- The bytes that a server sends for a value of a type that keys have. -/
def IsWireForm : WireType → List UInt8 → Prop
  | .bool, content => content = [0] ∨ content = [1]
  | .int2, content => content.length = 2
  | .int4, content | .oid, content => content.length = 4
  | .int8, content => content.length = 8
  | .text, content | .varchar, content | .bpchar, content | .name, content =>
    ∃ s, content = Bytes.ofText s
  | .bytea, _ => True
  | .uuid, content => content.length = 16
  | _, _ => False

theorem reader?_of_text (h : type ∈ textTypes) : reader? type = some readText := by
  simp only [textTypes, List.mem_cons, List.not_mem_nil, or_false] at h
  rcases h with rfl | rfl | rfl | rfl <;> rfl

theorem bind_text (h : type ∈ textTypes) (s : String) :
    bind (.text s) type = .ok (some (Bytes.ofText s)) := by
  simp only [textTypes, List.mem_cons, List.not_mem_nil, or_false] at h
  rcases h with rfl | rfl | rfl | rfl <;> rfl

theorem readText_ofText (s : String) : readText (Bytes.ofText s) = some (.text s) := by
  rw [readText, Bytes.toText?_eq_some_iff.mpr rfl]
  rfl

/-- What is read from the bytes is bound to them again. -/
def BindsAgain (type : WireType) (content : List UInt8) : Prop :=
  ∃ reader v, reader? type = some reader ∧ reader content = some v ∧
    bind v type = .ok (some content)

theorem bindsAgain_bool : BindsAgain .bool content ↔ content = [0] ∨ content = [1] := by
  constructor
  · rintro ⟨reader, v, hreader, hv, hbind⟩
    obtain rfl := Option.some.inj hreader
    obtain ⟨hlength, rfl⟩ := ofWidth_eq_some_iff.mp hv
    obtain ⟨byte, rfl⟩ := List.length_eq_one_iff.mp hlength
    by_cases hbyte : byte = 0
    · exact .inl (congrArg (fun b => [b]) hbyte)
    · have htrue : ([byte] != [0]) = true := by simpa using hbyte
      rw [htrue] at hbind
      exact .inr (Option.some.inj (Except.ok.inj hbind)).symm
  · rintro (rfl | rfl)
    · exact ⟨_, _, rfl, rfl, rfl⟩
    · exact ⟨_, _, rfl, rfl, rfl⟩

theorem bindsAgain_int (h : (type, width) ∈ intWidths) :
    BindsAgain type content ↔ content.length = width := by
  constructor
  · rintro ⟨reader, v, hreader, hv, -⟩
    rw [reader?_of_mem h] at hreader
    obtain rfl := Option.some.inj hreader
    exact (readInt_eq_some_iff.mp hv).1
  · rintro rfl
    have hfits := Bytes.fits_toInt content
    have hvalue := toInt_ofInt64 h hfits
    refine ⟨_, _, reader?_of_mem h, readInt_eq_some_iff.mpr ⟨rfl, rfl⟩, ?_⟩
    rw [Value.ofInt, bind_int_of_fits h (by rwa [hvalue]), hvalue, Bytes.ofInt_toInt]

-- No parameter of this type takes an integer.
theorem bind_oid {v : Value} (h : readOid content = some v) : bind v .oid = .error .wrongType := by
  obtain ⟨-, rfl⟩ := ofWidth_eq_some_iff.mp h
  rfl

theorem not_bindsAgain_oid : ¬ BindsAgain .oid content := by
  rintro ⟨reader, v, hreader, hv, hbind⟩
  obtain rfl := Option.some.inj hreader
  rw [bind_oid hv] at hbind
  exact nomatch hbind

theorem bindsAgain_text (h : type ∈ textTypes) :
    BindsAgain type content ↔ ∃ s, content = Bytes.ofText s := by
  constructor
  · rintro ⟨reader, v, hreader, hv, -⟩
    rw [reader?_of_text h] at hreader
    obtain rfl := Option.some.inj hreader
    obtain ⟨s, hs, -⟩ := Option.bind_eq_some_iff.mp hv
    exact ⟨s, Bytes.toText?_eq_some_iff.mp hs⟩
  · rintro ⟨s, rfl⟩
    exact ⟨readText, .text s, reader?_of_text h, readText_ofText s, bind_text h s⟩

theorem bindsAgain_bytea : BindsAgain .bytea content := ⟨_, _, rfl, rfl, rfl⟩

theorem bindsAgain_uuid : BindsAgain .uuid content ↔ content.length = 16 := by
  constructor
  · rintro ⟨reader, v, hreader, hv, -⟩
    obtain rfl := Option.some.inj hreader
    obtain ⟨u, hu, -⟩ := Option.bind_eq_some_iff.mp hv
    unfold Uuid.ofBytes? at hu
    split at hu
    · assumption
    · exact nomatch hu
  · intro h
    let u : Uuid := ⟨content, h⟩
    refine ⟨_, .text u.text, rfl, ?_, ?_⟩
    · rw [readUuid, show Uuid.ofBytes? content = some u from u.ofBytes?_bytes]
      rfl
    · show some <$> bindText u.text .uuid = _
      rw [bindText, u.parse?_text]
      rfl

theorem bindsAgain_iff (h : type ∈ keyTypes) :
    BindsAgain type content ↔ IsWireForm type content ∧ type ≠ .oid := by
  have hmost {p : Prop} (hne : type ≠ .oid) (hp : BindsAgain type content ↔ p) :
      BindsAgain type content ↔ p ∧ type ≠ .oid :=
    hp.trans (and_iff_left hne).symm
  simp only [keyTypes, List.mem_cons, List.not_mem_nil, or_false] at h
  rcases h with rfl | rfl | rfl | rfl | rfl | rfl | rfl | rfl | rfl | rfl | rfl
  · exact hmost nofun bindsAgain_bool
  · exact hmost nofun (bindsAgain_int (by decide : (WireType.int2, 2) ∈ intWidths))
  · exact hmost nofun (bindsAgain_int (by decide : (WireType.int4, 4) ∈ intWidths))
  · exact hmost nofun (bindsAgain_int (by decide : (WireType.int8, 8) ∈ intWidths))
  · exact iff_of_false not_bindsAgain_oid fun hp => hp.2 rfl
  · exact hmost nofun (bindsAgain_text (by decide : _ ∈ textTypes))
  · exact hmost nofun (bindsAgain_text (by decide : _ ∈ textTypes))
  · exact hmost nofun (bindsAgain_text (by decide : _ ∈ textTypes))
  · exact hmost nofun (bindsAgain_text (by decide : _ ∈ textTypes))
  · exact hmost nofun (iff_of_true bindsAgain_bytea trivial)
  · exact hmost nofun bindsAgain_uuid

theorem Column.read_eq_ok_iff {c : Column} {v : Value} :
    c.read (some content) = .ok v ↔
      ∃ reader, reader? c.type = some reader ∧ reader content = some v := by
  unfold read
  cases reader? c.type with
  | none => exact ⟨nofun, nofun⟩
  | some reader =>
    cases hv : reader content with
    | none => simp [hv]
    | some w => simp [hv]

theorem Column.bind_read_iff {c : Column} {v : Value} (h : c.read (some content) = .ok v) :
    bind v c.type = .ok (some content) ↔ BindsAgain c.type content := by
  obtain ⟨reader, hreader, hv⟩ := read_eq_ok_iff.mp h
  constructor
  · exact fun hbind => ⟨reader, v, hreader, hv, hbind⟩
  · rintro ⟨reader', v', hreader', hv', hbind⟩
    rw [hreader] at hreader'
    cases hreader'
    rw [hv] at hv'
    cases hv'
    exact hbind

theorem Column.exists_read {c : Column} (hc : c.type ∈ keyTypes)
    (h : IsWireForm c.type content) : ∃ v, c.read (some content) = .ok v := by
  by_cases hoid : c.type = .oid
  · rw [hoid] at h
    have hread : readOid content = some (.ofInt (Bytes.toNat content)) :=
      ofWidth_eq_some_iff.mpr ⟨h, rfl⟩
    exact ⟨_, read_eq_ok_iff.mpr ⟨readOid, by rw [hoid]; rfl, hread⟩⟩
  · obtain ⟨reader, v, hreader, hv, -⟩ := (bindsAgain_iff hc).mpr ⟨h, hoid⟩
    exact ⟨v, read_eq_ok_iff.mpr ⟨reader, hreader, hv⟩⟩

/-! ## Main statements -/

/-- What is read from a field is bound to the same bytes, for every type that keys have except
`oid`: its fields are read, and what is read is refused.  Null stays null for every type. -/
theorem fields_bind_again_iff (c : Column) :
    (reader? c.type ≠ none → c.read none = .ok .null) ∧ bind .null c.type = .ok none ∧
    (c.type ∈ keyTypes → ∀ content,
      (IsWireForm c.type content → ∃ v, c.read (some content) = .ok v) ∧
      ∀ v, c.read (some content) = .ok v →
        (bind v c.type = .ok (some content) ↔ IsWireForm c.type content ∧ c.type ≠ .oid) ∧
        (c.type = .oid → bind v c.type = .error .wrongType)) := by
  refine ⟨fun hc => ?_, rfl, fun hc content => ⟨Column.exists_read hc, fun v hv => ⟨?_, ?_⟩⟩⟩
  · obtain ⟨reader, hreader⟩ := Option.ne_none_iff_exists'.mp hc
    simp only [Column.read, hreader]
  · exact (Column.bind_read_iff hv).trans (bindsAgain_iff hc)
  · intro hoid
    obtain ⟨reader, hreader, hcontent⟩ := Column.read_eq_ok_iff.mp hv
    rw [hoid] at hreader ⊢
    obtain rfl := Option.some.inj hreader
    exact bind_oid hcontent

-- A UUID that was read is a text of 36 characters, and is bound to its 16 bytes again.
theorem fields_bind_again_iff_uuid :
    let content : List UInt8 := [0x67, 0xe5, 0x50, 0x44, 0x10, 0xb1, 0x42, 0x6f,
      0x92, 0x47, 0xbb, 0x68, 0x0e, 0x5f, 0xe0, 0xc8]
    reader? .uuid ≠ none ∧ WireType.uuid ∈ keyTypes ∧ IsWireForm .uuid content ∧
      ∃ v, (Column.mk "id" .uuid).read (some content) = .ok v ∧
        bind v .uuid = .ok (some content) := by
  intro content
  have hkey : WireType.uuid ∈ keyTypes := by decide
  have hform : IsWireForm .uuid content := rfl
  obtain ⟨-, -, hfields⟩ := fields_bind_again_iff ⟨"id", .uuid⟩
  obtain ⟨hread, hbind⟩ := hfields hkey content
  obtain ⟨v, hv⟩ := hread hform
  exact ⟨nofun, hkey, hform, v, hv, (hbind v hv).1.mpr ⟨hform, nofun⟩⟩

-- An identifier that was read from a column cannot be bound to a parameter for such columns.
theorem oids_do_not_bind_again :
    ∃ v, (Column.mk "relation" .oid).read (some [0, 0, 0, 26]) = .ok v ∧
      bind v .oid = .error .wrongType :=
  ⟨.int 26, rfl, rfl⟩

/-- An integer is bound to a parameter of an integer type exactly if the type has it, and is then
read back from its bytes; any other integer is refused.  A parameter for text receives the decimal
form. -/
theorem integers_bind_exactly (v : Int64) :
    (∀ type width, (type, width) ∈ intWidths →
      let inRange := -2 ^ (8 * width - 1) ≤ v.toInt ∧ v.toInt < 2 ^ (8 * width - 1)
      (inRange → ∃ bytes, bind (.int v) type = .ok (some bytes) ∧ bytes.length = width ∧
        ∀ name, (Column.mk name type).read (some bytes) = .ok (.int v)) ∧
      (¬ inRange → bind (.int v) type = .error .outOfRange)) ∧
    ∀ type ∈ [WireType.text, .varchar], ∃ s, bind (.int v) type = .ok (some (Bytes.ofText s)) ∧
      Text.integer? s.toList = some v.toInt ∧
      ∀ name, (Column.mk name type).read (some (Bytes.ofText s)) = .ok (.text s) := by
  constructor
  · intro type width h inRange
    have hrange : Bytes.fits width v.toInt = true ↔ inRange := Bytes.fits_iff (width_of_mem h).1
    refine ⟨fun hv => ?_, fun hv => bind_int_of_not_fits h (mt hrange.mp hv)⟩
    have hfits := hrange.mpr hv
    refine ⟨_, bind_int_of_fits h hfits, Bytes.length_ofInt _ _, fun name => ?_⟩
    refine Column.read_eq_ok_iff.mpr ⟨_, reader?_of_mem h, ?_⟩
    rw [readInt_eq_some_iff, Bytes.toInt_ofInt hfits, Value.ofInt, Int64.ofInt_toInt]
    exact ⟨Bytes.length_ofInt _ _, rfl⟩
  · intro type h
    have htype : type ∈ textTypes ∧
        bind (.int v) type = .ok (some (Bytes.ofText (intText v.toInt))) := by
      simp only [List.mem_cons, List.not_mem_nil, or_false] at h
      rcases h with rfl | rfl
      · exact ⟨by decide, rfl⟩
      · exact ⟨by decide, rfl⟩
    refine ⟨intText v.toInt, htype.2, ?_, fun name => ?_⟩
    · rw [intText, String.toList_ofList, Text.integer?_intText]
    · exact Column.read_eq_ok_iff.mpr ⟨readText, reader?_of_text htype.1, readText_ofText _⟩

-- The smallest integer of 16 bits, the one below it, and the smallest of all.
theorem integers_bind_exactly_smallest :
    (WireType.int2, 2) ∈ intWidths ∧ WireType.text ∈ [WireType.text, .varchar] ∧
      (∃ bytes, bind (.int (-32768)) .int2 = .ok (some bytes) ∧ bytes.length = 2 ∧
        (Column.mk "n" .int2).read (some bytes) = .ok (.int (-32768))) ∧
      bind (.int (-32769)) .int2 = .error .outOfRange ∧
      ∃ s, bind (.int Int64.minValue) .text = .ok (some (Bytes.ofText s)) ∧
        Text.integer? s.toList = some (-9223372036854775808) := by
  have hint2 : (WireType.int2, 2) ∈ intWidths := by decide
  have htext : WireType.text ∈ [WireType.text, .varchar] := by decide
  refine ⟨hint2, htext, ?_, ?_, ?_⟩
  · obtain ⟨bytes, hbind, hlength, hread⟩ :=
      ((integers_bind_exactly (-32768)).1 .int2 2 hint2).1 (by decide)
    exact ⟨bytes, hbind, hlength, hread "n"⟩
  · exact ((integers_bind_exactly (-32769)).1 .int2 2 hint2).2 (by decide)
  · obtain ⟨s, hbind, hvalue, -⟩ := (integers_bind_exactly Int64.minValue).2 .text htext
    exact ⟨s, hbind, hvalue⟩

end Postgres

end SqlWeave
