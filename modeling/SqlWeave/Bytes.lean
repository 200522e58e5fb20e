import SqlWeave.Text.Reader

/-!
# Bytes

Numbers of a fixed width as bytes, the most significant first, unsigned or in two's complement;
texts as bytes of UTF-8; and bytes as hexadecimal digits.
-/

namespace SqlWeave.Bytes

/-- The bytes of a number.  What does not fit into the width is dropped. -/
def ofNat : (width : Nat) → Nat → List UInt8
  | 0, _ => []
  | width + 1, n => ofNat width (n / 256) ++ [UInt8.ofNat n]

def toNat (bytes : List UInt8) : Nat := bytes.foldl (fun n byte => n * 256 + byte.toNat) 0

@[simp] theorem length_ofNat (width n : Nat) : (ofNat width n).length = width := by
  induction width generalizing n with
  | zero => rfl
  | succ width ih => simp [ofNat, ih]

theorem toNat_append_singleton (bytes : List UInt8) (byte : UInt8) :
    toNat (bytes ++ [byte]) = toNat bytes * 256 + byte.toNat := by
  simp [toNat]

def range (width : Nat) : Nat := Nat.pow 256 width

theorem range_succ (width : Nat) : range (width + 1) = range width * 256 := rfl

theorem range_pos (width : Nat) : 0 < range width := Nat.pow_pos (by decide)

theorem toNat_ofNat {width n : Nat} (h : n < range width) : toNat (ofNat width n) = n := by
  induction width generalizing n with
  | zero => simp_all [ofNat, toNat, range]
  | succ width ih =>
    have hdiv : n / 256 < range width := by
      rw [Nat.div_lt_iff_lt_mul (by decide)]
      rwa [range_succ] at h
    rw [ofNat, toNat_append_singleton, ih hdiv]
    simp only [UInt8.toNat_ofNat']
    omega

-- Bytes of the right width are written again.
theorem ofNat_toNat (bytes : List UInt8) : ofNat bytes.length (toNat bytes) = bytes := by
  generalize hn : bytes.length = n
  induction n generalizing bytes with
  | zero => simp_all [ofNat]
  | succ n ih =>
    obtain ⟨front, last, rfl⟩ : ∃ front last, bytes = front ++ [last] :=
      ⟨bytes.dropLast, bytes.getLast (List.ne_nil_of_length_eq_add_one hn),
        (List.dropLast_concat_getLast _).symm⟩
    have hfront : front.length = n := by simpa using hn
    have hlast := last.toNat_lt
    have hdiv : (toNat front * 256 + last.toNat) / 256 = toNat front := by omega
    rw [toNat_append_singleton, ofNat, hdiv, ih front hfront]
    congr 2
    rw [← UInt8.toNat_inj]
    simp only [UInt8.toNat_ofNat']
    omega

theorem toNat_lt (bytes : List UInt8) : toNat bytes < range bytes.length := by
  generalize hn : bytes.length = n
  induction n generalizing bytes with
  | zero => simp_all [toNat, range]
  | succ n ih =>
    obtain ⟨front, last, rfl⟩ : ∃ front last, bytes = front ++ [last] :=
      ⟨bytes.dropLast, bytes.getLast (List.ne_nil_of_length_eq_add_one hn),
        (List.dropLast_concat_getLast _).symm⟩
    have hfront := ih front (by simpa using hn)
    have hlast := last.toNat_lt
    rw [toNat_append_singleton, range_succ]
    omega

/-- Whether an integer has a form in two's complement of a given width. -/
def fits (width : Nat) (i : Int) : Bool :=
  decide (-(range width : Int) ≤ 2 * i ∧ 2 * i < (range width : Int))

def ofInt (width : Nat) (i : Int) : List UInt8 := ofNat width (i % (range width : Int)).toNat

def toInt (bytes : List UInt8) : Int :=
  if 2 * toNat bytes < range bytes.length then toNat bytes
  else toNat bytes - (range bytes.length : Int)

@[simp] theorem length_ofInt (width : Nat) (i : Int) : (ofInt width i).length = width :=
  length_ofNat _ _

-- An integer that fits is read back.
theorem toInt_ofInt {width : Nat} {i : Int} (h : fits width i = true) :
    toInt (ofInt width i) = i := by
  simp only [fits, decide_eq_true_eq] at h
  have hpos := range_pos width
  have hmod := Int.emod_nonneg i (b := (range width : Int)) (by omega)
  have hlt := Int.emod_lt_of_pos i (b := (range width : Int)) (by omega)
  have hfits : (i % (range width : Int)).toNat < range width := by omega
  rw [toInt, ofInt, toNat_ofNat hfits, length_ofNat]
  by_cases hneg : i < 0
  · have hi : i % (range width : Int) = i + (range width : Int) := by
      rw [← Int.add_emod_right, Int.emod_eq_of_lt (by omega) (by omega)]
    rw [hi] at *
    split <;> omega
  · have hi : i % (range width : Int) = i := Int.emod_eq_of_lt (by omega) (by omega)
    rw [hi] at *
    split <;> omega

-- What bytes write fits into their width.
theorem fits_toInt (bytes : List UInt8) : fits bytes.length (toInt bytes) = true := by
  have h := toNat_lt bytes
  unfold fits toInt
  generalize range bytes.length = bound at h ⊢
  split <;> simp <;> omega

-- Bytes of the right width are written again.
theorem ofInt_toInt (bytes : List UInt8) : ofInt bytes.length (toInt bytes) = bytes := by
  have h := toNat_lt bytes
  have hmod : (toInt bytes % (range bytes.length : Int)).toNat = toNat bytes := by
    rw [toInt]
    split
    · rw [Int.emod_eq_of_lt (by omega) (by omega)]
      omega
    · rw [Int.sub_emod_right, Int.emod_eq_of_lt (by omega) (by omega)]
      omega
  rw [ofInt, hmod, ofNat_toNat]

def ofText (s : String) : List UInt8 := s.toUTF8.data.toList

/-- The text that bytes write, if they write one. -/
def toText? (bytes : List UInt8) : Option String := String.fromUTF8? ⟨bytes.toArray⟩

theorem toText?_eq_some_iff {bytes : List UInt8} {s : String} :
    toText? bytes = some s ↔ bytes = ofText s := by
  unfold toText? String.fromUTF8? ofText
  constructor
  · intro h
    split at h
    · obtain rfl := Option.some.inj h
      rfl
    · exact nomatch h
  · rintro rfl
    have hvalid : (⟨s.toUTF8.data.toList.toArray⟩ : ByteArray).IsValidUTF8 := s.isValidUTF8
    rw [dif_pos hvalid]
    rfl

/-- The two hexadecimal digits of a byte, in lower case. -/
def hexDigits (byte : UInt8) : List Char :=
  [Nat.digitChar (byte.toNat / 16), Nat.digitChar (byte.toNat % 16)]

def hex (bytes : List UInt8) : List Char := bytes.flatMap hexDigits

/-- The bytes that pairs of hexadecimal digits write. -/
def ofHex? : List Char → Option (List UInt8)
  | [] => some []
  | a :: b :: rest => do
    let byte := (← Text.hex? a) * 16 + (← Text.hex? b)
    return UInt8.ofNat byte :: (← ofHex? rest)
  | [_] => none

theorem length_hex (bytes : List UInt8) : (hex bytes).length = 2 * bytes.length := by
  induction bytes with
  | nil => rfl
  | cons byte rest ih =>
    rw [hex, List.flatMap_cons, List.length_append, List.length_cons]
    change 2 + (hex rest).length = _
    omega

-- Bytes are read back from their digits.
theorem ofHex?_hex (bytes : List UInt8) : ofHex? (hex bytes) = some bytes := by
  induction bytes with
  | nil => rfl
  | cons byte rest ih =>
    have hbyte := byte.toNat_lt
    have hhigh := Text.hex?_digitChar (n := byte.toNat / 16) (by omega)
    have hlow := Text.hex?_digitChar (n := byte.toNat % 16) (by omega)
    have hjoined : byte.toNat / 16 * 16 + byte.toNat % 16 = byte.toNat := by omega
    change ofHex? (_ :: _ :: hex rest) = _
    rw [ofHex?, hhigh, hlow, ih]
    show some (UInt8.ofNat (byte.toNat / 16 * 16 + byte.toNat % 16) :: rest) = _
    rw [hjoined, UInt8.ofNat_toNat]

end SqlWeave.Bytes
