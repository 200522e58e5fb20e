import SqlWeave.Bytes
import SqlWeave.Text.Cut

/-!
# UUIDs

Identifiers of 16 bytes.  They are written as 32 hexadecimal digits in five groups.
-/

namespace SqlWeave

structure Uuid where
  bytes : List UInt8
  length_bytes : bytes.length = 16

namespace Uuid

/-- The UUID with the given bytes, if their number is right. -/
def ofBytes? (bytes : List UInt8) : Option Uuid :=
  if h : bytes.length = 16 then some ⟨bytes, h⟩ else none

/-- The sizes of the groups of digits. -/
def groups : List Nat := [8, 4, 4, 4, 12]

def grouped : List Nat → List Char → List Char
  | [], cs => cs
  | [_], cs => cs
  | size :: sizes, cs => cs.take size ++ '-' :: grouped sizes (cs.drop size)

/-- The text that is in groups of the given sizes, if the groups are complete. -/
def ungrouped? : List Nat → List Char → Option (List Char)
  | [], cs => if cs.isEmpty then some [] else none
  | [size], cs => if cs.length = size then some cs else none
  | size :: sizes, cs =>
    match cs.drop size with
    | '-' :: rest => (ungrouped? sizes rest).map (cs.take size ++ ·)
    | _ => none

def text (u : Uuid) : String := String.ofList (grouped groups (Bytes.hex u.bytes))

/-- The name of the URN that stands before a UUID, which may be written in either case. -/
def urnName : List Char := ['u', 'r', 'n', ':', 'u', 'u', 'i', 'd', ':']

/-- The text inside braces, or after the name of the URN. -/
def unwrapped (cs : List Char) : List Char :=
  match Text.afterKeyword urnName cs, cs with
  | some rest, _ => rest
  | none, '{' :: rest => if rest.getLast? = some '}' then rest.dropLast else cs
  | none, _ => cs

/-- The UUID that a text writes: 32 digits in a row, or in groups, which may stand in braces or in a
URN. -/
def parse? (s : String) : Option Uuid := do
  let cs := s.toList
  let digits ← if cs.length = 32 then some cs else ungrouped? groups (unwrapped cs)
  ofBytes? (← Bytes.ofHex? digits)

theorem ofBytes?_bytes (u : Uuid) : ofBytes? u.bytes = some u := dif_pos u.length_bytes

theorem length_grouped {sizes : List Nat} (h : sizes ≠ []) (cs : List Char) :
    (grouped sizes cs).length + 1 = cs.length + sizes.length := by
  fun_induction grouped sizes cs with
  | case1 => exact absurd rfl h
  | case2 => rfl
  | case3 size sizes cs hne ih =>
    have hrest := ih hne
    rw [List.length_drop] at hrest
    rw [List.length_append, List.length_cons, List.length_take, List.length_cons]
    omega

-- A text in groups is found again in them.
theorem ungrouped?_grouped {sizes : List Nat} {cs : List Char} (hne : sizes ≠ [])
    (h : sizes.foldr (· + ·) 0 = cs.length) : ungrouped? sizes (grouped sizes cs) = some cs := by
  fun_induction grouped sizes cs with
  | case1 => exact absurd rfl hne
  | case2 size cs =>
    change size = cs.length at h
    rw [ungrouped?, if_pos h.symm]
  | case3 size sizes cs hmore ih =>
    rw [List.foldr_cons] at h
    have htaken : (cs.take size).length = size := by rw [List.length_take]; omega
    have hrest : sizes.foldr (· + ·) 0 = (cs.drop size).length := by rw [List.length_drop]; omega
    rw [ungrouped?, List.drop_left' htaken, List.take_left' htaken]
    · simp only [ih hmore hrest]
      rw [Option.map_some, List.take_append_drop]
    · exact hmore

-- A text that begins with a digit stands neither in braces nor in a URN.
theorem unwrapped_digitChar {n : Nat} (h : n < 16) (rest : List Char) :
    unwrapped (Nat.digitChar n :: rest) = Nat.digitChar n :: rest := by
  have hall : ∀ n < 16, (Nat.digitChar n).toLower ≠ 'u' ∧ Nat.digitChar n ≠ '{' := by decide
  obtain ⟨hname, hbrace⟩ := hall n h
  unfold unwrapped
  rw [urnName, Text.afterKeyword, if_neg hname]
  split
  · contradiction
  · rename_i heq
    exact absurd (List.cons.inj heq).1 hbrace
  · rfl

-- A UUID is read back from its text.
theorem parse?_text (u : Uuid) : parse? u.text = some u := by
  have hchars : u.text.toList = grouped groups (Bytes.hex u.bytes) := String.toList_ofList
  have hdigits : (Bytes.hex u.bytes).length = 32 := by rw [Bytes.length_hex, u.length_bytes]
  have hlength : u.text.toList.length ≠ 32 := by
    have hgroups := length_grouped (by decide : groups ≠ []) (Bytes.hex u.bytes)
    rw [← hchars, hdigits] at hgroups
    change _ = 32 + 5 at hgroups
    omega
  have hplain : unwrapped u.text.toList = u.text.toList := by
    obtain ⟨byte, rest, hbytes⟩ := List.exists_cons_of_length_eq_add_one u.length_bytes
    obtain ⟨cs, hcs⟩ : ∃ cs, u.text.toList = Nat.digitChar (byte.toNat / 16) :: cs := by
      rw [hchars, hbytes]
      exact ⟨_, rfl⟩
    have hbyte := byte.toNat_lt
    rw [hcs, unwrapped_digitChar (by omega)]
  have hgroups : ungrouped? groups u.text.toList = some (Bytes.hex u.bytes) := by
    rw [hchars]
    exact ungrouped?_grouped (by decide) (by rw [hdigits]; rfl)
  unfold parse?
  simp only [if_neg hlength, hplain, hgroups, Option.bind_eq_bind, Option.bind_some,
    Bytes.ofHex?_hex, ofBytes?_bytes]

end Uuid

end SqlWeave
