/-!
# Maps in order of insertion

Values under distinct names.  A name keeps the place where it was first inserted, and holds the
value that was inserted last.
-/

namespace SqlWeave

/-- Put a value under a name: in place of the name's value if it has one, else at the end. -/
def upsert {α : Type} (name : String) (value : α) : List (String × α) → List (String × α)
  | [] => [(name, value)]
  | entry :: rest =>
    if entry.1 = name then (name, value) :: rest else entry :: upsert name value rest

-- The names after an insertion: a new name comes last.
theorem map_fst_upsert {α : Type} (name : String) (value : α) (entries : List (String × α)) :
    (upsert name value entries).map Prod.fst =
      if name ∈ entries.map Prod.fst then entries.map Prod.fst
      else entries.map Prod.fst ++ [name] := by
  induction entries with
  | nil => simp [upsert]
  | cons entry rest ih =>
    by_cases h : entry.1 = name
    · simp [upsert, h]
    · simp only [upsert, h, if_false, List.map_cons, ih, List.mem_cons, Ne.symm h, false_or]
      split <;> simp

theorem nodup_upsert {α : Type} (name : String) (value : α) {entries : List (String × α)}
    (h : (entries.map Prod.fst).Nodup) : ((upsert name value entries).map Prod.fst).Nodup := by
  rw [map_fst_upsert]
  split
  · exact h
  · rename_i hnew
    exact List.nodup_append.2 ⟨h, by simp, fun a ha b hb => by
      simp only [List.mem_singleton] at hb
      subst hb
      exact fun heq => hnew (heq ▸ ha)⟩

theorem lookup_upsert {α : Type} (name : String) (value : α) (entries : List (String × α))
    (key : String) :
    (upsert name value entries).lookup key =
      if key = name then some value else entries.lookup key := by
  induction entries with
  | nil =>
    by_cases hkey : key = name
    · simp [upsert, hkey]
    · have hbeq : (key == name) = false := by simpa using hkey
      simp [upsert, hkey, List.lookup_cons, hbeq]
  | cons entry rest ih =>
    obtain ⟨k, v⟩ := entry
    by_cases hkey : key = k
    · subst hkey
      by_cases h : key = name <;> simp [upsert, h]
    · have hbeq : (key == k) = false := by simpa using hkey
      by_cases h : k = name
      · subst h
        simp [upsert, List.lookup_cons, hkey, hbeq]
      · simp [upsert, h, List.lookup_cons, hbeq, ih]

/-- Values under distinct names, in the order in which the names were first inserted. -/
structure OrderedMap (α : Type) where
  entries : List (String × α)
  nodup : (entries.map Prod.fst).Nodup

namespace OrderedMap

variable {α : Type}

instance [DecidableEq α] : DecidableEq (OrderedMap α) := fun a b =>
  if h : a.entries = b.entries then
    isTrue (by cases a; cases b; simp_all)
  else
    isFalse (fun heq => h (by rw [heq]))

def empty : OrderedMap α := ⟨[], by simp⟩

def insert (m : OrderedMap α) (name : String) (value : α) : OrderedMap α :=
  ⟨upsert name value m.entries, nodup_upsert name value m.nodup⟩

/-- The map that insertions one after the other give. -/
def ofList (pairs : List (String × α)) : OrderedMap α :=
  pairs.foldl (fun m pair => m.insert pair.1 pair.2) empty

def get? (m : OrderedMap α) (name : String) : Option α :=
  m.entries.lookup name

/-- The names, in the order of their first insertion. -/
def names (m : OrderedMap α) : List String :=
  m.entries.map Prod.fst

def size (m : OrderedMap α) : Nat :=
  m.entries.length

def isEmpty (m : OrderedMap α) : Bool :=
  m.entries.isEmpty

theorem names_nodup (m : OrderedMap α) : m.names.Nodup := m.nodup

@[simp] theorem names_empty : (empty : OrderedMap α).names = [] := rfl

-- A new name comes last, and a known one keeps its place.
theorem names_insert (m : OrderedMap α) (name : String) (value : α) :
    (m.insert name value).names = if name ∈ m.names then m.names else m.names ++ [name] :=
  map_fst_upsert name value m.entries

-- The value inserted last is the one that is found.
theorem get?_insert (m : OrderedMap α) (name : String) (value : α) (key : String) :
    (m.insert name value).get? key = if key = name then some value else m.get? key :=
  lookup_upsert name value m.entries key

end OrderedMap

end SqlWeave
