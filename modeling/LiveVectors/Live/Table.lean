/-!
# Tables

A table maps keys to entries and remembers the order in which the keys came.  Putting a new entry
under a known key leaves the key where it is.
-/

set_option autoImplicit false

namespace LiveVectors

/-- A finite map with its keys in the order of their first entry. -/
structure Table (κ α : Type) where
  entries : List (κ × α)
deriving Repr

namespace Table

variable {κ α : Type} [DecidableEq κ]

/-- The table without entries. -/
def empty : Table κ α := ⟨[]⟩

/-- The keys, oldest first. -/
def keys (table : Table κ α) : List κ := table.entries.map Prod.fst

/-- The number of keys. -/
def size (table : Table κ α) : Nat := table.entries.length

/-- The entry under a key among pairs. -/
def lookup (key : κ) : List (κ × α) → Option α
  | [] => none
  | (other, entry) :: rest => if other = key then some entry else lookup key rest

/-- The pairs with an entry put under a key: in place of the old one, or at the end. -/
def replace (key : κ) (entry : α) : List (κ × α) → List (κ × α)
  | [] => [(key, entry)]
  | (other, old) :: rest =>
    if other = key then (key, entry) :: rest else (other, old) :: replace key entry rest

/-- The entry under a key. -/
def get? (table : Table κ α) (key : κ) : Option α := lookup key table.entries

/-- The table with an entry put under a key. -/
def put (table : Table κ α) (key : κ) (entry : α) : Table κ α :=
  ⟨replace key entry table.entries⟩

/-! ## Laws -/

omit [DecidableEq κ] in
@[simp] theorem keys_empty : (empty : Table κ α).keys = [] := rfl

@[simp] theorem get?_empty (key : κ) : (empty : Table κ α).get? key = none := rfl

theorem lookup_replace_self (key : κ) (entry : α) (pairs : List (κ × α)) :
    lookup key (replace key entry pairs) = some entry := by
  induction pairs with
  | nil => simp [replace, lookup]
  | cons pair rest ih =>
    obtain ⟨other, old⟩ := pair
    by_cases h : other = key <;> simp [replace, lookup, h, ih]

theorem lookup_replace_ne {key other : κ} (entry : α) (pairs : List (κ × α)) (h : other ≠ key) :
    lookup other (replace key entry pairs) = lookup other pairs := by
  induction pairs with
  | nil => simp [replace, lookup, h.symm]
  | cons pair rest ih =>
    obtain ⟨first, old⟩ := pair
    by_cases hk : first = key
    · subst hk
      simp [replace, lookup, h.symm]
    · simp only [replace, lookup, hk, if_false, ih]

@[simp] theorem get?_put_self (table : Table κ α) (key : κ) (entry : α) :
    (table.put key entry).get? key = some entry :=
  lookup_replace_self key entry table.entries

theorem get?_put_ne (table : Table κ α) {key other : κ} (entry : α) (h : other ≠ key) :
    (table.put key entry).get? other = table.get? other :=
  lookup_replace_ne entry table.entries h

/-- A key has an entry exactly if it is among the keys. -/
theorem isSome_get?_iff (table : Table κ α) (key : κ) :
    (table.get? key).isSome ↔ key ∈ table.keys := by
  obtain ⟨pairs⟩ := table
  simp only [get?, keys]
  induction pairs with
  | nil => simp [lookup]
  | cons pair rest ih =>
    obtain ⟨other, old⟩ := pair
    by_cases h : other = key
    · simp [lookup, h]
    · simp [lookup, h, ih, Ne.symm h]

/-- A known key stays where it is, a new one comes last. -/
theorem keys_put (table : Table κ α) (key : κ) (entry : α) :
    (table.put key entry).keys =
      if key ∈ table.keys then table.keys else table.keys ++ [key] := by
  obtain ⟨pairs⟩ := table
  simp only [put, keys]
  induction pairs with
  | nil => simp [replace]
  | cons pair rest ih =>
    obtain ⟨other, old⟩ := pair
    by_cases h : other = key
    · simp [replace, h]
    · simp only [replace, h, if_false, List.map_cons, ih, List.mem_cons, Ne.symm h, false_or]
      split <;> simp_all

theorem mem_entries_of_get? {table : Table κ α} {key : κ} {entry : α}
    (h : table.get? key = some entry) : (key, entry) ∈ table.entries := by
  obtain ⟨pairs⟩ := table
  simp only [get?] at h ⊢
  induction pairs with
  | nil => simp [lookup] at h
  | cons pair rest ih =>
    obtain ⟨other, first⟩ := pair
    rw [lookup] at h
    split at h
    · rename_i hkey
      cases h
      simp [hkey]
    · exact List.mem_cons_of_mem _ (ih h)

/-- No key comes twice, and putting an entry keeps it so. -/
theorem nodup_keys_put {table : Table κ α} (h : table.keys.Nodup) (key : κ) (entry : α) :
    (table.put key entry).keys.Nodup := by
  rw [keys_put]
  split
  · exact h
  · rename_i hnew
    refine List.nodup_append.2 ⟨h, by simp, ?_⟩
    rintro other hother last hlast rfl
    rw [List.mem_singleton] at hlast
    exact hnew (hlast ▸ hother)

/-- Where no key comes twice, every pair is found under its key. -/
theorem get?_of_mem_entries {table : Table κ α} (h : table.keys.Nodup) {key : κ} {entry : α}
    (hmem : (key, entry) ∈ table.entries) : table.get? key = some entry := by
  obtain ⟨pairs⟩ := table
  simp only [get?, keys] at h hmem ⊢
  induction pairs with
  | nil => cases hmem
  | cons pair rest ih =>
    obtain ⟨other, first⟩ := pair
    rw [List.map_cons, List.nodup_cons] at h
    rw [lookup]
    rcases List.mem_cons.1 hmem with heq | hrest
    · cases heq
      rw [if_pos rfl]
    · have hne : other ≠ key := fun heq => h.1 (List.mem_map.2 ⟨_, hrest, heq.symm⟩)
      rw [if_neg hne]
      exact ih h.2 hrest

/-- Putting an entry under a new key makes the table longer by one. -/
theorem size_put_of_get?_eq_none {table : Table κ α} {key : κ} (entry : α)
    (h : table.get? key = none) : (table.put key entry).size = table.size + 1 := by
  have hnew : key ∉ table.keys := by
    rw [← isSome_get?_iff, h]
    simp
  have hkeys := keys_put table key entry
  rw [if_neg hnew] at hkeys
  have hlength := congrArg List.length hkeys
  simpa [keys, size] using hlength

end Table
end LiveVectors
