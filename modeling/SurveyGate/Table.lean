/-!
# `SurveyGate.Table`: finite maps

A table gives values to finitely many keys, each key once. `Table.put` gives a key its value and
leaves all others as they are, and the entries stand in the order in which their keys were first put.
-/

set_option autoImplicit false

namespace SurveyGate

variable {κ α : Type} [DecidableEq κ]

/-- The entries after a key got its value. -/
def putEntry (key : κ) (value : α) : List (κ × α) → List (κ × α)
  | [] => [(key, value)]
  | (k, v) :: rest => if k = key then (key, value) :: rest else (k, v) :: putEntry key value rest

/-- The value of a key among entries. -/
def findEntry (key : κ) : List (κ × α) → Option α
  | [] => none
  | (k, v) :: rest => if k = key then some v else findEntry key rest

/-- Putting a value adds its key and no other one. -/
theorem mem_keys_putEntry {key k : κ} {value : α} {xs : List (κ × α)} :
    k ∈ (putEntry key value xs).map Prod.fst ↔ k = key ∨ k ∈ xs.map Prod.fst := by
  induction xs with
  | nil => simp [putEntry]
  | cons x xs ih =>
    obtain ⟨k', v'⟩ := x
    by_cases h : k' = key
    · subst h
      simp [putEntry]
    · simp only [putEntry, h, if_false, List.map_cons, List.mem_cons, ih]
      grind

/-- Putting a value repeats no key. -/
theorem nodup_putEntry {key : κ} {value : α} {xs : List (κ × α)}
    (h : (xs.map Prod.fst).Nodup) : ((putEntry key value xs).map Prod.fst).Nodup := by
  induction xs with
  | nil => simp [putEntry]
  | cons x xs ih =>
    obtain ⟨k', v'⟩ := x
    rw [List.map_cons, List.nodup_cons] at h
    by_cases hk : k' = key
    · subst hk
      simpa [putEntry, List.nodup_cons] using h
    · simp only [putEntry, hk, if_false, List.map_cons, List.nodup_cons]
      refine ⟨fun hmem => ?_, ih h.2⟩
      rcases mem_keys_putEntry.1 hmem with h' | h'
      · exact hk h'
      · exact h.1 h'

/-- Behind a put the key finds the value, and every other key what it found before. -/
theorem findEntry_putEntry {key k : κ} {value : α} {xs : List (κ × α)} :
    findEntry k (putEntry key value xs) = if key = k then some value else findEntry k xs := by
  induction xs with
  | nil => simp [putEntry, findEntry]
  | cons x xs ih =>
    obtain ⟨k', v'⟩ := x
    by_cases h : k' = key
    · subst h
      by_cases hk : k' = k <;> simp [putEntry, findEntry, hk]
    · by_cases hk : k' = k
      · subst hk
        simp [putEntry, findEntry, h, Ne.symm h]
      · simp [putEntry, findEntry, h, hk, ih]

/-- A finite map: entries whose keys differ. -/
structure Table (κ α : Type) where
  entries : List (κ × α)
  nodup : (entries.map Prod.fst).Nodup

namespace Table

/-- The table without entries. -/
def empty : Table κ α := ⟨[], List.nodup_nil⟩

instance : Inhabited (Table κ α) := ⟨empty⟩

/-- The value of a key. -/
def get? (t : Table κ α) (key : κ) : Option α := findEntry key t.entries

/-- The table in which a key has the given value. -/
def put (t : Table κ α) (key : κ) (value : α) : Table κ α :=
  ⟨putEntry key value t.entries, nodup_putEntry t.nodup⟩

/-- The table of several entries; a later one replaces an earlier one with the same key. -/
def ofList (xs : List (κ × α)) : Table κ α := xs.foldl (fun t x => t.put x.1 x.2) empty

/-- Nothing is found in the empty table. -/
@[simp] theorem get?_empty (k : κ) : (empty : Table κ α).get? k = none := rfl

/-- Behind a put the key finds the value, and every other key what it found before. -/
theorem get?_put (t : Table κ α) (key k : κ) (value : α) :
    (t.put key value).get? k = if key = k then some value else t.get? k := findEntry_putEntry

/-- A value that was put is found. -/
@[simp] theorem get?_put_self (t : Table κ α) (key : κ) (value : α) :
    (t.put key value).get? key = some value := by simp [get?_put]

/-- A put does not change what other keys find. -/
theorem get?_put_of_ne (t : Table κ α) {key k : κ} (value : α) (h : key ≠ k) :
    (t.put key value).get? k = t.get? k := by simp [get?_put, h]

end Table

end SurveyGate
