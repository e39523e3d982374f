import Mathlib.Algebra.Order.BigOperators.Group.List
import Mathlib.Algebra.Order.Ring.Nat
import SurveyGate.Table

/-!
# `SurveyGate.Proofs.Store.Entries`: the entries of a table

`Table.total` adds up a weight over all entries of a table. Giving one key a new value trades its
old weight for the new one (`total_put`), so a sum can be followed through a run of such changes
without looking at the other entries. A weight that only one key has is that of its value
(`total_eq_of_single`).

`Table.restrict` is the part of a table whose keys a test picks. A put changes it only at a key that
is picked (`restrict_put`).
-/

set_option autoImplicit false

namespace SurveyGate

variable {κ α : Type} [DecidableEq κ]

/-- The weight of a key's value, or nothing when it has none. -/
def weightAt (w : κ → α → Nat) (key : κ) : Option α → Nat
  | some value => w key value
  | none => 0

/-- Putting a value exchanges its weight for that of the value before. -/
theorem sum_putEntry (w : κ → α → Nat) (key : κ) (value : α) (xs : List (κ × α)) :
    ((putEntry key value xs).map fun e => w e.1 e.2).sum + weightAt w key (findEntry key xs) =
      (xs.map fun e => w e.1 e.2).sum + w key value := by
  induction xs with
  | nil => simp [putEntry, findEntry, weightAt]
  | cons x xs ih =>
    obtain ⟨k, v⟩ := x
    -- The change is at the first entry with the key, which is also the one that is found.
    by_cases h : k = key
    · subst h
      simp only [putEntry, findEntry, if_true, List.map_cons, List.sum_cons, weightAt]
      omega
    · simp only [putEntry, findEntry, if_neg h, List.map_cons, List.sum_cons]
      omega

/-- What is found is an entry. -/
theorem mem_of_findEntry {key : κ} {value : α} {xs : List (κ × α)}
    (h : findEntry key xs = some value) : (key, value) ∈ xs := by
  induction xs with
  | nil => cases h
  | cons x xs ih =>
    obtain ⟨k, v⟩ := x
    by_cases hk : k = key
    · subst hk
      simp only [findEntry, if_true, Option.some.injEq] at h
      subst h
      exact List.mem_cons_self
    · simp only [findEntry, if_neg hk] at h
      exact List.mem_cons_of_mem _ (ih h)

/-- Where no key is repeated, every entry is found. -/
theorem findEntry_of_mem {key : κ} {value : α} {xs : List (κ × α)}
    (hnodup : (xs.map Prod.fst).Nodup) (h : (key, value) ∈ xs) :
    findEntry key xs = some value := by
  induction xs with
  | nil => cases h
  | cons x xs ih =>
    obtain ⟨k, v⟩ := x
    obtain ⟨hout, htail⟩ := List.nodup_cons.1 hnodup
    rcases List.mem_cons.1 h with heq | hmem
    · obtain ⟨rfl, rfl⟩ := Prod.mk.inj heq
      simp [findEntry]
    · have hk : k ≠ key := by
        rintro rfl
        exact hout (List.mem_map.2 ⟨_, hmem, rfl⟩)
      rw [findEntry, if_neg hk, ih htail hmem]

/-- A key that is not there finds nothing. -/
theorem findEntry_eq_none {key : κ} {xs : List (κ × α)} (h : key ∉ xs.map Prod.fst) :
    findEntry key xs = none := by
  cases hfind : findEntry key xs with
  | none => rfl
  | some value => exact absurd (List.mem_map_of_mem (mem_of_findEntry hfind)) h

/-- A sum to which one key alone contributes is its weight. -/
theorem sum_eq_of_single {w : κ → α → Nat} {key : κ} (hw : ∀ k v, k ≠ key → w k v = 0)
    {xs : List (κ × α)} (hnodup : (xs.map Prod.fst).Nodup) :
    (xs.map fun e => w e.1 e.2).sum = weightAt w key (findEntry key xs) := by
  induction xs with
  | nil => rfl
  | cons x xs ih =>
    obtain ⟨k, v⟩ := x
    obtain ⟨hout, htail⟩ := List.nodup_cons.1 hnodup
    rw [List.map_cons, List.sum_cons, ih htail]
    -- Behind the entry with the key there is no other with it.
    by_cases hk : k = key
    · subst hk
      rw [findEntry_eq_none hout, findEntry, if_pos rfl]
      rfl
    · rw [findEntry, if_neg hk, hw k v hk, Nat.zero_add]

/-- To put a value and to pick by keys can be done in either order. -/
theorem filter_putEntry (picks : κ → Bool) (key : κ) (value : α) (xs : List (κ × α)) :
    (putEntry key value xs).filter (fun e => picks e.1) =
      if picks key then putEntry key value (xs.filter fun e => picks e.1)
      else xs.filter fun e => picks e.1 := by
  induction xs with
  | nil => cases hkey : picks key <;> simp [putEntry, hkey]
  | cons x xs ih =>
    obtain ⟨k, v⟩ := x
    by_cases h : k = key
    · subst h
      cases hkey : picks k <;> simp [putEntry, hkey]
    · rw [putEntry, if_neg h, List.filter_cons, List.filter_cons, ih]
      cases hkey : picks key <;> cases hk : picks k <;> simp [putEntry, h]

/-- Picking by keys leaves what a picked key finds. -/
theorem findEntry_filter {picks : κ → Bool} {key : κ} (hkey : picks key = true)
    (xs : List (κ × α)) : findEntry key (xs.filter fun e => picks e.1) = findEntry key xs := by
  induction xs with
  | nil => rfl
  | cons x xs ih =>
    obtain ⟨k, v⟩ := x
    by_cases h : k = key
    · subst h
      simp [findEntry, hkey]
    · rw [findEntry, if_neg h, ← ih, List.filter_cons]
      cases picks k <;> simp [findEntry, h]

namespace Table

/-- The entries whose keys a test picks. -/
def restrict (t : Table κ α) (picks : κ → Bool) : Table κ α :=
  ⟨t.entries.filter fun e => picks e.1, t.nodup.sublist (List.filter_sublist.map _)⟩

omit [DecidableEq κ] in

/-- A table is given by its entries. -/
theorem eq_of_entries {t t' : Table κ α} (h : t.entries = t'.entries) : t = t' := by
  obtain ⟨es, _⟩ := t
  obtain ⟨es', _⟩ := t'
  have hes : es = es' := h
  subst hes
  rfl

/-- A picked key has the value that it has in the whole table. -/
theorem get?_restrict (t : Table κ α) (picks : κ → Bool) {key : κ} (hkey : picks key = true) :
    (t.restrict picks).get? key = t.get? key :=
  findEntry_filter hkey t.entries

/-- A put is seen in a part of a table if its key is picked. -/
theorem restrict_put (t : Table κ α) (picks : κ → Bool) (key : κ) (value : α) :
    (t.put key value).restrict picks =
      if picks key then (t.restrict picks).put key value else t.restrict picks := by
  apply eq_of_entries
  show (putEntry key value t.entries).filter _ = _
  rw [filter_putEntry]
  cases picks key <;> rfl

/-- The sum of the weights of all entries. -/
def total (t : Table κ α) (w : κ → α → Nat) : Nat := (t.entries.map fun e => w e.1 e.2).sum

/-- A new value trades the weight of the old one for its own. -/
theorem total_put (t : Table κ α) (w : κ → α → Nat) (key : κ) (value : α) :
    (t.put key value).total w + weightAt w key (t.get? key) = t.total w + w key value :=
  sum_putEntry w key value t.entries

/-- The entries of a table are what its keys find. -/
theorem get?_eq_some_iff_mem {t : Table κ α} {key : κ} {value : α} :
    t.get? key = some value ↔ (key, value) ∈ t.entries :=
  ⟨mem_of_findEntry, findEntry_of_mem t.nodup⟩

/-- A weight that is nowhere larger has no larger sum. -/
theorem total_le_total {t : Table κ α} {w w' : κ → α → Nat}
    (h : ∀ k v, t.get? k = some v → w k v ≤ w' k v) : t.total w ≤ t.total w' := by
  apply List.sum_le_sum
  intro e he
  exact h e.1 e.2 (get?_eq_some_iff_mem.2 he)

/-- No entry weighs more than all together. -/
theorem weight_le_total {t : Table κ α} {key : κ} {value : α} (w : κ → α → Nat)
    (h : t.get? key = some value) : w key value ≤ t.total w :=
  List.le_sum_of_mem (List.mem_map.2 ⟨_, get?_eq_some_iff_mem.1 h, rfl⟩)

/-- The sum of a weight that only one key has. -/
theorem total_eq_of_single {w : κ → α → Nat} {key : κ} (hw : ∀ k v, k ≠ key → w k v = 0)
    (t : Table κ α) : t.total w = weightAt w key (t.get? key) :=
  sum_eq_of_single hw t.nodup

omit [DecidableEq κ] in
/-- The sum over the entries that a test picks. -/
theorem sum_map_filter (t : Table κ α) (picks : κ → Bool) (f : α → Nat) :
    (((t.entries.filter fun e => picks e.1).map Prod.snd).map f).sum =
      t.total fun k v => if picks k then f v else 0 := by
  unfold total
  induction t.entries with
  | nil => rfl
  | cons e es ih =>
    cases h : picks e.1 with
    | true => simp [h, ← ih]
    | false => simp [h, ← ih]

end Table

end SurveyGate
