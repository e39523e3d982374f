/-!
# `SurveyGate.Bisect`: search by halving

`bisect accepts xs` is the place where a list stops satisfying a test. It is found by halving the part
of the list in which it may lie, so not every item is looked at. When the accepted items all stand in
front, the place is their number (`bisect_append`).
-/

set_option autoImplicit false

namespace SurveyGate

/-- The index at which a search among `size` indices from `base` on ends. -/
def bisectFrom (accepts : Nat → Bool) : (fuel base size : Nat) → Nat
  | 0, base, _ => base
  | fuel + 1, base, size =>
    if size ≤ 1 then base
    else
      let half := size / 2
      bisectFrom accepts fuel (if accepts (base + half) then base + half else base) (size - half)

/-- The place where a list stops satisfying a test. -/
def bisect {α : Type} (accepts : α → Bool) (xs : List α) : Nat :=
  let acceptsAt (i : Nat) : Bool := xs[i]?.any accepts
  let last := bisectFrom acceptsAt xs.length 0 xs.length
  if acceptsAt last then last + 1 else last

/-- When exactly the indices below `count` are accepted, the search ends at the last of them. -/
theorem bisectFrom_bounds {accepts : Nat → Bool} {count : Nat}
    (h : ∀ i, accepts i = decide (i < count)) (fuel base size : Nat) (hfuel : size ≤ fuel + 1)
    (hcount : count ≤ base + size) (hbase : base < count ∨ base = 0) :
    let last := bisectFrom accepts fuel base size
    (last < count ∨ last = 0) ∧ count ≤ last + 1 := by
  induction fuel generalizing base size with
  | zero => exact ⟨hbase, by simp only [bisectFrom]; omega⟩
  | succ fuel ih =>
    simp only [bisectFrom]
    split
    · exact ⟨hbase, by omega⟩
    · rw [h]
      by_cases hmid : base + size / 2 < count
      · simp only [hmid, decide_true, if_true]
        exact ih _ _ (by omega) (by omega) (.inl hmid)
      · simp only [hmid, decide_false, Bool.false_eq_true, if_false]
        exact ih _ _ (by omega) (by omega) hbase

/-- On a list that begins with its accepted items the search finds their number. -/
theorem bisect_append {α : Type} {accepts : α → Bool} {xs ys : List α}
    (hx : ∀ x ∈ xs, accepts x = true) (hy : ∀ y ∈ ys, accepts y = false) :
    bisect accepts (xs ++ ys) = xs.length := by
  have h : ∀ i, (xs ++ ys)[i]?.any accepts = decide (i < xs.length) := by
    intro i
    by_cases hi : i < xs.length
    · rw [List.getElem?_append_left hi, List.getElem?_eq_getElem hi]
      simp [hi, hx _ (List.getElem_mem hi)]
    · rw [List.getElem?_append_right (by omega)]
      cases hg : ys[i - xs.length]? with
      | none => simp [hi]
      | some y => simp [hi, hy y (List.mem_of_getElem? hg)]
  obtain ⟨hlast, hcount⟩ := bisectFrom_bounds h (xs ++ ys).length 0 (xs ++ ys).length (by omega)
    (by simp) (.inr rfl)
  simp only [h] at hlast hcount
  simp only [bisect, h, decide_eq_true_eq]
  split <;> omega

end SurveyGate
