import Mathlib.Algebra.Order.BigOperators.Group.List
import Mathlib.Algebra.Order.Ring.Nat
import SurveyGate.Proofs.History.Ordered

/-!
# `SurveyGate.Proofs.History.Recording`: how many impressions are recorded

`younger c ts` counts the instants after a number of nanoseconds. It is what a cap with a window
looks at (`length_inWindow`). Recording an impression counts it, pruning takes away nothing that is
younger than the cutoff (`younger_prune`), and a log put together from several histories counts what
they count together (`younger_ofHistories`).

The number of impressions ever stops at the largest value that its counter holds, so it is the true
number or `maxCount`, whichever is less (`addCounts_toNat`, `count_ofHistories`).
-/

set_option autoImplicit false

namespace SurveyGate

/-- How many instants come after a number of nanoseconds. -/
def younger (c : Int) (ts : List Instant) : Nat := ts.countP fun t => c < t.nanos

/-- The instants of two lists are counted in each of them. -/
theorem younger_append (c : Int) (ts us : List Instant) :
    younger c (ts ++ us) = younger c ts + younger c us :=
  List.countP_append

/-- The count does not depend on the order. -/
theorem younger_perm (c : Int) {ts us : List Instant} (h : ts.Perm us) :
    younger c ts = younger c us :=
  h.countP_eq _

/-- The instants that a cap counts are those younger than its window. -/
theorem CapState.length_inWindow {ts : List Instant} {now : Instant} (hasc : Ascending ts)
    (hts : ∀ u ∈ ts, u.isLeap = false) (hnow : now.isLeap = false) (seconds : Nat) :
    (inWindow seconds now ts).length = younger (now.nanos - seconds * nanosPerSecond) ts := by
  rw [inWindow_eq_filter hasc hts hnow, younger, List.countP_eq_length_filter]

namespace History

/-- A recorded instant counts. -/
theorem younger_insertInstant (c : Int) (t : Instant) (ts : List Instant) :
    younger c (insertInstant t ts) = younger c ts + younger c [t] := by
  rw [younger_perm c (insertInstant_perm t ts), ← List.singleton_append, younger_append,
    Nat.add_comm]

/-- Pruning takes away nothing that is younger than the cutoff. -/
theorem younger_prune {h : History} {cutoff : Instant} {c : Int} (hasc : Ascending h.impressions)
    (hleap : ∀ u ∈ h.impressions, u.isLeap = false) (hcutoff : cutoff.isLeap = false)
    (hc : cutoff.nanos ≤ c) :
    younger c (h.prune cutoff).impressions = younger c h.impressions := by
  rw [prune_impressions hasc, younger, younger, List.countP_filter]
  -- An instant younger than `c` is not before the cutoff.
  apply List.countP_congr
  intro u hu
  have hlt := Instant.lt_iff_nanos_lt (hleap u hu) hcutoff
  simp only [Bool.and_eq_true, decide_eq_true_eq, Bool.not_eq_true', decide_eq_false_iff_not, hlt]
  omega

end History

/-! ### Counters -/

/-- The largest number that a counter of impressions holds. -/
def maxCount : Nat := UInt64.size - 1

/-- No counter is above the largest count. -/
theorem toNat_le_maxCount (n : UInt64) : n.toNat ≤ maxCount :=
  Nat.le_sub_one_of_lt n.toNat_lt_size

/-- A counter holds the sum, or stops at its largest value. -/
theorem addCounts_toNat (a b : UInt64) :
    (addCounts a b).toNat = min (a.toNat + b.toNat) maxCount := by
  have hmax : maxCount = 18446744073709551615 := by decide
  have hsize : UInt64.size = 18446744073709551616 := rfl
  unfold addCounts
  split
  · rename_i h
    rw [UInt64.toNat_add, Nat.mod_eq_of_lt h]
    omega
  · rename_i h
    have hlast : (UInt64.ofNat (UInt64.size - 1)).toNat = maxCount := by decide
    rw [hlast]
    omega

/-- A sum of counts is the sum of numbers, up to the largest count. -/
theorem foldl_addCounts_toNat (a : UInt64) (cs : List UInt64) :
    (cs.foldl addCounts a).toNat = min (a.toNat + (cs.map UInt64.toNat).sum) maxCount := by
  -- For any start, since a full counter stays full whatever is added.
  induction cs generalizing a with
  | nil =>
    have ha := toNat_le_maxCount a
    simp only [List.foldl_nil, List.map_nil, List.sum_nil]
    omega
  | cons c cs ih =>
    rw [List.foldl_cons, ih, addCounts_toNat, List.map_cons, List.sum_cons]
    omega

/-! ### Logs of several histories -/

namespace ImpressionLog

/-- The joined log is in order. -/
theorem ofHistories_ascending (hs : List History) : Ascending (ofHistories hs).instants := by
  have hsorted : ((hs.flatMap History.impressions).mergeSort (· ≤ ·)).Pairwise
      fun a b => decide (a ≤ b) = true := by
    apply List.pairwise_mergeSort
    · intro a b c hab hbc
      exact decide_eq_true (Instant.le_trans (of_decide_eq_true hab) (of_decide_eq_true hbc))
    · intro a b
      rw [Bool.or_eq_true, decide_eq_true_eq, decide_eq_true_eq]
      exact Instant.le_total a b
  exact hsorted.imp fun hab => of_decide_eq_true hab

/-- The joined log has the impressions of each history. -/
theorem mem_ofHistories {hs : List History} {u : Instant} :
    u ∈ (ofHistories hs).instants ↔ ∃ h ∈ hs, u ∈ h.impressions := by
  rw [ofHistories, List.mem_mergeSort, List.mem_flatMap]

/-- A log is made of the impressions of its histories. -/
theorem ofHistories_perm (hs : List History) :
    (ofHistories hs).instants.Perm (hs.flatMap History.impressions) :=
  List.mergeSort_perm ..

/-- A log counts what its histories count together. -/
theorem younger_ofHistories (c : Int) (hs : List History) :
    younger c (ofHistories hs).instants = (hs.map fun h => younger c h.impressions).sum := by
  rw [younger_perm c (ofHistories_perm hs), younger, List.countP_flatMap]
  rfl

/-- The joined log has each instant as often as the histories together. -/
theorem count_instants_ofHistories (u : Instant) (hs : List History) :
    (ofHistories hs).instants.count u = (hs.map fun h => h.impressions.count u).sum := by
  rw [(ofHistories_perm hs).count_eq, List.count_flatMap]
  rfl

/-- The joined log has as many impressions as the histories together. -/
theorem length_instants_ofHistories (hs : List History) :
    (ofHistories hs).instants.length = (hs.map fun h => h.impressions.length).sum := by
  rw [(ofHistories_perm hs).length_eq, List.length_flatMap]

/-- The joined log counts what the histories count together, up to the largest count. -/
theorem count_ofHistories (hs : List History) :
    (ofHistories hs).count.toNat = min (hs.map fun h => h.impressionCount.toNat).sum maxCount := by
  rw [ofHistories, foldl_addCounts_toNat, List.map_map]
  show min (0 + _) maxCount = _
  rw [Nat.zero_add]
  rfl

/-- A log does not depend on the order of its histories. -/
theorem ofHistories_of_perm {hs hs' : List History} (h : hs.Perm hs') :
    ofHistories hs = ofHistories hs' := by
  have hperm : (ofHistories hs).instants.Perm (ofHistories hs').instants :=
    (ofHistories_perm hs).trans ((h.flatMap_right _).trans (ofHistories_perm hs').symm)
  have hinstants : (ofHistories hs).instants = (ofHistories hs').instants :=
    (ofHistories_ascending hs).eq_of_perm (ofHistories_ascending hs') hperm
  have hcount : (ofHistories hs).count = (ofHistories hs').count := by
    apply UInt64.toNat_inj.1
    rw [count_ofHistories, count_ofHistories, (h.map _).sum_nat]
  exact congrArg₂ ImpressionLog.mk hinstants hcount

end ImpressionLog

end SurveyGate
