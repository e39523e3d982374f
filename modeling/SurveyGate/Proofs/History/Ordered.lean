import SurveyGate.History.Cap
import SurveyGate.Proofs.Time.Clock

/-!
# `SurveyGate.Proofs.History.Ordered`: instants in order

Histories keep their instants in order, and on such lists a search by halving is a filter
(`drop_bisect`): the items that a test accepts stand in front when it accepts everything before an
item that it accepts. So recording an impression adds it and keeps the order (`insertInstant_perm`,
`insertInstant_ascending`), pruning leaves out what is older than the cutoff
(`prune_impressions`), and a cap counts the instants younger than its window (`inWindow_eq_filter`).
-/

set_option autoImplicit false

namespace SurveyGate

namespace Instant

/-- The order of instants is transitive. -/
theorem le_trans {a b c : Instant} (hab : a ≤ b) (hbc : b ≤ c) : a ≤ c := Int.le_trans hab hbc

/-- Any two instants are in order one way or the other. -/
theorem le_total (a b : Instant) : a ≤ b ∨ b ≤ a := Int.le_total a.position b.position

/-- Two instants that are in order both ways are the same. -/
theorem le_antisymm {a b : Instant} (hab : a ≤ b) (hba : b ≤ a) : a = b :=
  position_injective (Int.le_antisymm hab hba)

/-- Two instants that are not in order are in the other one. -/
theorem le_of_not_le {a b : Instant} (h : ¬ a ≤ b) : b ≤ a := (le_total a b).resolve_left h

/-- What is not after an earlier instant is earlier too. -/
theorem lt_of_le_of_lt {a b c : Instant} (hab : a ≤ b) (hbc : b < c) : a < c :=
  Int.lt_of_le_of_lt hab hbc

end Instant

/-! ### Searches in ordered lists -/

section
variable {α : Type} {r : α → α → Prop} {accepts : α → Bool} {xs : List α}

/-- In an ordered list the accepted items stand in front when a test accepts everything before an
item that it accepts. -/
theorem filter_append_filter_not (hxs : xs.Pairwise r)
    (hdown : ∀ a b, r a b → accepts b = true → accepts a = true) :
    xs.filter accepts ++ xs.filter (!accepts ·) = xs := by
  induction xs with
  | nil => rfl
  | cons x xs ih =>
    obtain ⟨hx, htail⟩ := List.pairwise_cons.1 hxs
    cases haccepts : accepts x with
    | true =>
      rw [List.filter_cons_of_pos haccepts, List.filter_cons_of_neg (by simp [haccepts]),
        List.cons_append, ih htail]
    | false =>
      -- Nothing behind the first item that is not accepted is accepted.
      have hnone : ∀ y ∈ xs, accepts y = false := by
        intro y hy
        cases hy' : accepts y with
        | false => rfl
        | true => rw [hdown x y (hx y hy) hy'] at haccepts; cases haccepts
      have hfront : (x :: xs).filter accepts = [] := by
        rw [List.filter_eq_nil_iff]
        intro y hy
        rcases List.mem_cons.1 hy with rfl | hy
        · simp [haccepts]
        · simp [hnone y hy]
      have hback : (x :: xs).filter (!accepts ·) = x :: xs := by
        rw [List.filter_eq_self]
        intro y hy
        rcases List.mem_cons.1 hy with rfl | hy
        · simp [haccepts]
        · simp [hnone y hy]
      rw [hfront, hback]
      rfl

/-- In an ordered list the search ends behind the accepted items. -/
theorem bisect_eq_length_filter (hxs : xs.Pairwise r)
    (hdown : ∀ a b, r a b → accepts b = true → accepts a = true) :
    bisect accepts xs = (xs.filter accepts).length := by
  have hsplit : bisect accepts (xs.filter accepts ++ xs.filter (!accepts ·)) =
      (xs.filter accepts).length := by
    refine bisect_append (fun x hx => (List.mem_filter.1 hx).2) (fun x hx => ?_)
    simpa using (List.mem_filter.1 hx).2
  rwa [filter_append_filter_not hxs hdown] at hsplit

/-- The elements before the cut are those accepted. -/
theorem take_bisect (hxs : xs.Pairwise r)
    (hdown : ∀ a b, r a b → accepts b = true → accepts a = true) :
    xs.take (bisect accepts xs) = xs.filter accepts := by
  have hplace := bisect_eq_length_filter hxs hdown
  calc xs.take (bisect accepts xs)
      = (xs.filter accepts ++ xs.filter (!accepts ·)).take (xs.filter accepts).length := by
        rw [filter_append_filter_not hxs hdown, hplace]
    _ = xs.filter accepts := List.take_left

/-- The elements behind the cut are those not accepted. -/
theorem drop_bisect (hxs : xs.Pairwise r)
    (hdown : ∀ a b, r a b → accepts b = true → accepts a = true) :
    xs.drop (bisect accepts xs) = xs.filter (!accepts ·) := by
  have hplace := bisect_eq_length_filter hxs hdown
  calc xs.drop (bisect accepts xs)
      = (xs.filter accepts ++ xs.filter (!accepts ·)).drop (xs.filter accepts).length := by
        rw [filter_append_filter_not hxs hdown, hplace]
    _ = xs.filter (!accepts ·) := List.drop_left

end

/-- Instants earliest first. -/
def Ascending (ts : List Instant) : Prop := ts.Pairwise (· ≤ ·)

/-- There is one way to put instants in order. -/
theorem Ascending.eq_of_perm {ts us : List Instant} (hts : Ascending ts) (hus : Ascending us)
    (h : ts.Perm us) : ts = us :=
  h.eq_of_pairwise (fun _ _ _ _ hab hba => Instant.le_antisymm hab hba) hts hus

/-- A test for what is not later than an instant accepts everything before what it accepts. -/
theorem le_downward (t : Instant) (a b : Instant) (hab : a ≤ b) (hb : decide (b ≤ t) = true) :
    decide (a ≤ t) = true :=
  decide_eq_true (Instant.le_trans hab (of_decide_eq_true hb))

/-- What is not after an instant before `t` is before `t`. -/
theorem lt_downward (t : Instant) (a b : Instant) (hab : a ≤ b) (hb : decide (b < t) = true) :
    decide (a < t) = true :=
  decide_eq_true (Instant.lt_of_le_of_lt hab (of_decide_eq_true hb))

namespace History

variable {ts : List Instant} {t : Instant}

/-- An instant joins the others, whatever their order. -/
theorem insertInstant_perm (t : Instant) (ts : List Instant) :
    (insertInstant t ts).Perm (t :: ts) := by
  have hmiddle : (insertInstant t ts).Perm
      (t :: (ts.take (bisect (· ≤ t) ts) ++ ts.drop (bisect (· ≤ t) ts))) := List.perm_middle
  rwa [List.take_append_drop] at hmiddle

/-- An instant joins ordered ones in its place. -/
theorem insertInstant_eq (h : Ascending ts) :
    insertInstant t ts = ts.filter (· ≤ t) ++ t :: ts.filter (fun u => !decide (u ≤ t)) := by
  show ts.take (bisect (· ≤ t) ts) ++ t :: ts.drop (bisect (· ≤ t) ts) = _
  rw [take_bisect h (le_downward t), drop_bisect h (le_downward t)]

/-- An instant is put where it belongs. -/
theorem insertInstant_ascending (h : Ascending ts) : Ascending (insertInstant t ts) := by
  rw [insertInstant_eq h]
  -- What is not later than `t` stands in front of it, what is later behind it.
  refine List.pairwise_append.2 ⟨h.filter _, List.pairwise_cons.2 ⟨fun u hu => ?_, h.filter _⟩,
    fun a ha b hb => ?_⟩
  · have hlate : ¬ u ≤ t := by simpa using (List.mem_filter.1 hu).2
    exact Instant.le_of_not_le hlate
  · have hat : a ≤ t := by simpa using (List.mem_filter.1 ha).2
    rcases List.mem_cons.1 hb with rfl | hb
    · exact hat
    · have hlate : ¬ b ≤ t := by simpa using (List.mem_filter.1 hb).2
      exact Instant.le_trans hat (Instant.le_of_not_le hlate)

/-- Pruning an ordered history leaves out the impressions before the cutoff. -/
theorem prune_impressions {h : History} (hasc : Ascending h.impressions) (cutoff : Instant) :
    (h.prune cutoff).impressions = h.impressions.filter fun u => !decide (u < cutoff) :=
  drop_bisect hasc (lt_downward cutoff)

/-- What is left behind a cut is in order. -/
theorem prune_ascending {h : History} (hasc : Ascending h.impressions) (cutoff : Instant) :
    Ascending (h.prune cutoff).impressions := by
  rw [prune_impressions hasc]
  exact hasc.filter _

/-- Where nothing happened, the impressions are in order too. -/
theorem ascending_getD {h : Option History}
    (hasc : ∀ history, h = some history → Ascending history.impressions) :
    Ascending (h.getD .empty).impressions := by
  cases h with
  | none => exact List.Pairwise.nil
  | some history => exact hasc history rfl

end History

namespace CapState

section
variable {ts : List Instant} {now start : Instant} {seconds : Nat}

/-- A cap does not count the instants up to the start of its window. -/
theorem inWindow_of_before (hasc : Ascending ts) (h : now.before seconds = some start) :
    inWindow seconds now ts = ts.filter fun u => !decide (u ≤ start) := by
  rw [inWindow, h]
  exact drop_bisect hasc (le_downward start)

/-- A window that begins before the clock holds every instant. -/
theorem inWindow_of_before_eq_none (h : now.before seconds = none) :
    inWindow seconds now ts = ts := by
  rw [inWindow, h]

/-- A cap counts the instants younger than its window. -/
theorem inWindow_eq_filter (hasc : Ascending ts) (hts : ∀ u ∈ ts, u.isLeap = false)
    (hnow : now.isLeap = false) (seconds : Nat) :
    inWindow seconds now ts =
      ts.filter fun u => now.nanos - seconds * nanosPerSecond < u.nanos := by
  cases hbefore : now.before seconds with
  | none =>
    -- No instant is too old.
    rw [inWindow_of_before_eq_none hbefore]
    symm
    rw [List.filter_eq_self]
    intro u _
    exact decide_eq_true (Instant.nanos_lt_of_before_eq_none hnow hbefore u)
  | some start =>
    obtain ⟨hstart, hnanos⟩ := Instant.nanos_of_before hnow hbefore
    rw [inWindow_of_before hasc hbefore]
    apply List.filter_congr
    intro u hu
    rw [← hnanos]
    have hle := Instant.le_iff_nanos_le (hts u hu) hstart
    by_cases h : u ≤ start
    · have hnot := Int.not_lt.2 (hle.1 h)
      simp [h, hnot]
    · have hlt := Int.not_le.1 (mt hle.2 h)
      simp [h, hlt]

/-- Two ordered lists have the same instants in a window if they have each instant that may lie in
it equally often. -/
theorem inWindow_eq_of_count {us : List Instant} (hts : Ascending ts) (hus : Ascending us)
    (h : ∀ u, (∀ start, now.before seconds = some start → ¬ u ≤ start) →
      ts.count u = us.count u) :
    inWindow seconds now ts = inWindow seconds now us := by
  cases hbefore : now.before seconds with
  | none =>
    rw [inWindow_of_before_eq_none hbefore, inWindow_of_before_eq_none hbefore]
    apply hts.eq_of_perm hus
    rw [List.perm_iff_count]
    exact fun u => h u fun start hstart => absurd (hbefore.symm.trans hstart) (by simp)
  | some start =>
    rw [inWindow_of_before hts hbefore, inWindow_of_before hus hbefore]
    apply Ascending.eq_of_perm (hts.filter _) (hus.filter _)
    rw [List.perm_iff_count]
    intro u
    by_cases hold : u ≤ start
    · have hout (xs : List Instant) : (xs.filter fun u => !decide (u ≤ start)).count u = 0 :=
        List.count_eq_zero.2 fun hu => by simp [hold] at hu
      rw [hout, hout]
    · rw [List.count_filter (by simp [hold]), List.count_filter (by simp [hold])]
      refine h u fun start' hstart => ?_
      rwa [← Option.some.inj (hbefore.symm.trans hstart)]

/-- A cap counts no more instants later, when nothing was recorded in between. -/
theorem length_inWindow_le (hasc : Ascending ts) {later : Instant} (hnow : now.isLeap = false)
    (hlater : later.isLeap = false) (hle : now ≤ later) (seconds : Nat) :
    (inWindow seconds later ts).length ≤ (inWindow seconds now ts).length := by
  cases hend : later.before seconds with
  | none =>
    have hstart := Instant.before_eq_none_of_le hnow hlater hle hend
    have hsame : inWindow seconds later ts = inWindow seconds now ts := by
      rw [inWindow_of_before_eq_none hend, inWindow_of_before_eq_none hstart]
    exact Nat.le_of_eq (congrArg List.length hsame)
  | some stop =>
    rw [inWindow_of_before hasc hend]
    cases hstart : now.before seconds with
    | none =>
      rw [inWindow_of_before_eq_none hstart]
      exact List.length_filter_le ..
    | some start =>
      rw [inWindow_of_before hasc hstart, ← List.countP_eq_length_filter,
        ← List.countP_eq_length_filter]
      -- What is not too old for the later window is not too old for the earlier one.
      have hmove := Instant.before_le_before hnow hlater hle hstart hend
      apply List.countP_mono_left
      intro u _ hu
      simp only [Bool.not_eq_true', decide_eq_false_iff_not] at hu ⊢
      exact fun hold => hu (Instant.le_trans hold hmove)

end

/-- A cap is not reached when it is off, or counts fewer impressions than its limit. -/
theorem compute_eq_below_iff {cap : FrequencyCap} {log : ImpressionLog} {now : Instant} :
    compute cap log now = .below ↔
      (cap.enabled = true → cap.limit ≠ 0 →
        (∀ window, cap.window = some window →
          (inWindow window.seconds now log.instants).length < cap.limit.toNat) ∧
        (cap.window = none →
          max log.count.toNat log.instants.length < cap.limit.toNat)) := by
  unfold compute
  cases henabled : cap.enabled with
  | false => simp
  | true =>
    by_cases hlimit : cap.limit = 0
    · simp [hlimit]
    · cases hwindow : cap.window with
      | none => simp [hlimit, lifelong]
      | some window => simp [hlimit, windowed]

end CapState

end SurveyGate
