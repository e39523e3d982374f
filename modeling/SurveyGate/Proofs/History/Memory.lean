import SurveyGate.History.Refire
import SurveyGate.Proofs.History.Events
import SurveyGate.Proofs.History.Recording

/-!
# `SurveyGate.Proofs.History.Memory`: what a history keeps of its events

Events arrive in any order. `recordedImpressions` are the instants of all impressions among them,
and `unprunedImpressions` those that no later event prunes away.

A history that went through events `Remembers` them: its list holds the impressions that were not
pruned, as often as they were recorded and earliest first, its counters count all impressions and
completions until they are full, and its two instants are the latest ones. The list is what an event
rearranges, and it stays in order, so that a search by halving finds the right place in it
(`impressions_step_perm`). `run_remembers` is the statement for every run of events, with what a
survey that is shown again makes of it.
-/

set_option autoImplicit false

namespace SurveyGate

/-! ### Impressions among events -/

/-- The instant of an impression. -/
def HistoryEvent.impression? : HistoryEvent → Option Instant
  | .impression t => some t
  | _ => none

/-- Whether an event takes away an impression that is recorded before it. -/
def HistoryEvent.prunes (t : Instant) : HistoryEvent → Bool
  | .prune cutoff => t < cutoff
  | _ => false

/-- The instants of impressions, in the order in which they were recorded. -/
def recordedImpressions (events : List HistoryEvent) : List Instant :=
  events.filterMap HistoryEvent.impression?

/-- The instants of the impressions that no later event takes away, in the order in which they were
recorded. -/
def unprunedImpressions : List HistoryEvent → List Instant
  | [] => []
  | e :: later =>
    (e.impression?.toList.filter fun t => !later.any (HistoryEvent.prunes t)) ++
      unprunedImpressions later

/-- One more event prunes what was recorded before it, and may record an impression itself. -/
theorem unprunedImpressions_concat (events : List HistoryEvent) (e : HistoryEvent) :
    unprunedImpressions (events ++ [e]) =
      (unprunedImpressions events).filter (fun t => !e.prunes t) ++ e.impression?.toList := by
  induction events with
  | nil => cases h : e.impression? <;> simp [unprunedImpressions, h]
  | cons first events ih =>
    rw [List.cons_append, unprunedImpressions, ih, unprunedImpressions, List.filter_append,
      List.filter_filter, List.append_assoc]
    congr 1
    -- The first impression is pruned by an event from before or by the new one.
    apply List.filter_congr
    intro t _
    rw [List.any_append, Bool.not_or, Bool.and_comm]
    simp

/-! ### Counters -/

namespace History

/-- A counter that counts some kind of events and stops at a bound. -/
theorem count_run (count : History → Nat) (instant? : HistoryEvent → Option Instant) {bound : Nat}
    (hempty : count empty = 0)
    (hstep : ∀ h e, count (h.step e) = min (count h + (instant? e).toList.length) bound)
    (events : List HistoryEvent) :
    count (run events) = min (events.filterMap instant?).length bound := by
  induction events using List.reverseRecOn with
  | nil => simp [run, hempty]
  | append_singleton events e ih =>
    have hone : ([e].filterMap instant?).length = (instant? e).toList.length := by
      cases h : instant? e <;> simp [h]
    rw [run_concat, hstep, ih, List.filterMap_append, List.length_append, hone]
    omega

/-- An impression is counted, up to the largest count. -/
theorem impressionCount_step (h : History) (e : HistoryEvent) :
    (h.step e).impressionCount.toNat =
      min (h.impressionCount.toNat + e.impression?.toList.length) maxCount := by
  cases e with
  | impression t => exact addCounts_toNat h.impressionCount 1
  | _ => exact (Nat.min_eq_left (toNat_le_maxCount h.impressionCount)).symm

/-- A completion is counted, up to the largest count. -/
theorem completionCount_step (h : History) (e : HistoryEvent) :
    (h.step e).completionCount.toNat =
      min (h.completionCount.toNat + e.completion?.toList.length) (UInt32.size - 1) := by
  have hlt : h.completionCount.toNat < UInt32.size := h.completionCount.toNat_lt
  cases e with
  | completion t =>
    show (if h.completionCount.toNat + 1 < UInt32.size then h.completionCount + 1
      else h.completionCount).toNat = min (h.completionCount.toNat + 1) (UInt32.size - 1)
    split
    · rename_i hroom
      have hsum : (h.completionCount + 1).toNat = h.completionCount.toNat + 1 := by
        rw [UInt32.toNat_add]
        exact Nat.mod_eq_of_lt hroom
      omega
    · omega
  | _ =>
    show h.completionCount.toNat = min (h.completionCount.toNat + 0) (UInt32.size - 1)
    omega

/-! ### Instants -/

/-- An impression is remembered if it is later than the one from before. -/
theorem lastShown_step (h : History) (e : HistoryEvent) :
    (h.step e).lastShown =
      match e.impression? with
      | some t => some (latest h.lastShown t)
      | none => h.lastShown := by
  cases e <;> rfl

/-- An event leaves out the impressions that it prunes and adds its own. -/
theorem impressions_step_perm {h : History} (hasc : Ascending h.impressions) (e : HistoryEvent) :
    (h.step e).impressions.Perm
      (h.impressions.filter (fun t => !e.prunes t) ++ e.impression?.toList) := by
  have hall : h.impressions.filter (fun _ => !false) = h.impressions :=
    List.filter_eq_self.2 fun _ _ => rfl
  cases e with
  | impression t =>
    show (insertInstant t h.impressions).Perm (h.impressions.filter (fun _ => !false) ++ [t])
    rw [hall]
    exact (insertInstant_perm t h.impressions).trans
      (List.perm_append_singleton t h.impressions).symm
  | prune cutoff =>
    show (h.prune cutoff).impressions.Perm (_ ++ [])
    rw [prune_impressions hasc, List.append_nil]
    exact .refl _
  | completion t | dismissal t =>
    show h.impressions.Perm (h.impressions.filter (fun _ => !false) ++ [])
    rw [hall, List.append_nil]

/-- The list of a history holds the impressions that were recorded and not pruned since. -/
theorem impressions_run_perm (events : List HistoryEvent) :
    (run events).impressions.Perm (unprunedImpressions events) := by
  induction events using List.reverseRecOn with
  | nil => exact .refl _
  | append_singleton events e ih =>
    rw [run_concat, unprunedImpressions_concat]
    exact (impressions_step_perm (run_ascending events) e).trans ((ih.filter _).append_right _)

/-! ### Runs of events -/

/-- A history holds what some events amount to. -/
structure Remembers (h : History) (events : List HistoryEvent) : Prop where
  ascending : Ascending h.impressions
  impressions : h.impressions.Perm (unprunedImpressions events)
  impressionCount : h.impressionCount.toNat = min (recordedImpressions events).length (2 ^ 64 - 1)
  completionCount : h.completionCount.toNat = min (completions events).length (2 ^ 32 - 1)
  lastShown : LatestOf (recordedImpressions events) h.lastShown
  lastCompleted : LatestOf (completions events) h.lastCompleted

/-- Every history remembers the events it was made of. -/
theorem remembers_run (events : List HistoryEvent) : (run events).Remembers events where
  ascending := run_ascending events
  impressions := impressions_run_perm events
  impressionCount :=
    count_run (fun h => h.impressionCount.toNat) _ rfl impressionCount_step events
  completionCount :=
    count_run (fun h => h.completionCount.toNat) _ rfl completionCount_step events
  lastShown := latestOf_run rfl lastShown_step events
  lastCompleted := lastCompleted_run events

/-- A completion shows in the counter as well as in the instant that is remembered. -/
theorem Remembers.hasCompleted_iff {h : History} {events : List HistoryEvent}
    (hevents : h.Remembers events) : h.hasCompleted = true ↔ completions events ≠ [] := by
  have hcount := hevents.completionCount
  have hlast := hevents.lastCompleted.ne_none_iff
  have hpositive : 0 < h.completionCount ↔ completions events ≠ [] := by
    rw [UInt32.lt_iff_toNat_lt, hcount, ← List.length_pos_iff]
    show 0 < _ ↔ _
    omega
  rw [hasCompleted, Bool.or_eq_true, decide_eq_true_eq, Option.isSome_iff_ne_none, hpositive, hlast,
    or_self]

end History

/-- The completions are those of the events. -/
theorem mem_completions {events : List HistoryEvent} {t : Instant} :
    t ∈ completions events ↔ .completion t ∈ events := by
  rw [completions, List.mem_filterMap]
  constructor
  · rintro ⟨e, he, ht⟩
    cases e with
    | completion u => exact Option.some.inj ht ▸ he
    | _ => cases ht
  · exact fun h => ⟨_, h, rfl⟩

/-- A survey with a refire interval was completed, whether or not the interval is over. -/
theorem RefireState.afterCompletion_ne_neverCompleted (interval : Interval)
    (completed now : Instant) : afterCompletion interval completed now ≠ .neverCompleted := by
  unfold afterCompletion
  split
  · split <;> exact RefireState.noConfusion
  · exact RefireState.noConfusion

/-- Whether a survey is shown again is a question only after a completion. -/
theorem RefireState.compute_ne_neverCompleted_iff (s : Survey) (h : History) (now : Instant) :
    compute s (some h) now ≠ .neverCompleted ↔ h.lastCompleted ≠ none := by
  rw [compute, Option.bind_some]
  cases h.lastCompleted with
  | none => simp
  | some completed =>
    cases s.refireEnabled with
    | false => simp
    | true =>
      cases s.refireInterval with
      | none => simp
      | some interval => simpa using afterCompletion_ne_neverCompleted interval completed now

/-- A history remembers its events, in whatever order their instants are. A survey counts as
completed when some completion is among them, and this is when it has to wait to be shown again. -/
theorem History.run_remembers (events : List HistoryEvent) :
    (run events).Remembers events ∧
    ((run events).hasCompleted = true ↔ ∃ t, .completion t ∈ events) ∧
    ∀ s now, RefireState.compute s (some (run events)) now ≠ .neverCompleted ↔
      (run events).hasCompleted = true := by
  have hrun := remembers_run events
  refine ⟨hrun, ?_, fun s now => ?_⟩
  · rw [hrun.hasCompleted_iff, Ne, List.eq_nil_iff_forall_not_mem, not_forall_not]
    exact exists_congr fun t => mem_completions
  · rw [RefireState.compute_ne_neverCompleted_iff, hrun.hasCompleted_iff]
    exact hrun.lastCompleted.ne_none_iff

/-- Pruning reaches what was recorded before it. An impression that arrives later is kept, also one
of an earlier instant, and those that were pruned stay in the count. -/
example :
    let h := History.run [.impression (.atHour 5), .impression (.atHour 1), .prune (.atHour 2),
      .impression (.atHour 1)]
    h.impressions = [.atHour 1, .atHour 5] ∧ h.impressionCount = 3 := by
  decide

end SurveyGate
