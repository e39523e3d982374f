import Mathlib.Data.List.Induction
import SurveyGate.Proofs.History.Ordered

/-!
# `SurveyGate.Proofs.History.Events`: histories as runs of events

A history is the run of its events. It keeps its impressions in order (`run_ascending`).
`completions` and `dismissals` are the instants of two kinds of events, in the order in which they
were recorded, which need not be the order of the instants.

The completion that a history remembers is the latest one, in whatever order they were recorded
(`lastCompleted_run`). A dismissal takes the place of the one before it, even of a later one, so the
dismissal that a history remembers is the one recorded last (`dismissed_run`). A survey counts as
closed without an answer when that one is later than all completions
(`dismissedWithoutAnswer_run`). As long as the latest dismissal is recorded last, this is to say
that some dismissal is later than all completions; one that is recorded late covers up a later one
(`dismissal_recorded_late`).
-/

set_option autoImplicit false

namespace SurveyGate

/-- The instant of a completion. -/
def HistoryEvent.completion? : HistoryEvent → Option Instant
  | .completion t => some t
  | _ => none

/-- The instant of a dismissal. -/
def HistoryEvent.dismissal? : HistoryEvent → Option Instant
  | .dismissal t => some t
  | _ => none

/-- The instants of completions, in the order in which they were recorded. -/
def completions (events : List HistoryEvent) : List Instant :=
  events.filterMap HistoryEvent.completion?

/-- The instants of dismissals, in the order in which they were recorded. -/
def dismissals (events : List HistoryEvent) : List Instant :=
  events.filterMap HistoryEvent.dismissal?

/-- One more event adds its dismissal, if it is one. -/
theorem dismissals_concat (events : List HistoryEvent) (e : HistoryEvent) :
    dismissals (events ++ [e]) = dismissals events ++ e.dismissal?.toList := by
  rw [dismissals, List.filterMap_append]
  rfl

/-! ### The latest of some instants -/

/-- The latest of some instants, or nothing when there are none. -/
def LatestOf (ts : List Instant) : Option Instant → Prop
  | some t => t ∈ ts ∧ ∀ u ∈ ts, u ≤ t
  | none => ts = []

/-- No instant is later than the last one of a list. -/
def EndsWithLatest (ts : List Instant) : Prop :=
  ∀ last, ts.getLast? = some last → ∀ t ∈ ts, t ≤ last

section
variable {ts : List Instant} {last : Option Instant}

/-- The latest of two instants is not before either. -/
theorem History.le_latest (last : Option Instant) (t : Instant) :
    t ≤ History.latest last t ∧ ∀ s, last = some s → s ≤ History.latest last t := by
  cases last with
  | none => exact ⟨Int.le_refl _, by rintro _ ⟨⟩⟩
  | some s =>
    unfold History.latest
    by_cases h : s < t
    · simp only [h, if_true]
      exact ⟨Int.le_refl _, by rintro _ ⟨⟩; exact Int.le_of_lt h⟩
    · simp only [h, if_false]
      exact ⟨Int.not_lt.1 h, by rintro _ ⟨⟩; exact Int.le_refl _⟩

/-- The latest of two instants is one of them. -/
theorem History.latest_eq_or (last : Option Instant) (t : Instant) :
    History.latest last t = t ∨ last = some (History.latest last t) := by
  cases last with
  | none => exact .inl rfl
  | some s =>
    unfold History.latest
    by_cases h : s < t
    · exact .inl (by simp [h])
    · exact .inr (by simp [h])

/-- With one more instant the latest is the new one or the one from before. -/
theorem LatestOf.concat (h : LatestOf ts last) (t : Instant) :
    LatestOf (ts ++ [t]) (some (History.latest last t)) := by
  obtain ⟨hnew, hold⟩ := History.le_latest last t
  refine ⟨?_, fun u hu => ?_⟩
  · rcases History.latest_eq_or last t with heq | heq
    · rw [heq]
      exact List.mem_append_right _ List.mem_cons_self
    · rw [heq] at h
      exact List.mem_append_left _ h.1
  · rcases List.mem_append.1 hu with hu | hu
    · cases last with
      | none =>
        have hnil : ts = [] := h
        subst hnil
        cases hu
      | some s => exact Instant.le_trans (h.2 u hu) (hold s rfl)
    · rw [List.mem_singleton.1 hu]
      exact hnew

/-- There is a latest instant when there is any. -/
theorem LatestOf.ne_none_iff (h : LatestOf ts last) : last ≠ none ↔ ts ≠ [] := by
  cases last with
  | none =>
    have hnil : ts = [] := h
    simp [hnil]
  | some t => simp [List.ne_nil_of_mem h.1]

/-- An instant is later than all when it is later than the latest. -/
theorem LatestOf.forall_lt_iff (h : LatestOf ts last) (d : Instant) :
    (∀ t ∈ ts, t < d) ↔ ∀ t, last = some t → t < d := by
  cases last with
  | none =>
    have hnil : ts = [] := h
    simp [hnil]
  | some s =>
    obtain ⟨hmem, hmax⟩ := h
    constructor
    · rintro hall _ ⟨⟩
      exact hall s hmem
    · intro hlatest t ht
      exact Instant.lt_of_le_of_lt (hmax t ht) (hlatest s rfl)

/-- Of a list that ends with its latest instant, that one is late enough if any is. -/
theorem EndsWithLatest.exists_iff (h : EndsWithLatest ts) {us : List Instant} :
    (∃ d, ts.getLast? = some d ∧ ∀ u ∈ us, u < d) ↔ ∃ d ∈ ts, ∀ u ∈ us, u < d := by
  constructor
  · rintro ⟨d, hlast, hall⟩
    exact ⟨d, List.mem_of_getLast? hlast, hall⟩
  · rintro ⟨d, hd, hall⟩
    cases hlast : ts.getLast? with
    | none =>
      rw [List.getLast?_eq_none_iff.1 hlast] at hd
      cases hd
    | some last =>
      exact ⟨last, rfl, fun u hu => Int.lt_of_lt_of_le (hall u hu) (h last hlast d hd)⟩

end

/-! ### What a history remembers -/

namespace History

/-- One more event is one more step. -/
theorem run_concat (events : List HistoryEvent) (e : HistoryEvent) :
    run (events ++ [e]) = (run events).step e := by
  rw [run, List.foldl_append]
  rfl

/-- An event keeps the impressions in order. -/
theorem step_ascending {h : History} (hasc : Ascending h.impressions) (e : HistoryEvent) :
    Ascending (h.step e).impressions := by
  cases e with
  | impression t => exact insertInstant_ascending hasc
  | completion t => exact hasc
  | dismissal t => exact hasc
  | prune cutoff => exact prune_ascending hasc cutoff

/-- The impressions of every history are in order. -/
theorem run_ascending (events : List HistoryEvent) : Ascending (run events).impressions := by
  induction events using List.reverseRecOn with
  | nil => exact List.Pairwise.nil
  | append_singleton events e ih =>
    rw [run_concat]
    exact step_ascending ih e

/-- A completion is remembered if it is later than the one from before. -/
theorem lastCompleted_step (h : History) (e : HistoryEvent) :
    (h.step e).lastCompleted =
      match e.completion? with
      | some t => some (latest h.lastCompleted t)
      | none => h.lastCompleted := by
  cases e <;> rfl

/-- A dismissal is remembered in place of the one from before. -/
theorem dismissed_step (h : History) (e : HistoryEvent) :
    (h.step e).dismissed = e.dismissal?.or h.dismissed := by
  cases e <;> rfl

/-- What a history remembers is the latest instant of some kind of events, if such an event replaces
an earlier instant and no other event changes it. -/
theorem latestOf_run {last : History → Option Instant} {instant? : HistoryEvent → Option Instant}
    (hempty : last empty = none)
    (hstep : ∀ h e, last (h.step e) =
      match instant? e with
      | some t => some (latest (last h) t)
      | none => last h) (events : List HistoryEvent) :
    LatestOf (events.filterMap instant?) (last (run events)) := by
  induction events using List.reverseRecOn with
  | nil => exact hempty ▸ rfl
  | append_singleton events e ih =>
    rw [run_concat, hstep, List.filterMap_append]
    cases hinstant : instant? e with
    | none => simpa [hinstant] using ih
    | some t => simpa [hinstant] using ih.concat t

/-- A history remembers its latest completion. -/
theorem lastCompleted_run (events : List HistoryEvent) :
    LatestOf (completions events) (run events).lastCompleted :=
  latestOf_run rfl lastCompleted_step events

/-- A history remembers the dismissal that was recorded last. -/
theorem dismissed_run (events : List HistoryEvent) :
    (run events).dismissed = (dismissals events).getLast? := by
  induction events using List.reverseRecOn with
  | nil => rfl
  | append_singleton events e ih =>
    rw [run_concat, dismissed_step, ih, dismissals_concat, List.getLast?_append]
    cases e.dismissal? <;> rfl

/-- A survey stays dismissed while no completion follows its dismissal. -/
theorem dismissedWithoutAnswer_iff (h : History) :
    h.dismissedWithoutAnswer = true ↔
      ∃ d, h.dismissed = some d ∧ ∀ c, h.lastCompleted = some c → c < d := by
  unfold dismissedWithoutAnswer
  cases h.dismissed with
  | none => simp
  | some d => cases h.lastCompleted <;> simp

/-- A survey counts as closed without an answer when the dismissal that was recorded last is later
than every completion. If it is also the latest dismissal, this is the case when any dismissal is
later than every completion; so two records of the same events agree if both end with the latest
dismissal. -/
theorem dismissedWithoutAnswer_run (events : List HistoryEvent) :
    ((run events).dismissedWithoutAnswer = true ↔
      ∃ d, (dismissals events).getLast? = some d ∧ ∀ c ∈ completions events, c < d) ∧
    (EndsWithLatest (dismissals events) →
      ((run events).dismissedWithoutAnswer = true ↔
        ∃ d ∈ dismissals events, ∀ c ∈ completions events, c < d) ∧
      ∀ events', events'.Perm events → EndsWithLatest (dismissals events') →
        (run events').dismissedWithoutAnswer = (run events).dismissedWithoutAnswer) := by
  have hlast (es : List HistoryEvent) : (run es).dismissedWithoutAnswer = true ↔
      ∃ d, (dismissals es).getLast? = some d ∧ ∀ c ∈ completions es, c < d := by
    rw [dismissedWithoutAnswer_iff, dismissed_run]
    exact exists_congr fun d => and_congr_right fun _ =>
      ((lastCompleted_run es).forall_lt_iff d).symm
  have hany (es : List HistoryEvent) (hes : EndsWithLatest (dismissals es)) :
      (run es).dismissedWithoutAnswer = true ↔
        ∃ d ∈ dismissals es, ∀ c ∈ completions es, c < d :=
    (hlast es).trans hes.exists_iff
  refine ⟨hlast events, fun hend => ⟨hany events hend, fun events' hperm hend' => ?_⟩⟩
  -- Whether any dismissal is late enough is asked of the same instants on both sides.
  rw [Bool.eq_iff_iff, hany events hend, hany events' hend']
  refine exists_congr fun d => and_congr (hperm.filterMap _).mem_iff ?_
  exact forall_congr' fun c => imp_congr_left (hperm.filterMap _).mem_iff

/-- A survey is closed, completed before that, and closed once more without an answer; the events
arrive in another order, but the latest one still last. -/
theorem dismissedWithoutAnswer_run_reordered :
    let events : List HistoryEvent :=
      [.completion (.atHour 3), .dismissal (.atHour 1), .dismissal (.atHour 5)]
    let inOrder : List HistoryEvent :=
      [.dismissal (.atHour 1), .completion (.atHour 3), .dismissal (.atHour 5)]
    EndsWithLatest (dismissals events) ∧ EndsWithLatest (dismissals inOrder) ∧
      inOrder.Perm events ∧ (run inOrder).dismissedWithoutAnswer = true ∧
      (run events).dismissedWithoutAnswer = true := by
  intro events inOrder
  have hend : EndsWithLatest (dismissals events) := by
    rintro _ ⟨⟩
    decide
  have hend' : EndsWithLatest (dismissals inOrder) := by
    rintro _ ⟨⟩
    decide
  have hperm : inOrder.Perm events := .swap ..
  have hclosed : (run events).dismissedWithoutAnswer = true := by decide
  obtain ⟨-, hrun⟩ := dismissedWithoutAnswer_run events
  exact ⟨hend, hend', hperm, ((hrun hend).2 inOrder hperm hend').trans hclosed, hclosed⟩

/-- A dismissal that is recorded late covers up a later one. The survey was closed after it was
completed, and yet it does not count as closed; with the same events in order of time it does. -/
theorem dismissal_recorded_late :
    let events : List HistoryEvent :=
      [.dismissal (.atHour 5), .completion (.atHour 3), .dismissal (.atHour 1)]
    (∃ d ∈ dismissals events, ∀ c ∈ completions events, c < d) ∧
      (run events).dismissedWithoutAnswer = false ∧
      (run events.reverse).dismissedWithoutAnswer = true := by
  decide

end History

end SurveyGate
