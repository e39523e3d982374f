import SurveyGate.Proofs.Store.AccountLog
import SurveyGate.Proofs.Store.Waiting

/-!
# `SurveyGate.Proofs.Store.Refiring`: surveys that were completed

`completedOn` reads off the writes when a device completed a survey. The history of the survey on
the device remembers the latest of these completions, in whatever order they were recorded and
whatever else was written (`Store.lastCompleted_written`).

`decide_completed` states what follows for decisions. A survey without refire is not shown any more
once it was completed. With a refire interval it is shown again only when the interval is over since
each completion, where the end of the interval may lie outside the clock; and if the clock does reach
the ends of all these intervals and they have passed, the completions do not stand against it.
-/

set_option autoImplicit false

namespace SurveyGate

/-- The instant of a write that completes a survey on a device. -/
def Write.completed? (device : DeviceId) (id : SurveyId) : Write → Option Instant
  | .completion d i t => if (d, i) = (device, id) then some t else none
  | _ => none

/-- The instants at which a survey was completed on a device, in the order in which this was
recorded. -/
def completedOn (device : DeviceId) (id : SurveyId) (ws : List Write) : List Instant :=
  ws.filterMap (Write.completed? device id)

section
variable {ws : List Write} {device : DeviceId} {id : SurveyId} {t : Instant}

/-- Completions are not taken back. -/
theorem mem_completedOn_append (later : List Write) (h : t ∈ completedOn device id ws) :
    t ∈ completedOn device id (ws ++ later) := by
  rw [completedOn, List.filterMap_append]
  exact List.mem_append_left _ h

/-- A write has the event of its completion and no other. -/
theorem completions_events (retention : Option Int) (device : DeviceId) (id : SurveyId)
    (w : Write) :
    completions (w.events retention device id) = (w.completed? device id).toList := by
  cases w with
  | impression d account i t =>
    rw [Write.events]
    split
    · cases retention.bind fun nanos => t.shiftNanos (-nanos) <;> rfl
    · rfl
  | completion d i t =>
    rw [Write.events, Write.completed?]
    split <;> rfl
  | dismissal d i t =>
    rw [Write.events]
    split <;> rfl
  | _ => rfl

/-- The completions among the events of writes are those on the device. -/
theorem completions_flatMap_events (retention : Option Int) (ws : List Write) (device : DeviceId)
    (id : SurveyId) :
    completions (ws.flatMap (Write.events retention device id)) = completedOn device id ws := by
  induction ws with
  | nil => rfl
  | cons w ws ih =>
    rw [List.flatMap_cons, completions, List.filterMap_append]
    show completions _ ++ completions _ = _
    rw [completions_events, ih, completedOn, completedOn, List.filterMap_cons]
    cases w.completed? device id <;> rfl

/-- The survey that was put in last under a number has that number. -/
theorem id_of_lastInserted {s : Survey} (h : lastInserted ws id = some s) : s.id = id := by
  obtain ⟨w, -, hw⟩ := List.mem_filterMap.1 (List.mem_of_getLast? h)
  cases w with
  | insertSurvey survey =>
    rw [Write.inserted?] at hw
    split at hw
    · obtain rfl := Option.some.inj hw
      assumption
    · cases hw
  | _ => cases hw

end

namespace Store

/-- A survey stands under its own number. -/
theorem id_of_survey_written {retention : Option Int} {ws : List Write} {id : SurveyId}
    {s : Survey} (h : ((keeping retention).written ws).survey id = .ok s) : s.id = id := by
  rw [survey_eq_ok_iff, surveys_written] at h
  exact id_of_lastInserted h

/-- Whatever is written, the latest completion of a survey on a device is remembered. -/
theorem lastCompleted_written (retention : Option Int) (ws : List Write) (device : DeviceId)
    (id : SurveyId) :
    LatestOf (completedOn device id ws)
      ((((keeping retention).written ws).history device id).bind History.lastCompleted) := by
  have hlatest := History.lastCompleted_run (ws.flatMap (Write.events retention device id))
  rw [completions_flatMap_events, ← history_written] at hlatest
  cases h : ((keeping retention).written ws).history device id <;> rwa [h] at hlatest

end Store

section
variable {ts : List Instant} {s : Survey} {h : Option History} {now : Instant}

/-- A survey that may be shown again although it was completed has refire. -/
theorem RefireState.refireEnabled_of_may (hlatest : LatestOf ts (h.bind History.lastCompleted))
    (hmay : compute s h now = .neverCompleted ∨ compute s h now = .eligible)
    (hne : ts ≠ []) : s.refireEnabled = true := by
  rw [compute_may_iff] at hmay
  cases hlast : h.bind History.lastCompleted with
  | none =>
    rw [hlast] at hlatest
    exact absurd hlatest hne
  | some completed => exact (hmay completed hlast).1

/-- A survey that may be shown again has waited for its interval since each completion. -/
theorem RefireState.nanos_le_of_may (hlatest : LatestOf ts (h.bind History.lastCompleted))
    (hmay : compute s h now = .neverCompleted ∨ compute s h now = .eligible)
    (hleap : ∀ t ∈ ts, t.isLeap = false) {interval : Interval}
    (hinterval : s.refireInterval = some interval) {t : Instant} (ht : t ∈ ts) :
    t.nanos + interval.seconds * nanosPerSecond ≤ now.nanos := by
  rw [compute_may_iff] at hmay
  cases hlast : h.bind History.lastCompleted with
  | none =>
    rw [hlast] at hlatest
    have hnil : ts = [] := hlatest
    rw [hnil] at ht
    cases ht
  | some completed =>
    rw [hlast] at hlatest
    obtain ⟨hmem, hmax⟩ := hlatest
    obtain ⟨due, hdue, hpast⟩ := (hmay completed hlast).2 interval hinterval
    -- The interval since the latest completion is the last one to end.
    obtain ⟨hdueLeap, hdueNanos⟩ := Instant.nanos_of_after (hleap completed hmem) hdue
    have hlater := (Instant.le_iff_nanos_le (hleap t ht) (hleap completed hmem)).1 (hmax t ht)
    have hreached := Instant.nanos_le_of_le hdueLeap hpast
    omega

/-- A survey may be shown if it was never completed, or if it has refire and the interval since each
completion has ended. -/
theorem RefireState.may_of_forall (hlatest : LatestOf ts (h.bind History.lastCompleted))
    (hall : ∀ t ∈ ts, s.refireEnabled = true ∧ ∀ interval, s.refireInterval = some interval →
      ∃ due, t.after interval.seconds = some due ∧ due ≤ now) :
    compute s h now = .neverCompleted ∨ compute s h now = .eligible := by
  rw [compute_may_iff]
  intro completed hlast
  rw [hlast] at hlatest
  exact hall completed hlatest.1

end

section
variable {retention : Option Int} {ws : List Write} {id : SurveyId} {s : Survey}
  {device : DeviceId} {v : Visitor}

/-- A survey that is shown to a device may be shown again to it. -/
theorem Store.may_of_decide_written (hdevice : v.device = some device)
    (hs : ((keeping retention).written ws).survey id = .ok s) {calls : List PageCall}
    (h : (decide ((keeping retention).written ws).reads id v calls).1 = true) :
    RefireState.compute s (((keeping retention).written ws).history device id) v.now =
        .neverCompleted ∨
      RefireState.compute s (((keeping retention).written ws).history device id) v.now =
        .eligible := by
  obtain ⟨s', hs', hallows⟩ := allows_of_decide h
  obtain rfl := Except.ok.inj (hs'.symm.trans hs)
  obtain rfl := id_of_survey_written hs
  exact hallows.mayRefire device hdevice _ rfl

/-- A survey that was completed and is shown all the same has refire. -/
theorem Store.refireEnabled_of_decide_written (hdevice : v.device = some device)
    (hs : ((keeping retention).written ws).survey id = .ok s) {calls : List PageCall}
    (h : (decide ((keeping retention).written ws).reads id v calls).1 = true)
    (hne : completedOn device id ws ≠ []) : s.refireEnabled = true :=
  RefireState.refireEnabled_of_may (lastCompleted_written retention ws device id)
    (may_of_decide_written hdevice hs h) hne

/-- The check of refire passes when the writes give it no reason not to. -/
theorem Store.refireFinding_passes_written (hdevice : v.device = some device)
    (hs : ((keeping retention).written ws).survey id = .ok s)
    (hall : ∀ t ∈ completedOn device id ws, s.refireEnabled = true ∧
      ∀ interval, s.refireInterval = some interval →
        ∃ due, t.after interval.seconds = some due ∧ due ≤ v.now) :
    (refireFinding ((keeping retention).written ws).reads s v).passes = true := by
  obtain rfl := id_of_survey_written hs
  rw [refireFinding_passes_iff]
  intro d hd h hread
  obtain rfl := Option.some.inj (hdevice.symm.trans hd)
  obtain rfl := Except.ok.inj hread
  exact RefireState.may_of_forall (lastCompleted_written retention ws device s.id) hall

end

/-- After any writes to a store that was empty,

- a survey that was completed on a device is not shown to it, whatever is written later, if it has
  no refire then;
- a survey with a refire interval that is shown to a device has waited for the interval since each
  completion on the device, counted in nanoseconds without end;
- the check of refire passes if the survey was not completed on the device, or if it has refire and
  the clock reaches the end of the interval since each completion, and has passed it. -/
theorem decide_completed (retention : Option Int) (ws : List Write) (id : SurveyId)
    {device : DeviceId} {v : Visitor} (hdevice : v.device = some device) :
    let completed := completedOn device id ws
    let st := (Store.keeping retention).written ws
    (∀ t ∈ completed, ∀ later calls,
      (∀ s, (st.written later).survey id = .ok s → s.refireEnabled = false) →
      (decide (st.written later).reads id v calls).1 = false) ∧
    (∀ s interval calls, st.survey id = .ok s → s.refireInterval = some interval →
      (∀ t ∈ completed, t.isLeap = false) → (decide st.reads id v calls).1 = true →
      ∀ t ∈ completed, t.nanos + interval.seconds * nanosPerSecond ≤ v.now.nanos) ∧
    (∀ s, st.survey id = .ok s →
      (completed = [] ∨ s.refireEnabled = true ∧ ∀ interval, s.refireInterval = some interval →
        ∀ t ∈ completed, ∃ due, t.after interval.seconds = some due ∧ due ≤ v.now) →
      (refireFinding st.reads s v).passes = true) := by
  intro completed st
  refine ⟨fun t ht later calls hoff => ?_, fun s interval calls hs hinterval hleap h t ht => ?_,
    fun s hs hwaited => ?_⟩
  · rw [← Store.written_append] at hoff ⊢
    rw [← Bool.not_eq_true]
    intro hshown
    obtain ⟨s, hs, -⟩ := allows_of_decide hshown
    have hne := List.ne_nil_of_mem (mem_completedOn_append later ht)
    have hon := Store.refireEnabled_of_decide_written hdevice hs hshown hne
    rw [hoff s hs] at hon
    cases hon
  · exact RefireState.nanos_le_of_may (Store.lastCompleted_written retention ws device id)
      (Store.may_of_decide_written hdevice hs h) hleap hinterval ht
  · refine Store.refireFinding_passes_written hdevice hs fun t ht => ?_
    rcases hwaited with hnone | ⟨hon, hdue⟩
    · exact absurd ht (List.eq_nil_iff_forall_not_mem.1 hnone t)
    · exact ⟨hon, fun interval hinterval => hdue interval hinterval t ht⟩

/-! ### A survey that was completed twice -/

/-- Two surveys are completed on a device, one of which may be shown again a day later. The earlier
completion of that one is recorded last. -/
def completedWrites : List Write :=
  [.insertSurvey dailySurvey, .insertSurvey ((Survey.draft ⟨2⟩ ⟨7⟩ "NPS").edit (.status .live)),
    .completion ⟨"tab"⟩ ⟨1⟩ (.atHour 5), .completion ⟨"tab"⟩ ⟨2⟩ (.atHour 5),
    .completion ⟨"tab"⟩ ⟨1⟩ (.atHour 0)]

/-- The one survey comes again a day after its later completion; the other one does not come again,
also not after it was shown and dismissed. -/
theorem decide_completed_twice :
    let v := tabVisitor (.atHour 29)
    let st := (Store.keeping none).written completedWrites
    completedOn ⟨"tab"⟩ ⟨1⟩ completedWrites = [.atHour 5, .atHour 0] ∧
      (decide st.reads ⟨1⟩ v []).1 = true ∧
      (Instant.atHour 5).nanos + 86400 * nanosPerSecond ≤ v.now.nanos ∧
      (refireFinding st.reads dailySurvey v).passes = true ∧
      (decide st.reads ⟨1⟩ (tabVisitor (.atHour 28)) []).1 = false ∧
      (decide (st.written [.impression ⟨"tab"⟩ ⟨7⟩ ⟨2⟩ (.atHour 6),
        .dismissal ⟨"tab"⟩ ⟨2⟩ (.atHour 7)]).reads ⟨2⟩ v []).1 = false := by
  intro v st
  have hcompleted : completedOn ⟨"tab"⟩ ⟨1⟩ completedWrites = [.atHour 5, .atHour 0] := by decide
  have hother : completedOn ⟨"tab"⟩ ⟨2⟩ completedWrites = [.atHour 5] := by decide
  have hshown : (decide st.reads ⟨1⟩ v []).1 = true := by decide +kernel
  obtain ⟨-, hafter, hpasses⟩ := decide_completed none completedWrites ⟨1⟩ (v := v) rfl
  obtain ⟨hnever, -⟩ := decide_completed none completedWrites ⟨2⟩ (v := v) rfl
  rw [hcompleted] at hafter hpasses
  rw [hother] at hnever
  refine ⟨hcompleted, hshown, ?_, ?_, by decide +kernel, ?_⟩
  · exact hafter dailySurvey ⟨1, .days⟩ [] rfl rfl (by decide) hshown _ List.mem_cons_self
  · refine hpasses dailySurvey rfl (.inr ⟨rfl, ?_⟩)
    rintro _ ⟨⟩
    decide
  · refine hnever _ List.mem_cons_self _ [] ?_
    rintro _ ⟨⟩
    rfl

end SurveyGate
