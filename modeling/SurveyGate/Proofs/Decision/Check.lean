import SurveyGate.Decision.Check

/-!
# `SurveyGate.Proofs.Decision.Check`: what a survey asks of a visitor

`Survey.Allows` states the conditions of a survey itself, each as a fact about the survey, the
visitor and what the stores answer. A condition on something that is not known is void: an answer
that cannot be read, a device or a class of devices that the visitor does not tell.

`checkFindings_all_passes_iff` says that the findings of the checks pass together exactly when the
survey allows the visitor. It is put together from one lemma for each check.
-/

set_option autoImplicit false

namespace SurveyGate

/-- The conditions that a survey itself sets hold for a visitor. -/
structure Survey.Allows (r : Reads) (s : Survey) (v : Visitor) : Prop where
  live : s.status = .live
  started : ∀ start, s.schedule.startsAt = some start → start ≤ v.now
  notEnded : ∀ stop, s.schedule.endsAt = some stop → v.now ≤ stop
  belowGoal : ∀ n, r.submissions s.id = .ok n → n < s.goal
  enabledFor : ∀ d, v.deviceType = some d →
    match d with
    | .desktop => s.targeting.desktop = true
    | .mobile => s.targeting.mobile = true
    | .tablet => s.targeting.tablet = true
    | .nativeMobile => s.targeting.nativeMobile = true
  belowSurveyCap : s.ignoresCap = false → s.cap.enabled = true → s.cap.scope = .perSurvey →
    ∀ device, v.device = some device → ∀ h, r.history device s.id = .ok h →
    CapState.compute s.cap ((h.map ImpressionLog.ofHistory).getD .empty) v.now = .below
  belowAccountCap : s.ignoresCap = false → s.cap.enabled = true → s.cap.scope = .perAccount →
    ∀ device, v.device = some device → ∀ log, r.accountLog device s.account = .ok log →
    CapState.compute s.cap log v.now = .below
  mayRefire : ∀ device, v.device = some device → ∀ h, r.history device s.id = .ok h →
    RefireState.compute s h v.now = .neverCompleted ∨ RefireState.compute s h v.now = .eligible
  notDismissed : s.stopsWhenDismissed = true →
    ∀ device, v.device = some device → ∀ h, r.history device s.id = .ok (some h) →
    h.dismissedWithoutAnswer = false

/-- A decided condition that has to hold passes when it holds. -/
@[simp] theorem Check.passes_required (c : Check) (holds : Bool) (message : String) :
    (c.required holds message).passes = holds := by
  cases holds <;> rfl

/-- Without a device a condition is void. -/
@[simp] theorem Check.passes_withoutDevice (c : Check) : c.withoutDevice.passes = true := rfl

/-- A condition on what cannot be read is void. -/
@[simp] theorem Check.passes_unreadable (c : Check) (e : StorageError) :
    (c.unreadable e).passes = true := rfl

section
variable (r : Reads) (s : Survey) (v : Visitor)

/-- A survey has to be live. -/
theorem liveFinding_passes_iff : (liveFinding s).passes = true ↔ s.status = .live := by
  simp [liveFinding, Survey.isLive]

/-- The instant has to lie in the schedule, both bounds included. -/
theorem scheduleFinding_passes_iff (now : Instant) :
    (scheduleFinding s now).passes = true ↔
      (∀ start, s.schedule.startsAt = some start → start ≤ now) ∧
      ∀ stop, s.schedule.endsAt = some stop → now ≤ stop := by
  simp [scheduleFinding, Schedule.contains, Option.all_eq_true]

/-- The submissions, if they can be read, have to be below the goal. -/
theorem goalFinding_passes_iff :
    (goalFinding r s).passes = true ↔ ∀ n, r.submissions s.id = .ok n → n < s.goal := by
  unfold goalFinding
  cases r.submissions s.id with
  | error e => simp
  | ok n => simp [Survey.goalReached, UInt64.not_le]

/-- A class of devices is enabled by its own flag. -/
theorem DeviceTargeting.allows_iff (t : DeviceTargeting) (d : DeviceType) :
    t.allows d = true ↔
      match d with
      | .desktop => t.desktop = true
      | .mobile => t.mobile = true
      | .tablet => t.tablet = true
      | .nativeMobile => t.nativeMobile = true := by
  cases d <;> exact Iff.rfl

/-- A survey that is enabled for every class of devices asks nothing; it allows all of them. -/
theorem deviceTypeFinding?_passes_iff :
    (∀ f ∈ deviceTypeFinding? s v, f.passes = true) ↔
      ∀ d, v.deviceType = some d →
        match d with
        | .desktop => s.targeting.desktop = true
        | .mobile => s.targeting.mobile = true
        | .tablet => s.targeting.tablet = true
        | .nativeMobile => s.targeting.nativeMobile = true := by
  simp only [← DeviceTargeting.allows_iff]
  unfold deviceTypeFinding?
  by_cases hall : s.targeting = .all
  · simp [hall, DeviceTargeting.all_allows]
  · cases v.deviceType <;> simp [hall]

/-- Only a cap that is not reached lets the visitor pass. -/
theorem capStateFinding_passes_iff (limit : UInt32) (state : CapState) :
    (capStateFinding limit state).passes = true ↔ state = .below := by
  rcases state with _ | _ | reopens <;> simp [capStateFinding]

/-- Where the cap applies and its log can be read, it must not be reached. -/
theorem capFinding_passes_iff :
    (capFinding r s v).passes = true ↔
      (s.ignoresCap = false → s.cap.enabled = true →
        ∀ device, v.device = some device →
        ∀ log, capLog r s device = .ok log → CapState.compute s.cap log v.now = .below) := by
  unfold capFinding
  -- Every case but the last makes the condition void.
  cases hignores : s.ignoresCap with
  | true => simp
  | false =>
    cases henabled : s.cap.enabled with
    | false => simp
    | true =>
      cases hdevice : v.device with
      | none => simp
      | some device =>
        cases hlog : capLog r s device with
        | error e => simp [hlog]
        | ok log => simp [hlog, capStateFinding_passes_iff]

/-- The log of a cap on a single survey is that of the history of the survey. -/
theorem capLog_of_perSurvey (h : s.cap.scope = .perSurvey) (device : DeviceId)
    (log : ImpressionLog) :
    capLog r s device = .ok log ↔
      ∃ history, r.history device s.id = .ok history ∧
        (history.map ImpressionLog.ofHistory).getD .empty = log := by
  unfold capLog
  rw [h]
  cases r.history device s.id with
  | error e => simp [Except.map]
  | ok history => simp [Except.map]

/-- The log of a cap on an account is the log of the account. -/
theorem capLog_of_perAccount (h : s.cap.scope = .perAccount) (device : DeviceId) :
    capLog r s device = r.accountLog device s.account := by
  unfold capLog
  rw [h]

/-- A cap of either scope lets the visitor pass when the cap over the log of its scope does. -/
theorem capFinding_passes_iff_scope :
    (capFinding r s v).passes = true ↔
      (s.ignoresCap = false → s.cap.enabled = true → s.cap.scope = .perSurvey →
        ∀ device, v.device = some device → ∀ h, r.history device s.id = .ok h →
        CapState.compute s.cap ((h.map ImpressionLog.ofHistory).getD .empty) v.now = .below) ∧
      (s.ignoresCap = false → s.cap.enabled = true → s.cap.scope = .perAccount →
        ∀ device, v.device = some device → ∀ log, r.accountLog device s.account = .ok log →
        CapState.compute s.cap log v.now = .below) := by
  rw [capFinding_passes_iff]
  constructor
  · intro hpass
    refine ⟨fun hi he hscope device hd h hh => ?_, fun hi he hscope device hd log hlog => ?_⟩
    · exact hpass hi he device hd _ ((capLog_of_perSurvey r s hscope device _).2 ⟨h, hh, rfl⟩)
    · exact hpass hi he device hd log (by rwa [capLog_of_perAccount r s hscope])
  · rintro ⟨hsurvey, haccount⟩ hi he device hd log hlog
    cases hscope : s.cap.scope with
    | perSurvey =>
      obtain ⟨h, hh, rfl⟩ := (capLog_of_perSurvey r s hscope device log).1 hlog
      exact hsurvey hi he hscope device hd h hh
    | perAccount =>
      rw [capLog_of_perAccount r s hscope] at hlog
      exact haccount hi he hscope device hd log hlog

/-- A survey that allows its visitor has not reached the cap over the log of its scope. -/
theorem Survey.Allows.belowCap {r : Reads} {s : Survey} {v : Visitor} (h : s.Allows r v)
    (hignores : s.ignoresCap = false) (henabled : s.cap.enabled = true) {device : DeviceId}
    (hdevice : v.device = some device) {log : ImpressionLog}
    (hlog : capLog r s device = .ok log) : CapState.compute s.cap log v.now = .below := by
  have hpass := (capFinding_passes_iff_scope r s v).2 ⟨h.belowSurveyCap, h.belowAccountCap⟩
  exact (capFinding_passes_iff r s v).1 hpass hignores henabled device hdevice log hlog

/-- A device passes that never completed the survey or may see it again. -/
theorem refireStateFinding_passes_iff (state : RefireState) :
    (refireStateFinding state).passes = true ↔ state = .neverCompleted ∨ state = .eligible := by
  cases state <;> simp [refireStateFinding]

/-- Where the history can be read, it must not keep the survey from the device. -/
theorem refireFinding_passes_iff :
    (refireFinding r s v).passes = true ↔
      ∀ device, v.device = some device → ∀ h, r.history device s.id = .ok h →
        RefireState.compute s h v.now = .neverCompleted ∨
          RefireState.compute s h v.now = .eligible := by
  unfold refireFinding deviceRecord
  cases hdevice : v.device with
  | none => simp
  | some device =>
    cases hhistory : r.history device s.id with
    | error e => simp [hhistory]
    | ok h => simp [hhistory, refireStateFinding_passes_iff]

/-- A survey that stops when it is dismissed must not have been. -/
theorem dismissalFinding?_passes_iff :
    (∀ f ∈ dismissalFinding? r s v, f.passes = true) ↔
      (s.stopsWhenDismissed = true →
        ∀ device, v.device = some device → ∀ h, r.history device s.id = .ok (some h) →
        h.dismissedWithoutAnswer = false) := by
  unfold dismissalFinding? deviceRecord
  cases hstops : s.stopsWhenDismissed with
  | false => simp
  | true =>
    cases hdevice : v.device with
    | none => simp
    | some device =>
      cases hhistory : r.history device s.id with
      | error e => simp [hhistory]
      | ok h =>
        cases h with
        | none => simp [hhistory]
        | some h => cases hdismissed : h.dismissedWithoutAnswer <;> simp [hhistory, hdismissed]

/-- The findings of the checks pass together when each check passes that the survey sets. -/
theorem checkFindings_all_passes_iff_forall :
    (checkFindings r s v).all Finding.passes = true ↔
      ∀ c : Check, ∀ f ∈ c.finding? r s v, f.passes = true := by
  rw [List.all_eq_true]
  constructor
  · intro h c f hf
    have hc : c ∈ Check.all := by cases c <;> decide
    exact h f (List.mem_filterMap.2 ⟨c, hc, hf⟩)
  · intro h f hf
    obtain ⟨c, -, hc⟩ := List.mem_filterMap.1 hf
    exact h c f hc

/-- The findings of the checks pass together exactly when the survey allows the visitor. -/
theorem checkFindings_all_passes_iff :
    (checkFindings r s v).all Finding.passes = true ↔ s.Allows r v := by
  rw [checkFindings_all_passes_iff_forall]
  constructor
  · intro h
    have hschedule := (scheduleFinding_passes_iff s v.now).1 (h .schedule _ rfl)
    have hcap := (capFinding_passes_iff_scope r s v).1 (h .cap _ rfl)
    exact {
      live := (liveFinding_passes_iff s).1 (h .live _ rfl)
      started := hschedule.1
      notEnded := hschedule.2
      belowGoal := (goalFinding_passes_iff r s).1 (h .goal _ rfl)
      enabledFor := (deviceTypeFinding?_passes_iff s v).1 (h .deviceType)
      belowSurveyCap := hcap.1
      belowAccountCap := hcap.2
      mayRefire := (refireFinding_passes_iff r s v).1 (h .refire _ rfl)
      notDismissed := (dismissalFinding?_passes_iff r s v).1 (h .dismissal) }
  · intro h c f hf
    -- Two checks may set no condition; the others have just one finding.
    cases c with
    | live =>
      obtain rfl := Option.some.inj hf
      exact (liveFinding_passes_iff s).2 h.live
    | schedule =>
      obtain rfl := Option.some.inj hf
      exact (scheduleFinding_passes_iff s v.now).2 ⟨h.started, h.notEnded⟩
    | goal =>
      obtain rfl := Option.some.inj hf
      exact (goalFinding_passes_iff r s).2 h.belowGoal
    | deviceType => exact (deviceTypeFinding?_passes_iff s v).2 h.enabledFor f hf
    | cap =>
      obtain rfl := Option.some.inj hf
      exact (capFinding_passes_iff_scope r s v).2 ⟨h.belowSurveyCap, h.belowAccountCap⟩
    | refire =>
      obtain rfl := Option.some.inj hf
      exact (refireFinding_passes_iff r s v).2 h.mayRefire
    | dismissal => exact (dismissalFinding?_passes_iff r s v).2 h.notDismissed f hf

end

end SurveyGate
