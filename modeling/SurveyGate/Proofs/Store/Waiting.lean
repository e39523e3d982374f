import SurveyGate.Proofs.Decision.Gate
import SurveyGate.Proofs.History.Recording
import SurveyGate.Proofs.Store.Writes

/-!
# `SurveyGate.Proofs.Store.Waiting`: decisions as time passes

Nothing is recorded and time passes. A survey that is shown stays shown until its schedule ends:
impressions only leave the window of a cap, and a refire interval only runs out. `decide_later`
states this for every store that writes lead to, and that a survey shown at two instants is shown at
all instants between them, so the instants at which it is shown make up an interval.

Each of the conditions that look at the clock is followed on its own
(`CapState.compute_below_later`, `RefireState.compute_later`); `Survey.Allows.later` puts them
together. Leap seconds are left out, since a window that ends in one may begin later than a window
that ends after it.
-/

set_option autoImplicit false

namespace SurveyGate

/-- A cap that is not reached stays so while nothing is recorded. -/
theorem CapState.compute_below_later {cap : FrequencyCap} {log : ImpressionLog} {t u : Instant}
    (hasc : Ascending log.instants) (ht : t.isLeap = false) (hu : u.isLeap = false) (htu : t ≤ u)
    (h : compute cap log t = .below) : compute cap log u = .below := by
  rw [compute_eq_below_iff] at h ⊢
  intro henabled hlimit
  obtain ⟨hwindowed, hlifelong⟩ := h henabled hlimit
  refine ⟨fun window hwindow => ?_, hlifelong⟩
  have hfewer := length_inWindow_le hasc ht hu htu window.seconds
  have hroom := hwindowed window hwindow
  omega

/-- A completed survey may be shown again once its interval is over, if it has one. -/
theorem RefireState.compute_may_iff {s : Survey} {h : Option History} {now : Instant} :
    (compute s h now = .neverCompleted ∨ compute s h now = .eligible) ↔
      ∀ completed, h.bind History.lastCompleted = some completed → s.refireEnabled = true ∧
        ∀ interval, s.refireInterval = some interval →
          ∃ due, completed.after interval.seconds = some due ∧ due ≤ now := by
  unfold compute
  cases h.bind History.lastCompleted with
  | none => simp
  | some completed =>
    cases s.refireEnabled with
    | false => simp
    | true =>
      cases s.refireInterval with
      | none => simp
      | some interval =>
        cases hdue : completed.after interval.seconds with
        | none => simp [afterCompletion, hdue]
        | some due => by_cases hpast : due ≤ now <;> simp [afterCompletion, hdue, hpast]

/-- A device that may see a survey again still may later. -/
theorem RefireState.compute_later {s : Survey} {h : Option History} {t u : Instant} (htu : t ≤ u)
    (hmay : compute s h t = .neverCompleted ∨ compute s h t = .eligible) :
    compute s h u = .neverCompleted ∨ compute s h u = .eligible := by
  rw [compute_may_iff] at hmay ⊢
  intro completed hcompleted
  obtain ⟨hrefire, hinterval⟩ := hmay completed hcompleted
  refine ⟨hrefire, fun interval hsome => ?_⟩
  obtain ⟨due, hdue, hpast⟩ := hinterval interval hsome
  exact ⟨due, hdue, Instant.le_trans hpast htu⟩

/-- What is read of impressions is in order. -/
structure Reads.Ordered (r : Reads) : Prop where
  history : ∀ device id h, r.history device id = .ok (some h) → Ascending h.impressions
  accountLog : ∀ device account log, r.accountLog device account = .ok log →
    Ascending log.instants

/-- Whatever is written to a store that was empty, what is read of it is in order. -/
theorem Store.reads_ordered (retention : Option Int) (ws : List Write) :
    ((keeping retention).written ws).reads.Ordered where
  history _ _ _ hread := (recorded_written retention ws).ascending (Except.ok.inj hread)
  accountLog _ _ _ hread := by
    obtain rfl := Except.ok.inj hread
    exact ImpressionLog.ofHistories_ascending _

section
variable {r : Reads} {id : SurveyId} {s : Survey} {v : Visitor} {t u : Instant}

/-- The log of a survey is in order, also where there is no history. -/
theorem Reads.Ordered.surveyLog (hr : r.Ordered) {device : DeviceId} {h : Option History}
    (hread : r.history device id = .ok h) :
    Ascending ((h.map ImpressionLog.ofHistory).getD .empty).instants := by
  cases h with
  | none => exact List.Pairwise.nil
  | some h => exact hr.history device id h hread

/-- A survey that allows a visitor does so later, as long as its schedule has not ended. -/
theorem Survey.Allows.later (hr : r.Ordered) (ht : t.isLeap = false) (hu : u.isLeap = false)
    (htu : t ≤ u) (hstop : ∀ stop, s.schedule.endsAt = some stop → u ≤ stop)
    (h : s.Allows r (v.edit (.now t))) : s.Allows r (v.edit (.now u)) where
  live := h.live
  started start hstart := Instant.le_trans (h.started start hstart) htu
  notEnded := hstop
  belowGoal := h.belowGoal
  enabledFor := h.enabledFor
  belowSurveyCap hi he hscope device hd history hh :=
    CapState.compute_below_later (hr.surveyLog hh) ht hu htu
      (h.belowSurveyCap hi he hscope device hd history hh)
  belowAccountCap hi he hscope device hd log hlog :=
    CapState.compute_below_later (hr.accountLog device _ log hlog) ht hu htu
      (h.belowAccountCap hi he hscope device hd log hlog)
  mayRefire device hd history hh :=
    RefireState.compute_later htu (h.mayRefire device hd history hh)
  notDismissed := h.notDismissed

/-- With a fixed page a survey that is shown is shown later, as long as its schedule has not
ended. -/
theorem decide_now_later (hr : r.Ordered) (hpage : v.PageIsFixed) (ht : t.isLeap = false)
    (hu : u.isLeap = false) (htu : t ≤ u)
    (hstop : ∀ s stop, r.survey id = .ok s → s.schedule.endsAt = some stop → u ≤ stop)
    {calls : List PageCall} (h : (decide r id (v.edit (.now t)) calls).1 = true)
    (calls' : List PageCall) : (decide r id (v.edit (.now u)) calls').1 = true := by
  have hlater : decide r id (v.edit (.now u)) calls = decide r id (v.edit (.now t)) calls :=
    decide_mono rfl (v.sameSignals_now t u)
      (fun s hs hallows => hallows.later hr ht hu htu fun stop => hstop s stop hs) h
  rw [decide_calls (v := v.edit (.now u)) hpage calls' calls, hlater, h]

/-- A survey that is shown lets every instant up to the end of its schedule pass. -/
theorem le_endsAt_of_decide {calls : List PageCall}
    (h : (decide r id (v.edit (.now t)) calls).1 = true) {stop : Instant}
    (hs : r.survey id = .ok s) (hstop : s.schedule.endsAt = some stop) : t ≤ stop := by
  obtain ⟨s', hs', hallows⟩ := allows_of_decide h
  obtain rfl := Except.ok.inj (hs'.symm.trans hs)
  exact hallows.notEnded stop hstop

end

/-- Whatever was written to a store before, as time passes and nothing more is written:

- a survey that is shown to a visitor at an instant is shown to the same visitor at every later
  instant that is not after the end of its schedule;
- a survey that is shown at two instants is shown at every instant between them. -/
theorem decide_later (retention : Option Int) (ws : List Write) (id : SurveyId) {v : Visitor}
    (hpage : v.PageIsFixed) :
    let r := ((Store.keeping retention).written ws).reads
    (∀ t u calls calls', t.isLeap = false → u.isLeap = false → t ≤ u →
      (∀ s stop, r.survey id = .ok s → s.schedule.endsAt = some stop → u ≤ stop) →
      (decide r id (v.edit (.now t)) calls).1 = true →
      (decide r id (v.edit (.now u)) calls').1 = true) ∧
    (∀ t u w calls calls' calls'', t.isLeap = false → u.isLeap = false → t ≤ u → u ≤ w →
      (decide r id (v.edit (.now t)) calls).1 = true →
      (decide r id (v.edit (.now w)) calls').1 = true →
      (decide r id (v.edit (.now u)) calls'').1 = true) := by
  intro r
  have hr : r.Ordered := Store.reads_ordered retention ws
  refine ⟨fun t u calls calls' ht hu htu hstop h => ?_,
    fun t u w calls calls' calls'' ht hu htu huw hfirst hlast => ?_⟩
  · exact decide_now_later hr hpage ht hu htu hstop h calls'
  · -- The schedule has not ended at the last instant, so not before it either.
    refine decide_now_later hr hpage ht hu htu (fun s stop hs hstop => ?_) hfirst calls''
    exact Instant.le_trans huw (le_endsAt_of_decide hlast hs hstop)

/-! ### A survey that is shown again -/

/-- A live survey that is shown at most once an hour, a day after it was completed, for two days. -/
def dailySurvey : Survey :=
  ((((Survey.draft ⟨1⟩ ⟨7⟩ "NPS").edit (.status .live)).edit
    (.cap ⟨true, 1, some ⟨1, .hours⟩, .perAccount⟩)).edit (.refire ⟨1, .days⟩)).edit
    (.schedule (.endingAt (.atHour 48)))

/-- The survey was shown and completed. -/
def dailyWrites : List Write :=
  [.insertSurvey dailySurvey, .impression ⟨"tab"⟩ ⟨7⟩ ⟨1⟩ (.atHour 0),
    .completion ⟨"tab"⟩ ⟨1⟩ (.atHour 0)]

/-- What can be read behind these writes. -/
def dailyReads : Reads := ((Store.keeping none).written dailyWrites).reads

/-- A day later the device sees the survey again, so also at the very end of its schedule. -/
theorem decide_later_daily :
    let v := tabVisitor default
    (decide dailyReads ⟨1⟩ (v.edit (.now (.atHour 23))) []).1 = false ∧
      (decide dailyReads ⟨1⟩ (v.edit (.now (.atHour 24))) []).1 = true ∧
      v.PageIsFixed ∧ (Instant.atHour 24).isLeap = false ∧ (Instant.atHour 48).isLeap = false ∧
      Instant.atHour 24 ≤ .atHour 48 ∧ dailyReads.survey ⟨1⟩ = .ok dailySurvey ∧
      (decide dailyReads ⟨1⟩ (v.edit (.now (.atHour 48))) []).1 = true := by
  intro v
  have hshown : (decide dailyReads ⟨1⟩ (v.edit (.now (.atHour 24))) []).1 = true := by
    decide +kernel
  have hstop : ∀ s stop, dailyReads.survey ⟨1⟩ = .ok s → s.schedule.endsAt = some stop →
      Instant.atHour 48 ≤ stop := by
    intro s stop hs hstop
    obtain rfl := Except.ok.inj hs
    obtain rfl := Option.some.inj hstop
    decide
  have hpage : v.PageIsFixed := tabVisitor_pageIsFixed default
  obtain ⟨hlater, -⟩ := decide_later none dailyWrites ⟨1⟩ hpage
  exact ⟨by decide +kernel, hshown, hpage, by decide, by decide, by decide, rfl,
    hlater _ _ [] [] (by decide) (by decide) (by decide) hstop hshown⟩

end SurveyGate
