import SurveyGate.Proofs.Store.Waiting
import SurveyGate.Proofs.Survey.Validated

/-!
# `SurveyGate.Proofs.Survey.Reopening`: waits that end

A device that reached a cap waits for its window, one that completed a survey for the refire
interval. Either wait ends at a sum of an instant and a span, and the clock may not reach so far.
For a validated survey no span is longer than `Interval.maxSeconds`. So an instant that lies at least
this long before the end of the clock (`Instant.IsEarly`) has all its sums on the clock
(`Instant.IsEarly.exists_after`), and once this long has passed (`Instant.IsLongBefore`) no window
holds the instant any more and every interval since it is over.

`validated_reopens` states what this comes to: a cap with a window always tells when it opens again,
refire waits for the sum itself and not for the end of the clock, and no check stands against a
device that was left alone for the longest span.
-/

set_option autoImplicit false

namespace SurveyGate

/-! ### The longest span on the clock -/

namespace Instant

/-- Outside leap seconds, and at least the longest span before the end of the clock. -/
structure IsEarly (t : Instant) : Prop where
  notLeap : t.isLeap = false
  room : t.nanos + Interval.maxSeconds * nanosPerSecond ≤ latest.nanos

/-- At least the longest span before another instant. -/
def IsLongBefore (t u : Instant) : Prop :=
  t.nanos + Interval.maxSeconds * nanosPerSecond ≤ u.nanos

section
variable {t u : Instant} {seconds : Nat}

/-- No span is longer than the longest one, in nanoseconds either. -/
theorem span_le (h : seconds ≤ Interval.maxSeconds) :
    (0 : Int) ≤ seconds * nanosPerSecond ∧
      (seconds * nanosPerSecond : Int) ≤ Interval.maxSeconds * nanosPerSecond := by
  have hnanos : seconds * nanosPerSecond ≤ Interval.maxSeconds * nanosPerSecond :=
    Nat.mul_le_mul_right _ h
  omega

/-- The clock reaches the end of every span that begins early. -/
theorem IsEarly.exists_after (h : t.IsEarly) (hspan : seconds ≤ Interval.maxSeconds) :
    ∃ u, t.after seconds = some u ∧ u.isLeap = false ∧
      u.nanos = t.nanos + seconds * nanosPerSecond := by
  cases hafter : t.after seconds with
  | some u => exact ⟨u, rfl, nanos_of_after h.notLeap hafter⟩
  | none =>
    -- The sum would lie outside the clock, where an early instant leaves room for it.
    have hout := shiftNanos_eq_none h.notLeap hafter
    have hroom := h.room
    have hstart := minNanos_le_nanos t
    have hend : latest.nanos = maxNanos := rfl
    obtain ⟨hpos, hle⟩ := span_le hspan
    omega

/-- A span that begins long before an instant has ended by then. -/
theorem IsEarly.exists_after_le (h : t.IsEarly) (hlong : t.IsLongBefore u) (hu : u.isLeap = false)
    (hspan : seconds ≤ Interval.maxSeconds) : ∃ due, t.after seconds = some due ∧ due ≤ u := by
  obtain ⟨due, hdue, hleap, hnanos⟩ := h.exists_after hspan
  obtain ⟨-, hle⟩ := span_le hspan
  have hpassed : t.nanos + Interval.maxSeconds * nanosPerSecond ≤ u.nanos := hlong
  exact ⟨due, hdue, (le_iff_nanos_le hleap hu).2 (by omega)⟩

end

end Instant

/-! ### Caps -/

namespace CapState

section
variable {cap : FrequencyCap} {log : ImpressionLog} {now : Instant} {reopens : Option Instant}

/-- A cap with a window opens again at the end of a window that begins with an impression. -/
theorem exists_of_windowed {limit window : Nat} {instants : List Instant} (hlimit : 0 < limit)
    (h : windowed limit window now instants = .reached reopens) :
    ∃ t ∈ instants, reopens = t.after window := by
  unfold windowed at h
  dsimp only at h
  split at h
  · cases h
  · rename_i hmany
    -- At least `limit` impressions are counted, so the one in question is among them.
    have hplace : (inWindow window now instants).length - limit <
        (inWindow window now instants).length := by omega
    have hcounted : ∀ t ∈ inWindow window now instants, t ∈ instants := by
      intro t ht
      unfold inWindow at ht
      split at ht
      · exact List.mem_of_mem_drop ht
      · exact ht
    rw [List.getElem?_eq_getElem hplace, Option.bind_some] at h
    exact ⟨_, hcounted _ (List.getElem_mem hplace), (reached.inj h).symm⟩

/-- A cap with a window that is reached tells when it opens again. -/
theorem exists_reopens (hwindow : cap.enabled = true → cap.window.isSome = true)
    (hrange : ∀ window, cap.window = some window → window.InRange)
    (hearly : ∀ t ∈ log.instants, t.IsEarly) (h : compute cap log now = .reached reopens) :
    ∃ opening, reopens = some opening := by
  unfold compute at h
  split at h
  · cases h
  · rename_i hon
    simp only [Bool.or_eq_true, Bool.not_eq_true', beq_iff_eq, not_or, Bool.not_eq_false] at hon
    obtain ⟨henabled, hlimit⟩ := hon
    obtain ⟨window, hsome⟩ := Option.isSome_iff_exists.1 (hwindow henabled)
    rw [hsome] at h
    have hpos : 0 < cap.limit.toNat := Nat.pos_of_ne_zero fun hzero =>
      hlimit (UInt32.toNat_inj.1 hzero)
    obtain ⟨t, ht, rfl⟩ := exists_of_windowed hpos h
    obtain ⟨opening, hopening, -⟩ :=
      (hearly t ht).exists_after (hrange window hsome).le_maxSeconds
    exact ⟨opening, hopening⟩

/-- No cap with a window is reached long after the last impression. -/
theorem compute_below_of_longBefore (hwindow : cap.enabled = true → cap.window.isSome = true)
    (hrange : ∀ window, cap.window = some window → window.InRange)
    (hasc : Ascending log.instants) (hearly : ∀ t ∈ log.instants, t.IsEarly)
    (hnow : now.isLeap = false) (hlong : ∀ t ∈ log.instants, t.IsLongBefore now) :
    compute cap log now = .below := by
  rw [compute_eq_below_iff]
  intro henabled hlimit
  refine ⟨fun window hsome => ?_, fun hnone => ?_⟩
  · -- Every impression is older than the window is long.
    have hempty : (inWindow window.seconds now log.instants).length = 0 := by
      rw [length_inWindow hasc (fun t ht => (hearly t ht).notLeap) hnow, younger,
        List.countP_eq_zero]
      intro t ht
      have hpassed : t.nanos + Interval.maxSeconds * nanosPerSecond ≤ now.nanos := hlong t ht
      obtain ⟨-, hle⟩ := Instant.span_le (hrange window hsome).le_maxSeconds
      rw [decide_eq_true_eq]
      omega
    rw [hempty]
    exact Nat.pos_of_ne_zero fun hzero => hlimit (UInt32.toNat_inj.1 hzero)
  · have hsome := hwindow henabled
    rw [hnone] at hsome
    cases hsome

end

end CapState

/-! ### Refire -/

namespace RefireState

section
variable {s : Survey} {h : Option History} {now due : Instant}

/-- Whoever waits for refire waits for the end of the interval since the latest completion, or for
the end of the clock if that comes first. -/
theorem compute_eq_awaiting (hwaits : compute s h now = .awaiting due) :
    ∃ completed interval, h.bind History.lastCompleted = some completed ∧
      s.refireInterval = some interval ∧ afterCompletion interval completed now = .awaiting due := by
  unfold compute at hwaits
  cases hcompleted : h.bind History.lastCompleted with
  | none =>
    rw [hcompleted] at hwaits
    cases hwaits
  | some completed =>
    rw [hcompleted] at hwaits
    dsimp only at hwaits
    split at hwaits
    · cases hinterval : s.refireInterval with
      | none =>
        rw [hinterval] at hwaits
        cases hwaits
      | some interval =>
        rw [hinterval] at hwaits
        exact ⟨completed, interval, rfl, rfl, hwaits⟩
    · cases hwaits

/-- An interval that ends on the clock is waited for to its end. -/
theorem due_of_awaiting {interval : Interval} {completed u : Instant}
    (hafter : completed.after interval.seconds = some u)
    (hwaits : afterCompletion interval completed now = .awaiting due) : u = due := by
  unfold afterCompletion at hwaits
  rw [hafter] at hwaits
  dsimp only at hwaits
  split at hwaits
  · cases hwaits
  · exact awaiting.inj hwaits

/-- A survey with refire may be shown again long after it was completed. -/
theorem may_of_longBefore (hrefire : s.refireEnabled = true)
    (hrange : ∀ interval, s.refireInterval = some interval → interval.InRange)
    (hearly : ∀ t, h.bind History.lastCompleted = some t → t.IsEarly) (hnow : now.isLeap = false)
    (hlong : ∀ t, h.bind History.lastCompleted = some t → t.IsLongBefore now) :
    compute s h now = .neverCompleted ∨ compute s h now = .eligible := by
  rw [compute_may_iff]
  intro completed hcompleted
  exact ⟨hrefire, fun interval hinterval =>
    (hearly completed hcompleted).exists_after_le (hlong completed hcompleted) hnow
      (hrange interval hinterval).le_maxSeconds⟩

end

end RefireState

/-! ### The checks of a survey -/

section
variable {r : Reads} {s : Survey} {v : Visitor} {device : DeviceId} {log : ImpressionLog}
  {h : Option History}

/-- The check of the cap looks at one log. -/
theorem capFinding_passes_of_log (hdevice : v.device = some device)
    (hlog : capLog r s device = .ok log)
    (hbelow : s.ignoresCap = false → CapState.compute s.cap log v.now = .below) :
    (capFinding r s v).passes = true := by
  rw [capFinding_passes_iff]
  intro happlies _ device' hdevice' log' hlog'
  obtain rfl := Option.some.inj (hdevice.symm.trans hdevice')
  obtain rfl := Except.ok.inj (hlog.symm.trans hlog')
  exact hbelow happlies

/-- The check of refire looks at one history. -/
theorem refireFinding_passes_of_history (hdevice : v.device = some device)
    (hhistory : r.history device s.id = .ok h)
    (hmay : RefireState.compute s h v.now = .neverCompleted ∨
      RefireState.compute s h v.now = .eligible) : (refireFinding r s v).passes = true := by
  rw [refireFinding_passes_iff]
  intro device' hdevice' h' hhistory'
  obtain rfl := Option.some.inj (hdevice.symm.trans hdevice')
  obtain rfl := Except.ok.inj (hhistory.symm.trans hhistory')
  exact hmay

end

/-- Take a survey that was validated, has refire, and whose cap is off, ignored or has a window. Take
a log in order and a history whose instants all lie at least the longest span before the end of the
clock, leap seconds left out.

- Whenever the cap is reached by the log, it tells when it opens again; only a cap without a window
  that is ignored anyway need not.
- Whenever the history makes the device wait for refire, it waits for the sum of its latest
  completion and the interval.
- If log and history are those of the device of a visitor, the check of the cap fails only where the
  cap is reached and tells when it opens again; and neither this check nor that of refire fails any
  more from the longest span after the latest impression and completion on. -/
theorem validated_reopens {s : Survey} (hvalid : s.validate = .ok ())
    (hrefire : s.refireEnabled = true)
    (hcap : s.cap.enabled = false ∨ s.ignoresCap = true ∨ s.cap.window.isSome = true)
    {log : ImpressionLog} (hasc : Ascending log.instants) (hlog : ∀ t ∈ log.instants, t.IsEarly)
    {h : Option History} (hh : ∀ t, h.bind History.lastCompleted = some t → t.IsEarly) :
    (∀ now reopens, (s.ignoresCap = false ∨ s.cap.window.isSome = true) →
      CapState.compute s.cap log now = .reached reopens → ∃ opening, reopens = some opening) ∧
    (∀ now due, RefireState.compute s h now = .awaiting due →
      ∃ completed interval, h.bind History.lastCompleted = some completed ∧
        s.refireInterval = some interval ∧ completed.after interval.seconds = some due ∧
        due.nanos = completed.nanos + interval.seconds * nanosPerSecond) ∧
    (∀ (r : Reads) (v : Visitor) (device : DeviceId), v.device = some device →
      capLog r s device = .ok log → r.history device s.id = .ok h →
      ((capFinding r s v).passes = false →
        ∃ opening, CapState.compute s.cap log v.now = .reached (some opening)) ∧
      (v.now.isLeap = false → (∀ t ∈ log.instants, t.IsLongBefore v.now) →
        (∀ t, h.bind History.lastCompleted = some t → t.IsLongBefore v.now) →
        (capFinding r s v).passes = true ∧ (refireFinding r s v).passes = true)) := by
  have hsound := Survey.validate_eq_ok_iff.1 hvalid
  -- A cap without a window is off or ignored, so it does not matter where the cap applies.
  have hwindow (happlies : s.ignoresCap = false ∨ s.cap.window.isSome = true)
      (henabled : s.cap.enabled = true) : s.cap.window.isSome = true := by
    rcases hcap with hoff | hignored | hwindow
    · rw [henabled] at hoff
      cases hoff
    · exact happlies.resolve_left (by simp [hignored])
    · exact hwindow
  refine ⟨fun now reopens happlies hreached => ?_, fun now due hwaits => ?_,
    fun r v device hdevice hread hhistory => ⟨fun hfails => ?_, fun hnow hshown hcompleted => ?_⟩⟩
  · exact CapState.exists_reopens (hwindow happlies) hsound.window hlog hreached
  · obtain ⟨completed, interval, hlast, hinterval, hafter⟩ :=
      RefireState.compute_eq_awaiting hwaits
    obtain ⟨u, hu, -, hnanos⟩ :=
      (hh completed hlast).exists_after (hsound.interval interval hinterval).le_maxSeconds
    obtain rfl := RefireState.due_of_awaiting hu hafter
    exact ⟨completed, interval, hlast, hinterval, hu, hnanos⟩
  · -- An ignored cap and one that is not reached both pass.
    cases hstate : CapState.compute s.cap log v.now with
    | below =>
      rw [capFinding_passes_of_log hdevice hread fun _ => hstate] at hfails
      cases hfails
    | reached reopens =>
      cases hignores : s.ignoresCap with
      | true =>
        have hpasses := capFinding_passes_of_log hdevice hread fun happlies =>
          absurd (hignores.symm.trans happlies) Bool.noConfusion
        rw [hpasses] at hfails
        cases hfails
      | false =>
        obtain ⟨opening, rfl⟩ :=
          CapState.exists_reopens (hwindow (.inl hignores)) hsound.window hlog hstate
        exact ⟨opening, rfl⟩
  · refine ⟨capFinding_passes_of_log hdevice hread fun happlies => ?_,
      refireFinding_passes_of_history hdevice hhistory ?_⟩
    · exact CapState.compute_below_of_longBefore (hwindow (.inl happlies)) hsound.window hasc hlog
        hnow hshown
    · exact RefireState.may_of_longBefore hrefire hsound.interval hh hnow hcompleted

/-! ### A cap that is ignored -/

/-- A survey with a cap for good that it ignores, with refire. -/
def lifetimeSurvey : Survey :=
  (((Survey.draft ⟨1⟩ ⟨7⟩ "NPS").edit (.cap ⟨true, 1, none, .perAccount⟩)).edit .ignoreCap).edit
    (.refire ⟨1, .days⟩)

/-- Where a cap is ignored the survey may be validated although its cap has no window, and once it is
reached such a cap does not tell when it opens again. No check asks it. -/
theorem ignored_cap_reached_for_good :
    let s := lifetimeSurvey
    let log : ImpressionLog := ⟨[.atHour 0], 1⟩
    s.validate = .ok () ∧ s.refireEnabled = true ∧ s.ignoresCap = true ∧
      Ascending log.instants ∧ (∀ t ∈ log.instants, t.IsEarly) ∧
      CapState.compute s.cap log (.atHour 1) = .reached none := by
  intro s log
  have hearly : ∀ t ∈ log.instants, t.IsEarly := by
    intro t ht
    rw [List.mem_singleton.1 ht]
    exact ⟨by decide, by decide⟩
  exact ⟨by decide, rfl, rfl, List.pairwise_singleton .., hearly, by decide⟩

/-! ### A device that is left alone for a hundred years -/

/-- A survey with the longest windows there are, shown and completed at the start of 1970. -/
def centurySurvey : Survey :=
  (((Survey.draft ⟨1⟩ ⟨7⟩ "NPS").edit (.status .live)).edit
    (.cap ⟨true, 1, some ⟨876000, .hours⟩, .perAccount⟩)).edit (.refire ⟨36500, .days⟩)

/-- What can be read behind one impression and one completion at the start of 1970. -/
def centuryReads : Reads :=
  ((Store.keeping none).written [.insertSurvey centurySurvey,
    .impression ⟨"tab"⟩ ⟨7⟩ ⟨1⟩ (.atHour 0), .completion ⟨"tab"⟩ ⟨1⟩ (.atHour 0)]).reads

/-- The start of 1970 is early. -/
theorem isEarly_atHour_zero : (Instant.atHour 0).IsEarly := ⟨by decide, by decide⟩

/-- An hour before the hundred years are over the check of the cap fails and tells when the cap opens
again, and refire waits for just the hundred years; then both checks pass. -/
theorem validated_reopens_century :
    let last := Instant.atHour 875999
    let due := Instant.atHour 876000
    let log : ImpressionLog := ⟨[.atHour 0], 1⟩
    let h : Option History :=
      some (History.run [.impression (.atHour 0), .completion (.atHour 0)])
    (centurySurvey.validate = .ok () ∧ capLog centuryReads centurySurvey ⟨"tab"⟩ = .ok log ∧
      centuryReads.history ⟨"tab"⟩ ⟨1⟩ = .ok h) ∧
    ((capFinding centuryReads centurySurvey (tabVisitor last)).passes = false ∧
      ∃ opening, CapState.compute centurySurvey.cap log last = .reached (some opening)) ∧
    (RefireState.compute centurySurvey h last = .awaiting due ∧
      ∃ completed interval, h.bind History.lastCompleted = some completed ∧
        centurySurvey.refireInterval = some interval ∧
        completed.after interval.seconds = some due ∧
        due.nanos = completed.nanos + interval.seconds * nanosPerSecond) ∧
    (capFinding centuryReads centurySurvey (tabVisitor due)).passes = true ∧
    (refireFinding centuryReads centurySurvey (tabVisitor due)).passes = true := by
  intro last due log h
  have hvalid : centurySurvey.validate = .ok () := by decide
  have hread : capLog centuryReads centurySurvey ⟨"tab"⟩ = .ok log := by decide +kernel
  have hhistory : centuryReads.history ⟨"tab"⟩ ⟨1⟩ = .ok h := by decide +kernel
  have hlog : ∀ t ∈ log.instants, t.IsEarly := by
    intro t ht
    rw [List.mem_singleton.1 ht]
    exact isEarly_atHour_zero
  have hasc : Ascending log.instants := List.pairwise_singleton ..
  have hlast : ∀ t, h.bind History.lastCompleted = some t → t = .atHour 0 := by
    intro t ht
    exact (Option.some.inj ht).symm
  have hcompleted : ∀ t, h.bind History.lastCompleted = some t → t.IsEarly := by
    intro t ht
    rw [hlast t ht]
    exact isEarly_atHour_zero
  obtain ⟨-, hwaits, hchecks⟩ :=
    validated_reopens hvalid rfl (.inr (.inr rfl)) hasc hlog hcompleted
  obtain ⟨hopens, -⟩ := hchecks centuryReads (tabVisitor last) ⟨"tab"⟩ rfl hread hhistory
  obtain ⟨-, hpass⟩ := hchecks centuryReads (tabVisitor due) ⟨"tab"⟩ rfl hread hhistory
  have hfails : (capFinding centuryReads centurySurvey (tabVisitor last)).passes = false := by
    decide +kernel
  have hawaiting : RefireState.compute centurySurvey h last = .awaiting due := by decide +kernel
  have hlong : (Instant.atHour 0).IsLongBefore due := by
    show (Instant.atHour 0).nanos + _ ≤ due.nanos
    decide +kernel
  refine ⟨⟨hvalid, hread, hhistory⟩, ⟨hfails, hopens hfails⟩, ⟨hawaiting, hwaits _ _ hawaiting⟩,
    hpass (by decide +kernel) (fun t ht => ?_) fun t ht => ?_⟩
  · rw [List.mem_singleton.1 ht]
    exact hlong
  · rw [hlast t ht]
    exact hlong

end SurveyGate
