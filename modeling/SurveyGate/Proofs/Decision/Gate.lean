import SurveyGate.Proofs.Decision.Asking
import SurveyGate.Proofs.Evaluation.Signals

/-!
# `SurveyGate.Proofs.Decision.Gate`: decisions compared

A survey that does not allow its visitor is not shown and the page is not asked; one that does
leaves the decision to its triggers (`decide_of_allows`, `decide_of_not_allows`). So two decisions
on the same survey and triggers can only differ in whether the survey allows the visitor, as long as
the two visitors bring the same signals to the triggers (`Visitor.SameSignals`). The device of a
visitor and the instant of the request are no such signals.

`decide_mono` and `decide_congr` compare two decisions that begin with the same calls to the page.
Where the answers of the page do not change, these calls do not matter either (`decide_calls`).
-/

set_option autoImplicit false

namespace SurveyGate

/-- Every criterion comes out the same way for two visitors. -/
def Visitor.SameSignals (v w : Visitor) : Prop :=
  ∀ c : Criterion, c.evaluate v = c.evaluate w

/-- Criteria look at signals and at nothing else. -/
theorem Visitor.sameSignals_of_signals {v w : Visitor} (h : ∀ s, v.signal? s = w.signal? s) :
    v.SameSignals w := fun _ =>
  Criterion.evaluate_congr (Criterion.seesSame_of_signals fun s _ => h s)

/-- No trigger looks at the clock. -/
theorem Visitor.sameSignals_now (v : Visitor) (t u : Instant) :
    (v.edit (.now t)).SameSignals (v.edit (.now u)) :=
  sameSignals_of_signals fun s => by cases s <;> rfl

/-- No trigger looks at the device. -/
theorem Visitor.sameSignals_device (v : Visitor) (device : Option DeviceId) :
    v.SameSignals { v with device } :=
  sameSignals_of_signals fun s => by cases s <;> rfl

section
variable {r r' : Reads} {id : SurveyId} {s : Survey} {ts : List Trigger} {v w : Visitor}

/-- A survey that allows its visitor leaves the decision to its triggers. -/
theorem decide_of_allows (hload : load r id = .ok (s, ts)) (h : s.Allows r v)
    (calls : List PageCall) :
    decide r id v calls = allPass (·.evaluate v) (plan ts) calls := by
  have hchecks := (checkFindings_all_passes_iff r s v).2 h
  simp only [decide, hload, hchecks, if_true]

/-- A survey that does not allow its visitor is not shown, and the page is not asked. -/
theorem decide_of_not_allows (hload : load r id = .ok (s, ts)) (h : ¬ s.Allows r v)
    (calls : List PageCall) :
    decide r id v calls = (false, calls) := by
  have hchecks := mt (checkFindings_all_passes_iff r s v).1 h
  simp only [decide, hload, hchecks, Bool.false_eq_true, if_false]
  rfl

/-- The same terms come out the same way for visitors with the same signals. -/
theorem allPass_sameSignals (h : v.SameSignals w) (terms : List Term) (calls : List PageCall) :
    allPass (·.evaluate v) terms calls = allPass (·.evaluate w) terms calls := by
  have hsame : (fun c : Criterion => c.evaluate v) = fun c => c.evaluate w := funext h
  rw [hsame]

/-- A survey that is shown to one visitor is shown to another, after the same calls to the page, if
it allows the other one as well and the two bring the same signals to its triggers. -/
theorem decide_mono (hload : load r id = load r' id) (hsignals : v.SameSignals w)
    (hallows : ∀ s, r.survey id = .ok s → s.Allows r v → s.Allows r' w) {calls : List PageCall}
    (h : (decide r id v calls).1 = true) : decide r' id w calls = decide r id v calls := by
  cases hr : load r id with
  | error e =>
    rw [decide_of_load_error hr] at h
    cases h
  | ok loaded =>
    obtain ⟨s, ts⟩ := loaded
    have hs := (load_eq_ok_iff.1 hr).1
    by_cases hv : s.Allows r v
    · rw [decide_of_allows hr hv, decide_of_allows (hload ▸ hr) (hallows s hs hv),
        allPass_sameSignals hsignals]
    · rw [decide_of_not_allows hr hv] at h
      cases h

/-- Two decisions on the same survey and triggers are the same if the survey allows both visitors or
neither, and the two bring the same signals to the triggers. -/
theorem decide_congr (hload : load r id = load r' id) (hsignals : v.SameSignals w)
    (hallows : ∀ s, r.survey id = .ok s → (s.Allows r v ↔ s.Allows r' w)) :
    decide r id v = decide r' id w := by
  funext calls
  cases hr : load r id with
  | error e => rw [decide_of_load_error hr, decide_of_load_error (hload ▸ hr)]
  | ok loaded =>
    obtain ⟨s, ts⟩ := loaded
    have hsame := hallows s (load_eq_ok_iff.1 hr).1
    by_cases hv : s.Allows r v
    · rw [decide_of_allows hr hv, decide_of_allows (hload ▸ hr) (hsame.1 hv),
        allPass_sameSignals hsignals]
    · rw [decide_of_not_allows hr hv, decide_of_not_allows (hload ▸ hr) (mt hsame.2 hv)]

/-- With a fixed page a decision does not depend on what was asked before. -/
theorem decide_calls (hpage : v.PageIsFixed) (calls calls' : List PageCall) :
    (decide r id v calls).1 = (decide r id v calls').1 := by
  cases hload : load r id with
  | error e => rw [decide_of_load_error hload, decide_of_load_error hload]
  | ok loaded => rw [decide_eq_and hload hpage, decide_eq_and hload hpage]

end

/-- A visitor of whom nothing but a device is known. -/
def tabVisitor (now : Instant) : Visitor := { Visitor.unknown now with device := some ⟨"tab"⟩ }

/-- A visitor without a page has no page that could change. -/
theorem tabVisitor_pageIsFixed (now : Instant) : (tabVisitor now).PageIsFixed := by rintro _ ⟨⟩

end SurveyGate
