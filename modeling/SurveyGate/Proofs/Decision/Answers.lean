import Mathlib.Data.List.Basic
import SurveyGate.Decision.Report

/-!
# `SurveyGate.Proofs.Decision.Answers`: the answers that a decision reads

Of all that the stores could tell about devices, a decision and a diagnosis only read what they tell
about the device of the visitor. So two stores whose answers are the same but for other devices
(`Reads.AgreesFor`) lead to the same decisions and reports, and to the same calls to the page
(`Reads.AgreesFor.decide_eq`, `Reads.AgreesFor.diagnose_eq`).
-/

set_option autoImplicit false

namespace SurveyGate

/-- Two stores give the same answers, those about other devices than that of a visitor aside. -/
structure Reads.AgreesFor (r r' : Reads) (v : Visitor) : Prop where
  survey : ∀ id, r.survey id = r'.survey id
  triggers : ∀ id, r.triggers id = r'.triggers id
  submissions : ∀ id, r.submissions id = r'.submissions id
  history : ∀ device, v.device = some device → ∀ id, r.history device id = r'.history device id
  accountLog : ∀ device, v.device = some device →
    ∀ account, r.accountLog device account = r'.accountLog device account

namespace Reads.AgreesFor

variable {r r' : Reads} {v : Visitor}

/-- Stores that agree load the same survey and triggers. -/
theorem load_eq (h : r.AgreesFor r' v) (id : SurveyId) : load r id = load r' id := by
  unfold load
  rw [h.survey, h.triggers]

/-- Stores that agree know the same about a device. -/
theorem deviceRecord_eq (h : r.AgreesFor r' v) (s : Survey) :
    deviceRecord r s v = deviceRecord r' s v := by
  unfold deviceRecord
  cases hdevice : v.device with
  | none => rfl
  | some device => simp only [h.history device hdevice]

/-- The cap looks at the histories of the device on its own account or of the survey alone. -/
theorem capLog_eq (h : r.AgreesFor r' v) (s : Survey) {device : DeviceId}
    (hdevice : v.device = some device) : capLog r s device = capLog r' s device := by
  unfold capLog
  rw [h.history device hdevice, h.accountLog device hdevice]

/-- Stores that agree give the check of the cap the same entry. -/
theorem capFinding_eq (h : r.AgreesFor r' v) (s : Survey) :
    capFinding r s v = capFinding r' s v := by
  unfold capFinding
  cases hdevice : v.device with
  | none => rfl
  | some device => simp only [h.capLog_eq s hdevice]

/-- Each check comes out the same way. -/
theorem finding?_eq (h : r.AgreesFor r' v) (s : Survey) (c : Check) :
    c.finding? r s v = c.finding? r' s v := by
  cases c with
  | live => rfl
  | schedule => rfl
  | goal =>
    show some (goalFinding r s) = some (goalFinding r' s)
    rw [goalFinding, goalFinding, h.submissions]
  | deviceType => rfl
  | cap => exact congrArg some (h.capFinding_eq s)
  | refire =>
    show some (refireFinding r s v) = some (refireFinding r' s v)
    rw [refireFinding, refireFinding, h.deviceRecord_eq]
  | dismissal =>
    show dismissalFinding? r s v = dismissalFinding? r' s v
    rw [dismissalFinding?, dismissalFinding?, h.deviceRecord_eq]

/-- Stores that agree give all checks the same entries. -/
theorem checkFindings_eq (h : r.AgreesFor r' v) (s : Survey) :
    checkFindings r s v = checkFindings r' s v :=
  List.filterMap_congr fun c _ => h.finding?_eq s c

/-- The decision is the same, and so are the calls that it makes to the page. -/
theorem decide_eq (h : r.AgreesFor r' v) (id : SurveyId) : decide r id v = decide r' id v := by
  simp only [decide, h.load_eq, h.checkFindings_eq]

/-- The report is the same, and so is the run that it takes. -/
theorem diagnose_eq (h : r.AgreesFor r' v) (p : ProbePolicy) (id : SurveyId) :
    diagnose r p id v = diagnose r' p id v := by
  simp only [diagnose, h.load_eq, h.checkFindings_eq]

end Reads.AgreesFor

end SurveyGate
