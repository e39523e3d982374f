import SurveyGate.Proofs.Decision.Gate
import SurveyGate.Proofs.Decision.Report

/-!
# `SurveyGate.Proofs.Decision.Outage`: stores that do not answer

A decision asks the stores for the number of submissions, for the history of the device and for its
impressions on an account. `Reads.failing` are the answers of stores that give errors to some of
these questions. Where the gate was open it stays open (`Survey.Allows.failing`): each condition on
an answer is void when there is none. When nothing is known of devices at all, a visitor with a
device is treated like one without (`allows_iff_of_unreadable`).

A survey or triggers that cannot be read close the gate, and the diagnosis has a single entry, which
says so. `decide_diagnose_of_failing_reads` puts the three facts together.
-/

set_option autoImplicit false

namespace SurveyGate

/-- A question of a decision other than the one for the survey and its triggers. -/
inductive Question where
  | submissions (id : SurveyId)
  | history (device : DeviceId) (id : SurveyId)
  | accountLog (device : DeviceId) (account : AccountId)

/-- An answer, unless there is an error instead of it. -/
def answerUnless {α : Type} (fault : Option StorageError) (answer : Except StorageError α) :
    Except StorageError α :=
  match fault with
  | some e => .error e
  | none => answer

/-- The answers of stores that give the errors of `fault` to the questions for which it has one. -/
def Reads.failing (r : Reads) (fault : Question → Option StorageError) : Reads :=
  { r with
    submissions := fun id => answerUnless (fault (.submissions id)) (r.submissions id)
    history := fun device id => answerUnless (fault (.history device id)) (r.history device id)
    accountLog := fun device account =>
      answerUnless (fault (.accountLog device account)) (r.accountLog device account) }

/-- Nothing can be read about any device. -/
structure Reads.DevicesUnreadable (r : Reads) : Prop where
  history : ∀ device id, ∃ e, r.history device id = .error e
  accountLog : ∀ device account, ∃ e, r.accountLog device account = .error e

/-- What is answered in spite of errors was answered before. -/
theorem eq_ok_of_answerUnless {α : Type} {fault : Option StorageError}
    {answer : Except StorageError α} {a : α} (h : answerUnless fault answer = .ok a) :
    answer = .ok a := by
  cases fault with
  | none => exact h
  | some e => cases h

/-- What cannot be read is not read as anything. -/
theorem ne_ok_of_error {α : Type} {answer : Except StorageError α}
    (h : ∃ e, answer = .error e) (a : α) : answer ≠ .ok a := by
  obtain ⟨e, rfl⟩ := h
  intro hok
  cases hok

section
variable {r : Reads} {id : SurveyId} {s : Survey} {v : Visitor}

/-- A survey that allows its visitor does so when fewer questions are answered. -/
theorem Survey.Allows.failing (h : s.Allows r v) (fault : Question → Option StorageError) :
    s.Allows (r.failing fault) v where
  live := h.live
  started := h.started
  notEnded := h.notEnded
  belowGoal n hn := h.belowGoal n (eq_ok_of_answerUnless hn)
  enabledFor := h.enabledFor
  belowSurveyCap hi he hscope device hd history hh :=
    h.belowSurveyCap hi he hscope device hd history (eq_ok_of_answerUnless hh)
  belowAccountCap hi he hscope device hd log hlog :=
    h.belowAccountCap hi he hscope device hd log (eq_ok_of_answerUnless hlog)
  mayRefire device hd history hh := h.mayRefire device hd history (eq_ok_of_answerUnless hh)
  notDismissed hstops device hd history hh :=
    h.notDismissed hstops device hd history (eq_ok_of_answerUnless hh)

/-- When nothing can be read about devices, it makes no difference which one the visitor has. -/
theorem Survey.Allows.withDevice (hr : r.DevicesUnreadable) (h : s.Allows r v)
    (device : Option DeviceId) : s.Allows r { v with device } where
  live := h.live
  started := h.started
  notEnded := h.notEnded
  belowGoal := h.belowGoal
  enabledFor := h.enabledFor
  belowSurveyCap _ _ _ d _ _ hh := absurd hh (ne_ok_of_error (hr.history d s.id) _)
  belowAccountCap _ _ _ d _ _ hlog := absurd hlog (ne_ok_of_error (hr.accountLog d s.account) _)
  mayRefire d _ _ hh := absurd hh (ne_ok_of_error (hr.history d s.id) _)
  notDismissed _ d _ _ hh := absurd hh (ne_ok_of_error (hr.history d s.id) _)

/-- Where nothing of devices can be read, a survey allows what it allows without one. -/
theorem allows_iff_of_unreadable (hr : r.DevicesUnreadable) :
    s.Allows r v ↔ s.Allows r { v with device := none } :=
  ⟨fun h => h.withDevice hr none, fun h => h.withDevice hr v.device⟩

/-- A survey or triggers that cannot be read are not loaded. -/
theorem load_of_error
    (h : (∃ e, r.survey id = .error e) ∨ ∃ e, r.triggers id = .error e) :
    ∃ e, load r id = .error e := by
  cases hload : load r id with
  | error e => exact ⟨e, rfl⟩
  | ok loaded =>
    obtain ⟨s, ts⟩ := loaded
    obtain ⟨hs, hts⟩ := load_eq_ok_iff.1 hload
    rcases h with hsurvey | htriggers
    · exact absurd hs (ne_ok_of_error hsurvey s)
    · exact absurd hts (ne_ok_of_error htriggers ts)

end

/-- Errors of the stores only open the gate:

- a survey that is shown is still shown when any of the answers on submissions, histories and
  accounts are replaced by errors;
- when nothing can be read about devices, the decision, with all it asks of the page, is that for a
  visitor without a device;
- when the survey or its triggers cannot be read, it is not shown, and a diagnosis has just one
  entry, which is false and does not pass. -/
theorem decide_diagnose_of_failing_reads (r : Reads) (id : SurveyId) (v : Visitor) :
    (∀ fault calls, (decide r id v calls).1 = true →
      (decide (r.failing fault) id v calls).1 = true) ∧
    (r.DevicesUnreadable → decide r id v = decide r id { v with device := none }) ∧
    ((∃ e, r.survey id = .error e) ∨ (∃ e, r.triggers id = .error e) →
      ∀ calls p run, (decide r id v calls).1 = false ∧
        ∃ f, (diagnose r p id v run).1.findings = [f] ∧
          f.outcome.satisfied = .no ∧ f.passes = false) := by
  refine ⟨fun fault calls h => ?_, fun hr => ?_, fun herror calls p run => ?_⟩
  · -- The survey and its triggers are read as before.
    have hload : load r id = load (r.failing fault) id := rfl
    rw [decide_mono hload (fun _ => rfl) (fun _ _ hallows => hallows.failing fault) h, h]
  · exact decide_congr rfl (v.sameSignals_device none) fun _ _ => allows_iff_of_unreadable hr
  · obtain ⟨⟨label, e⟩, hload⟩ := load_of_error herror
    rw [decide_of_load_error hload, diagnose_of_load_error hload]
    exact ⟨rfl, unreadFinding label e, rfl, rfl, rfl⟩

/-! ### A device that has seen enough -/

/-- A live survey that a device sees once and not again after closing it. -/
def onceSurvey : Survey :=
  (((Survey.draft ⟨1⟩ ⟨7⟩ "NPS").edit (.status .live)).edit
    (.cap ⟨true, 1, none, .perAccount⟩)).edit .stopWhenDismissed

/-- The store in which a device has seen and closed the survey. -/
def closedStore : Store :=
  (((Store.empty none).insertSurvey onceSurvey).recordImpression ⟨"tab"⟩ ⟨7⟩ ⟨1⟩
    default).recordDismissal ⟨"tab"⟩ ⟨1⟩ default

/-- The error to every question about a device. -/
def deviceFault : Question → Option StorageError
  | .submissions _ => none
  | _ => some (.backend "no connection")

/-- Under this fault nothing of devices can be read. -/
theorem closedStore_devicesUnreadable :
    (closedStore.reads.failing deviceFault).DevicesUnreadable where
  history _ _ := ⟨_, rfl⟩
  accountLog _ _ := ⟨_, rfl⟩

/-- The device does not see the survey again until its history cannot be read. -/
theorem decide_diagnose_of_failing_reads_closed :
    let r := closedStore.reads.failing deviceFault
    let v := tabVisitor default
    (decide closedStore.reads ⟨1⟩ v []).1 = false ∧
      (decide r ⟨1⟩ v []).1 = true ∧
      (decide (r.failing fun _ => some (.backend "no connection")) ⟨1⟩ v []).1 = true ∧
      r.DevicesUnreadable ∧
      decide r ⟨1⟩ v = decide r ⟨1⟩ { v with device := none } ∧
      closedStore.reads.survey ⟨2⟩ = .error (.surveyNotFound ⟨2⟩) ∧
      (decide closedStore.reads ⟨2⟩ v []).1 = false := by
  intro r v
  have hshown : (decide r ⟨1⟩ v []).1 = true := by decide +kernel
  obtain ⟨hopen, hanonymous, -⟩ := decide_diagnose_of_failing_reads r ⟨1⟩ v
  obtain ⟨-, -, hunread⟩ := decide_diagnose_of_failing_reads closedStore.reads ⟨2⟩ v
  exact ⟨by decide +kernel, hshown, hopen _ [] hshown, closedStore_devicesUnreadable,
    hanonymous closedStore_devicesUnreadable, rfl,
    (hunread (.inl ⟨_, rfl⟩) [] promoPolicy (Run.start false)).1⟩

end SurveyGate
