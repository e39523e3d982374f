import SurveyGate.Proofs.Decision.Answers
import SurveyGate.Proofs.Decision.Outage
import SurveyGate.Proofs.Store.Entries
import SurveyGate.Proofs.Store.Traffic

/-!
# `SurveyGate.Proofs.Store.Isolation`: devices do not see each other

All devices share one store, and their histories stand in one table. `Store.seenFrom` is the store
with the histories of a single device. What is recorded on another device does not change it, and
what else is done can be done to it directly (`seenFrom_perform`). This needs that the store is
consistent: an impression on one device must not be the first to name the account of a survey, since
the accounts of surveys are seen from everywhere.

So after a run, a device sees the store that the run leads to without all that was recorded on other
devices (`seenFrom_after`). Since a decision for a visitor reads what is seen from the device of the
visitor and nothing else, it is the same as if no other device were there
(`decide_diagnose_of_concerns`).
-/

set_option autoImplicit false

namespace SurveyGate

namespace Operation

/-- The device on which an operation records something. -/
def device? : Operation → Option DeviceId
  | .impression _ device _ => some device
  | .completion _ device _ => some device
  | .dismissal _ device _ => some device
  | _ => none

/-- Whether an operation records nothing on any other device than the given one. -/
def concerns (device : DeviceId) (op : Operation) : Bool := op.device?.all (· == device)

end Operation

namespace Store

/-- The store with the histories of one device. -/
def seenFrom (st : Store) (device : DeviceId) : Store :=
  { st with histories := st.histories.restrict fun key => key.1 == device }

section
variable {st : Store} {device : DeviceId} {id : SurveyId}

/-! ### What is seen of a store -/

/-- A device sees its own histories. -/
theorem history_seenFrom (st : Store) (device : DeviceId) (id : SurveyId) :
    (st.seenFrom device).history device id = st.history device id :=
  st.histories.get?_restrict _ (beq_self_eq_true device)

/-- What is seen at all is seen as it is. -/
theorem history_of_seenFrom {d : DeviceId} {i : SurveyId} {h : History}
    (hh : (st.seenFrom device).history d i = some h) : st.history d i = some h := by
  have hmem := List.mem_filter.1 (Table.get?_eq_some_iff_mem.1 hh)
  exact Table.get?_eq_some_iff_mem.2 hmem.1

/-- A device sees its own logs. -/
theorem accountLog_seenFrom (st : Store) (device : DeviceId) (account : AccountId) :
    (st.seenFrom device).accountLog device account = st.accountLog device account := by
  unfold accountLog accountHistories
  show ImpressionLog.ofHistories (((st.histories.entries.filter _).filter _).map _) = _
  rw [List.filter_filter]
  -- The histories of an account on a device are among those of the device anyway.
  congr 3
  funext e
  cases hdevice : e.1.1 == device <;> simp [hdevice, seenFrom]

/-- What a device sees of a consistent store is consistent. -/
theorem Consistent.seenFrom (hst : st.Consistent) (device : DeviceId) :
    (st.seenFrom device).Consistent where
  keyed := hst.keyed
  owned := hst.owned
  ascending d i h hh := hst.ascending d i h (history_of_seenFrom hh)
  unshown d i h hnone hh := hst.unshown d i h hnone (history_of_seenFrom hh)

/-- A visitor on the device, or on none, reads the same of what is seen from it. -/
theorem agreesFor_seenFrom {v : Visitor} (hv : v.device = none ∨ v.device = some device)
    (st : Store) : st.reads.AgreesFor (st.seenFrom device).reads v := by
  have hd (d : DeviceId) (h : v.device = some d) : d = device := by
    rcases hv with hnone | hsome
    · rw [hnone] at h
      cases h
    · exact Option.some.inj (h.symm.trans hsome)
  refine ⟨fun _ => rfl, fun _ => rfl, fun _ => rfl, fun d hdevice id => ?_,
    fun d hdevice account => ?_⟩
  · obtain rfl := hd d hdevice
    exact congrArg Except.ok (history_seenFrom st d id).symm
  · obtain rfl := hd d hdevice
    exact congrArg Except.ok (accountLog_seenFrom st d account).symm

/-! ### What is seen of a run -/

/-- A device sees the edits of its own histories and of no others. -/
theorem seenFrom_editHistory (d : DeviceId) (edit : History → History) :
    (st.editHistory d id edit).seenFrom device =
      if d == device then (st.seenFrom device).editHistory d id edit
      else st.seenFrom device := by
  unfold editHistory
  show { st with histories := (st.histories.put (d, id) _).restrict _ } = _
  rw [Table.restrict_put]
  by_cases h : d = device
  · subst h
    rw [if_pos (beq_self_eq_true d), if_pos (beq_self_eq_true d), history_seenFrom]
    rfl
  · have hother : ¬(d == device) = true := fun heq => h (eq_of_beq heq)
    rw [if_neg hother, if_neg hother]
    rfl

/-- An operation that concerns the device is seen; any other one is not. -/
theorem seenFrom_perform (hst : st.Consistent) (op : Operation) :
    (st.perform op).seenFrom device =
      if op.concerns device then (st.seenFrom device).perform op else st.seenFrom device := by
  cases op with
  | insertSurvey survey => rfl
  | addTrigger id t => rfl
  | loadRows id rows limit =>
    show (st.loadRows id rows limit).2.seenFrom device =
      ((st.seenFrom device).loadRows id rows limit).2
    unfold loadRows
    cases rows.mapM (·.compile limit) <;> rfl
  | setSubmissions id count => rfl
  | addSubmission id => rfl
  | impression id d t =>
    cases hknown : st.surveys.get? id with
    | none =>
      have hseen : (st.seenFrom device).surveys.get? id = none := hknown
      rw [perform_impression_of_unknown hknown, perform_impression_of_unknown hseen, ite_self]
    | some survey =>
      have hseen : (st.seenFrom device).surveys.get? id = some survey := hknown
      rw [perform_impression_of_known hst hknown,
        perform_impression_of_known (hst.seenFrom device) hseen]
      exact seenFrom_editHistory d _
  | completion id d t => exact seenFrom_editHistory d _
  | dismissal id d t => exact seenFrom_editHistory d _

/-- What is seen after a run is what the operations lead to that concern the device. -/
theorem seenFrom_after (hst : st.Consistent) (ops : List Operation) :
    (st.after ops).seenFrom device =
      (st.seenFrom device).after (ops.filter (·.concerns device)) := by
  induction ops generalizing st with
  | nil => rfl
  | cons op ops ih =>
    show ((st.perform op).after ops).seenFrom device = _
    rw [ih ((step_perform hst op).consistent hst), seenFrom_perform hst, List.filter_cons]
    split <;> rfl

end

end Store

/-- After a run on a store that was empty, take a visitor on a device or without one. All decisions
for this visitor and all reports are the same as after the run without what it recorded on other
devices, and so is everything that is asked of the page. -/
theorem decide_diagnose_of_concerns (retention : Option Int) (ops : List Operation)
    {device : DeviceId} {v : Visitor} (hv : v.device = none ∨ v.device = some device) :
    let r := ((Store.keeping retention).after ops).reads
    let r' := ((Store.keeping retention).after (ops.filter (·.concerns device))).reads
    (∀ id, decide r id v = decide r' id v) ∧
      ∀ p id, diagnose r p id v = diagnose r' p id v := by
  intro r r'
  have hseen : ((Store.keeping retention).after ops).seenFrom device =
      (Store.keeping retention).after (ops.filter (·.concerns device)) :=
    Store.seenFrom_after (Store.consistent_keeping retention) ops
  have hagrees := Store.agreesFor_seenFrom hv ((Store.keeping retention).after ops)
  rw [hseen] at hagrees
  exact ⟨hagrees.decide_eq, hagrees.diagnose_eq⟩

/-! ### A survey on two devices -/

/-- The survey is shown once on one device and closed on another. -/
def sharedRun : List Operation :=
  [.insertSurvey onceSurvey, .impression ⟨1⟩ ⟨"phone"⟩ (.atHour 1), .setSubmissions ⟨1⟩ 4,
    .dismissal ⟨1⟩ ⟨"tab"⟩ (.atHour 2), .impression ⟨2⟩ ⟨"phone"⟩ (.atHour 3)]

/-- The device on which it was closed does not see it again, with or without the other device; a
third device does. -/
theorem decide_diagnose_of_concerns_shared :
    let st := (Store.keeping none).after sharedRun
    let alone := (Store.keeping none).after
      [.insertSurvey onceSurvey, .setSubmissions ⟨1⟩ 4, .dismissal ⟨1⟩ ⟨"tab"⟩ (.atHour 2)]
    let v := tabVisitor (.atHour 5)
    v.device = some ⟨"tab"⟩ ∧
      (decide st.reads ⟨1⟩ v []).1 = false ∧ decide st.reads ⟨1⟩ v = decide alone.reads ⟨1⟩ v ∧
      diagnose st.reads promoPolicy ⟨1⟩ v = diagnose alone.reads promoPolicy ⟨1⟩ v ∧
      (decide st.reads ⟨1⟩ { v with device := some ⟨"phone"⟩ } []).1 = false ∧
      (decide st.reads ⟨1⟩ { v with device := some ⟨"watch"⟩ } []).1 = true := by
  intro st alone v
  obtain ⟨hdecide, hdiagnose⟩ :=
    decide_diagnose_of_concerns none sharedRun (v := v) (.inr rfl)
  exact ⟨rfl, by decide +kernel, hdecide ⟨1⟩, hdiagnose promoPolicy ⟨1⟩, by decide +kernel,
    by decide +kernel⟩

end SurveyGate
