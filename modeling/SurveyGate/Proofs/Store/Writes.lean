import SurveyGate.Proofs.History.Events
import SurveyGate.Proofs.Store.Traffic

/-!
# `SurveyGate.Proofs.Store.Writes`: runs of writes to a store

A `Write` is what is done with a store in memory directly. It is more than the engine does with it:
an impression may be recorded of a survey that the store does not hold, for an account that it
names. `Store.written` is the store after a list of writes, and what the engine makes of a store is
one of these (`after_eq_written`).

What the two writes do that touch more than one table, or none, is stated once
(`recordImpression_eq`, `loadRows_eq`); facts about runs of writes start from there. A write is a few
events in one history (`Write.events`), and whatever is written, each history is the run of its
events (`history_written`). So it keeps its impressions in order (`Recorded.ascending`).
-/

set_option autoImplicit false

namespace SurveyGate

/-- What is done with a store in memory. An impression names the account that owns the survey from
then on if none does yet. -/
inductive Write where
  | insertSurvey (survey : Survey)
  | addTrigger (id : SurveyId) (t : Trigger)
  | loadRows (id : SurveyId) (rows : List TriggerRow) (limit : Nat)
  | setSubmissions (id : SurveyId) (count : UInt64)
  | addSubmission (id : SurveyId)
  | impression (device : DeviceId) (account : AccountId) (id : SurveyId) (t : Instant)
  | completion (device : DeviceId) (id : SurveyId) (t : Instant)
  | dismissal (device : DeviceId) (id : SurveyId) (t : Instant)

/-- The events of a write in the history of a survey on a device. An impression comes with a prune,
where retention reaches back to the start of the clock at all. -/
def Write.events (retention : Option Int) (device : DeviceId) (id : SurveyId) :
    Write → List HistoryEvent
  | .impression d _ i t =>
    if (d, i) = (device, id) then
      .impression t ::
        ((retention.bind fun nanos => t.shiftNanos (-nanos)).map HistoryEvent.prune).toList
    else []
  | .completion d i t => if (d, i) = (device, id) then [.completion t] else []
  | .dismissal d i t => if (d, i) = (device, id) then [.dismissal t] else []
  | _ => []

namespace Store

/-- The store after a write. -/
def write (st : Store) : Write → Store
  | .insertSurvey survey => st.insertSurvey survey
  | .addTrigger id t => st.addTrigger id t
  | .loadRows id rows limit => (st.loadRows id rows limit).2
  | .setSubmissions id count => st.setSubmissions id count
  | .addSubmission id => st.addSubmission id
  | .impression device account id t => st.recordImpression device account id t
  | .completion device id t => st.recordCompletion device id t
  | .dismissal device id t => st.recordDismissal device id t

/-- The store after writes, one after the other. -/
def written (st : Store) (ws : List Write) : Store := ws.foldl write st

section
variable {st : Store} {device : DeviceId} {account : AccountId} {id : SurveyId} {t : Instant}

/-- One more write is done behind the others. -/
theorem written_concat (st : Store) (ws : List Write) (w : Write) :
    st.written (ws ++ [w]) = (st.written ws).write w := by
  rw [written, List.foldl_append]
  rfl

/-- Writes in two lists are done one list after the other. -/
theorem written_append (st : Store) (ws later : List Write) :
    st.written (ws ++ later) = (st.written ws).written later :=
  List.foldl_append

/-- What holds of a store and is kept by each write holds of the store after writes. -/
theorem written_induction {P : Store → Prop} (hst : P st)
    (hwrite : ∀ st w, P st → P (st.write w)) (ws : List Write) : P (st.written ws) := by
  induction ws generalizing st with
  | nil => exact hst
  | cons w ws ih => exact ih (hwrite st w hst)

/-! ### What a write changes -/

/-- The owners after an account was named for a survey, which it owns if no other does. -/
def ownersNaming (st : Store) (id : SurveyId) (account : AccountId) : Table SurveyId AccountId :=
  match st.owners.get? id with
  | some _ => st.owners
  | none => st.owners.put id account

/-- A survey keeps the owner that it has. -/
theorem get?_ownersNaming (i : SurveyId) :
    (st.ownersNaming id account).get? i =
      if id = i then some ((st.owners.get? id).getD account) else st.owners.get? i := by
  unfold ownersNaming
  cases howner : st.owners.get? id with
  | none => exact Table.get?_put ..
  | some owner =>
    show st.owners.get? i = _
    split
    · rename_i heq
      rw [← heq, howner]
      rfl
    · rfl

/-- An impression changes the history of the survey on the device, and names its owner. -/
theorem recordImpression_eq :
    st.recordImpression device account id t =
      { st.editHistory device id fun h => st.retain t (h.recordImpression t) with
        owners := st.ownersNaming id account } := by
  unfold recordImpression ownersNaming
  cases st.owners.get? id <;> rfl

/-- The triggers after rows were given to a survey: those that the rows write, or the old ones if a
row does not compile. -/
def triggersLoading (st : Store) (id : SurveyId) (rows : List TriggerRow) (limit : Nat) :
    Table SurveyId (List Trigger) :=
  match rows.mapM (·.compile limit) with
  | .ok triggers => st.triggers.put id triggers
  | .error _ => st.triggers

/-- Rows change nothing but triggers. -/
theorem loadRows_eq (st : Store) (id : SurveyId) (rows : List TriggerRow) (limit : Nat) :
    (st.loadRows id rows limit).2 =
      { st with triggers := st.triggersLoading id rows limit } := by
  unfold loadRows triggersLoading
  cases rows.mapM (·.compile limit) <;> rfl

end

/-! ### Histories -/

section
variable {st : Store} {device : DeviceId} {id : SurveyId}

/-- A write does not change how long impressions are kept. -/
theorem retention_write (w : Write) : (st.write w).retention = st.retention := by
  cases w with
  | impression device account id t =>
    show (st.recordImpression device account id t).retention = _
    rw [recordImpression_eq]
    rfl
  | loadRows id rows limit =>
    show (st.loadRows id rows limit).2.retention = _
    rw [loadRows_eq]
  | _ => rfl

/-- Writes do not change how long impressions are kept. -/
theorem retention_written (st : Store) (ws : List Write) :
    (st.written ws).retention = st.retention :=
  written_induction (P := fun s => s.retention = st.retention) rfl
    (fun s w h => by rw [retention_write, h]) ws

/-- An edit changes its own history and no other, also where there was none. -/
theorem getD_history_editHistory (edit : History → History) (d : DeviceId) (i : SurveyId) :
    ((st.editHistory d i edit).history device id).getD .empty =
      if (d, i) = (device, id) then edit ((st.history device id).getD .empty)
      else (st.history device id).getD .empty := by
  rw [history_editHistory]
  split
  · rename_i heq
    obtain ⟨rfl, rfl⟩ := Prod.mk.inj heq
    rfl
  · rfl

/-- Retention is a prune, where it reaches back to the start of the clock at all. -/
theorem retain_eq_foldl (st : Store) (t : Instant) (h : History) :
    st.retain t h =
      ((st.retention.bind fun nanos => t.shiftNanos (-nanos)).map HistoryEvent.prune).toList.foldl
        History.step h := by
  unfold retain
  cases st.retention.bind fun nanos => t.shiftNanos (-nanos) <;> rfl

/-- A history goes through the events of a write. -/
theorem history_write (st : Store) (w : Write) (device : DeviceId) (id : SurveyId) :
    ((st.write w).history device id).getD .empty =
      (w.events st.retention device id).foldl History.step
        ((st.history device id).getD .empty) := by
  cases w with
  | impression d account i t =>
    show ((st.recordImpression d account i t).history device id).getD .empty = _
    rw [recordImpression_eq]
    show ((st.editHistory d i fun h => st.retain t (h.recordImpression t)).history device
      id).getD .empty = _
    rw [getD_history_editHistory, Write.events]
    split
    · exact retain_eq_foldl st t _
    · rfl
  | completion d i t =>
    show ((st.editHistory d i (·.recordCompletion t)).history device id).getD .empty = _
    rw [getD_history_editHistory, Write.events]
    split <;> rfl
  | dismissal d i t =>
    show ((st.editHistory d i (·.recordDismissal t)).history device id).getD .empty = _
    rw [getD_history_editHistory, Write.events]
    split <;> rfl
  | loadRows i rows limit =>
    show ((st.loadRows i rows limit).2.history device id).getD .empty = _
    rw [loadRows_eq]
    rfl
  | _ => rfl

/-- After writes to a store that was empty, a history is the run of their events. -/
theorem history_written (retention : Option Int) (ws : List Write) (device : DeviceId)
    (id : SurveyId) :
    (((keeping retention).written ws).history device id).getD .empty =
      .run (ws.flatMap (Write.events retention device id)) := by
  induction ws using List.reverseRecOn with
  | nil => rfl
  | append_singleton ws w ih =>
    have hretention : ((keeping retention).written ws).retention = retention :=
      retention_written _ ws
    rw [written_concat, history_write, hretention, ih, List.flatMap_append, List.flatMap_singleton,
      History.run, History.run, List.foldl_append]

/-- Each history is that of some events. -/
def Recorded (st : Store) : Prop :=
  ∀ device id h, st.history device id = some h → ∃ events, h = .run events

/-- Whatever is written to a store that was empty, each history is that of some events. -/
theorem recorded_written (retention : Option Int) (ws : List Write) :
    ((keeping retention).written ws).Recorded := by
  intro device id h hh
  have hrun := history_written retention ws device id
  rw [hh] at hrun
  exact ⟨_, hrun⟩

/-- Histories of events keep their impressions in order. -/
theorem Recorded.ascending (hst : st.Recorded) {h : History}
    (hh : st.history device id = some h) : Ascending h.impressions := by
  obtain ⟨events, rfl⟩ := hst device id h hh
  exact History.run_ascending events

/-- The impressions of a recorded store are in order, also where there is no history. -/
theorem Recorded.ascending_getD (hst : st.Recorded) (device : DeviceId) (id : SurveyId) :
    Ascending ((st.history device id).getD .empty).impressions :=
  History.ascending_getD fun _ hh => hst.ascending hh

/-! ### The engine over a store -/

/-- What the engine does to a store is a write, or nothing if it is an impression of a survey that
the store does not hold. -/
theorem perform_eq_written (st : Store) (op : Operation) :
    ∃ ws, st.perform op = st.written ws := by
  cases op with
  | insertSurvey survey => exact ⟨[.insertSurvey survey], rfl⟩
  | addTrigger id t => exact ⟨[.addTrigger id t], rfl⟩
  | loadRows id rows limit => exact ⟨[.loadRows id rows limit], rfl⟩
  | setSubmissions id count => exact ⟨[.setSubmissions id count], rfl⟩
  | addSubmission id => exact ⟨[.addSubmission id], rfl⟩
  | impression id device t =>
    cases h : st.surveys.get? id with
    | none => exact ⟨[], perform_impression_of_unknown h t⟩
    | some survey =>
      have hread : (Backend.ofStore st).reads.survey id = .ok survey := survey_eq_ok_iff.2 h
      refine ⟨[.impression device survey.account id t], ?_⟩
      show (Backend.recordImpression _ id device t).store = _
      rw [Backend.recordImpression, hread]
      rfl
  | completion id device t => exact ⟨[.completion device id t], rfl⟩
  | dismissal id device t => exact ⟨[.dismissal device id t], rfl⟩

/-- A run of the engine is a run of writes. -/
theorem after_eq_written (st : Store) (ops : List Operation) :
    ∃ ws, st.after ops = st.written ws := by
  induction ops generalizing st with
  | nil => exact ⟨[], rfl⟩
  | cons op ops ih =>
    obtain ⟨ws, hop⟩ := perform_eq_written st op
    obtain ⟨ws', hops⟩ := ih (st.perform op)
    refine ⟨ws ++ ws', ?_⟩
    show (st.perform op).after ops = _
    rw [hops, hop, written_append]

end

end Store

end SurveyGate
