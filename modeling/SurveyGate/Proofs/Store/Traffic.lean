import SurveyGate.Proofs.History.Ordered
import SurveyGate.Store.Reads

/-!
# `SurveyGate.Proofs.Store.Traffic`: runs of operations on a store

An `Operation` is what is done with a store in memory, or with the engine over it, whose records of
impressions find the account of a survey by reading the survey. `Store.after` is the store after a
list of operations.

`Store.Consistent` states what holds of every store that operations lead to: surveys stand under
their own number, their impressions count to their account, impressions are kept in order, and none
are kept of a survey that is not known. From a consistent store an operation makes a `Store.Step`,
which says all that it can do: insert a survey, change one history in one of three ways, or leave
surveys and histories alone (`step_perform`). So invariants of runs are proved by cases on the step,
as `consistent_after` is. `take_induction` is the induction over the points of a run.
-/

set_option autoImplicit false

namespace SurveyGate

/-- What is done with a store in memory and with the engine over it. -/
inductive Operation where
  | insertSurvey (survey : Survey)
  | addTrigger (id : SurveyId) (t : Trigger)
  | loadRows (id : SurveyId) (rows : List TriggerRow) (limit : Nat)
  | setSubmissions (id : SurveyId) (count : UInt64)
  | addSubmission (id : SurveyId)
  | impression (id : SurveyId) (device : DeviceId) (t : Instant)
  | completion (id : SurveyId) (device : DeviceId) (t : Instant)
  | dismissal (id : SurveyId) (device : DeviceId) (t : Instant)

/-- The history without any impression. -/
def History.Unshown (h : History) : Prop := h.impressions = [] ∧ h.impressionCount = 0

namespace Store

/-- The store after an operation. -/
def perform (st : Store) : Operation → Store
  | .insertSurvey survey => st.insertSurvey survey
  | .addTrigger id t => st.addTrigger id t
  | .loadRows id rows limit => (st.loadRows id rows limit).2
  | .setSubmissions id count => st.setSubmissions id count
  | .addSubmission id => st.addSubmission id
  | .impression id device t => ((Backend.ofStore st).recordImpression id device t).store
  | .completion id device t => ((Backend.ofStore st).recordCompletion id device t).store
  | .dismissal id device t => ((Backend.ofStore st).recordDismissal id device t).store

/-- The store after operations, one after the other. -/
def after (st : Store) (ops : List Operation) : Store := ops.foldl perform st

/-- What holds of every store that operations lead to. -/
structure Consistent (st : Store) : Prop where
  keyed : ∀ id survey, st.surveys.get? id = some survey → survey.id = id
  owned : ∀ id, st.owners.get? id = (st.surveys.get? id).map Survey.account
  ascending : ∀ device id h, st.history device id = some h → Ascending h.impressions
  unshown : ∀ device id h, st.surveys.get? id = none → st.history device id = some h → h.Unshown

/-- What an operation makes of a store. -/
inductive Step (st : Store) : Operation → Store → Prop where
  | inserted (survey : Survey) : Step st (.insertSurvey survey) (st.insertSurvey survey)
  | shown {id : SurveyId} {device : DeviceId} {t : Instant} {survey : Survey}
      (known : st.surveys.get? id = some survey) :
      Step st (.impression id device t)
        (st.editHistory device id fun h => st.retain t (h.recordImpression t))
  | completed (id : SurveyId) (device : DeviceId) (t : Instant) :
      Step st (.completion id device t) (st.editHistory device id (·.recordCompletion t))
  | dismissed (id : SurveyId) (device : DeviceId) (t : Instant) :
      Step st (.dismissal id device t) (st.editHistory device id (·.recordDismissal t))
  /-- Surveys and histories stay as they are. So it is with an impression of an unknown survey. -/
  | apart {op : Operation} (triggers : Table SurveyId (List Trigger))
      (submissions : Table SurveyId UInt64) (notInserted : ∀ survey, op ≠ .insertSurvey survey)
      (notShown : ∀ id device t, op = .impression id device t → st.surveys.get? id = none) :
      Step st op { st with triggers, submissions }

section
variable {st : Store} {id : SurveyId} {device : DeviceId}

/-- A survey that is read is the one in the table. -/
theorem survey_eq_ok_iff {survey : Survey} :
    st.survey id = .ok survey ↔ st.surveys.get? id = some survey := by
  unfold Store.survey
  cases st.surveys.get? id with
  | none => simp
  | some s => simp

/-- An impression of a survey of the store is recorded and pruned. -/
theorem perform_impression_of_known (hst : st.Consistent) {survey : Survey}
    (h : st.surveys.get? id = some survey) (t : Instant) :
    st.perform (.impression id device t) =
      st.editHistory device id fun h => st.retain t (h.recordImpression t) := by
  have hread : (Backend.ofStore st).reads.survey id = .ok survey := survey_eq_ok_iff.2 h
  have howner : st.owners.get? id = some survey.account := by
    rw [hst.owned, h]
    rfl
  show (Backend.recordImpression _ id device t).store = _
  rw [Backend.recordImpression, hread]
  show st.recordImpression device survey.account id t = _
  rw [recordImpression, howner]

/-- An impression of a survey that the store does not know changes nothing. -/
theorem perform_impression_of_unknown (h : st.surveys.get? id = none) (t : Instant) :
    st.perform (.impression id device t) = st := by
  have hread : (Backend.ofStore st).reads.survey id = .error (.surveyNotFound id) := by
    show st.survey id = _
    rw [Store.survey, h]
  show (Backend.recordImpression _ id device t).store = _
  rw [Backend.recordImpression, hread]
  rfl

/-- All that an operation can do to a consistent store. -/
theorem step_perform (hst : st.Consistent) (op : Operation) : Step st op (st.perform op) := by
  cases op with
  | insertSurvey survey => exact .inserted survey
  | addTrigger id t => exact .apart _ st.submissions (by simp) (by simp)
  | loadRows id rows limit =>
    show Step st _ (st.loadRows id rows limit).2
    unfold loadRows
    -- Rows of which one does not compile change nothing.
    split
    · exact .apart _ st.submissions (by simp) (by simp)
    · exact .apart st.triggers st.submissions (by simp) (by simp)
  | setSubmissions id count => exact .apart st.triggers _ (by simp) (by simp)
  | addSubmission id => exact .apart st.triggers _ (by simp) (by simp)
  | impression id device t =>
    cases h : st.surveys.get? id with
    | none =>
      rw [perform_impression_of_unknown h]
      refine .apart st.triggers st.submissions (by simp) fun i d u heq => ?_
      obtain ⟨rfl, -, -⟩ := Operation.impression.inj heq
      exact h
    | some survey =>
      rw [perform_impression_of_known hst h]
      exact .shown h
  | completion id device t => exact .completed id device t
  | dismissal id device t => exact .dismissed id device t

/-! ### What an operation keeps -/

/-- An edit changes its own history and no other. -/
theorem history_editHistory (edit : History → History) (d : DeviceId) (i : SurveyId) :
    (st.editHistory device id edit).history d i =
      if (device, id) = (d, i) then some (edit ((st.history device id).getD .empty))
      else st.history d i :=
  Table.get?_put ..

/-- Retention leaves an ordered history ordered. -/
theorem retain_ascending {h : History} (hasc : Ascending h.impressions) (t : Instant) :
    Ascending (st.retain t h).impressions := by
  unfold retain
  split
  · exact History.prune_ascending hasc _
  · exact hasc

/-- A record keeps the impressions in order. -/
theorem recordImpression_ascending {h : History} (hasc : Ascending h.impressions) (t : Instant) :
    Ascending (st.retain t (h.recordImpression t)).impressions :=
  retain_ascending (History.insertInstant_ascending hasc) t

/-- The impressions of a consistent store are in order, also where there is no history. -/
theorem Consistent.ascending_getD (hst : st.Consistent) (device : DeviceId) (id : SurveyId) :
    Ascending ((st.history device id).getD .empty).impressions :=
  History.ascending_getD (hst.ascending device id)

/-- A change of one history keeps a store consistent when it keeps the impressions in order and
shows nothing of an unknown survey. -/
theorem Consistent.editHistory (hst : st.Consistent) {edit : History → History}
    (hasc : ∀ h, Ascending h.impressions → Ascending (edit h).impressions)
    (hunshown : st.surveys.get? id = none → ∀ h, h.Unshown → (edit h).Unshown) :
    (st.editHistory device id edit).Consistent where
  keyed := hst.keyed
  owned := hst.owned
  ascending d i h hh := by
    rw [history_editHistory] at hh
    split at hh
    · obtain rfl := Option.some.inj hh
      exact hasc _ (hst.ascending_getD device id)
    · exact hst.ascending d i h hh
  unshown d i h hnone hh := by
    rw [history_editHistory] at hh
    split at hh
    · rename_i heq
      obtain ⟨rfl, rfl⟩ := Prod.mk.inj heq
      obtain rfl := Option.some.inj hh
      refine hunshown hnone _ ?_
      cases hold : st.history device id with
      | none => exact ⟨rfl, rfl⟩
      | some old => exact hst.unshown device id old hnone hold
    · exact hst.unshown d i h hnone hh

/-- A store with one more survey is consistent. -/
theorem Consistent.insertSurvey (hst : st.Consistent) (survey : Survey) :
    (st.insertSurvey survey).Consistent where
  keyed i s h := by
    have hget : (st.surveys.put survey.id survey).get? i = some s := h
    rw [Table.get?_put] at hget
    split at hget
    · rename_i heq
      obtain rfl := Option.some.inj hget
      exact heq
    · exact hst.keyed i s hget
  owned i := by
    show (st.owners.put survey.id survey.account).get? i =
      ((st.surveys.put survey.id survey).get? i).map Survey.account
    rw [Table.get?_put, Table.get?_put]
    split
    · rfl
    · exact hst.owned i
  ascending := hst.ascending
  unshown d i h hnone hh := by
    have hget : (st.surveys.put survey.id survey).get? i = none := hnone
    rw [Table.get?_put] at hget
    split at hget
    · cases hget
    · exact hst.unshown d i h hget hh

variable {st' : Store} {op : Operation}

/-- A step keeps a store consistent. -/
theorem Step.consistent (h : Step st op st') (hst : st.Consistent) : st'.Consistent := by
  cases h with
  | inserted survey => exact hst.insertSurvey survey
  | shown known =>
    -- Only an impression adds impressions, and it is recorded of a known survey.
    refine hst.editHistory (fun h hasc => recordImpression_ascending hasc _) fun hnone => ?_
    rw [known] at hnone
    cases hnone
  | completed id device t => exact hst.editHistory (fun _ hasc => hasc) fun _ _ h => h
  | dismissed id device t => exact hst.editHistory (fun _ hasc => hasc) fun _ _ h => h
  | apart triggers submissions => exact ⟨hst.keyed, hst.owned, hst.ascending, hst.unshown⟩

/-- A step does not change how long impressions are kept. -/
theorem Step.retention_eq (h : Step st op st') : st'.retention = st.retention := by
  cases h <;> rfl

/-- A survey that is known after an operation was known before or inserted by it. -/
theorem Step.known (h : Step st op st') {survey : Survey}
    (hknown : st'.surveys.get? id = some survey) :
    st.surveys.get? id = some survey ∨ op = .insertSurvey survey := by
  cases h with
  | inserted s =>
    have hget : (st.surveys.put s.id s).get? id = some survey := hknown
    rw [Table.get?_put] at hget
    split at hget
    · obtain rfl := Option.some.inj hget
      exact .inr rfl
    · exact .inl hget
  | shown => exact .inl hknown
  | completed => exact .inl hknown
  | dismissed => exact .inl hknown
  | apart => exact .inl hknown

end

/-! ### Runs -/

/-- An empty store is consistent. -/
theorem consistent_keeping (retention : Option Int) : (keeping retention).Consistent where
  keyed := by rintro _ _ ⟨⟩
  owned _ := rfl
  ascending := by rintro _ _ _ ⟨⟩
  unshown := by rintro _ _ _ _ ⟨⟩

/-- One more operation is performed behind the others. -/
theorem after_concat (st : Store) (ops : List Operation) (op : Operation) :
    st.after (ops ++ [op]) = (st.after ops).perform op := by
  rw [after, List.foldl_append]
  rfl

variable {st : Store}

variable {ops : List Operation}

/-- The operations up to one and including it. -/
theorem take_succ_of_some {n : Nat} {op : Operation} (hop : ops[n]? = some op) :
    ops.take (n + 1) = ops.take n ++ [op] := by
  rw [List.take_add_one, hop, Option.toList_some]

/-- What holds of the beginning of a run and is kept by each of its operations holds at every point
of the run. Behind its end nothing happens any more. -/
theorem take_induction {P : List Operation → Prop} (nil : P [])
    (concat : ∀ n op, ops[n]? = some op → P (ops.take n) → P (ops.take n ++ [op])) (n : Nat) :
    P (ops.take n) := by
  induction n with
  | zero => exact nil
  | succ n ih =>
    cases hop : ops[n]? with
    | none =>
      rw [List.take_add_one, hop, Option.toList_none, List.append_nil]
      exact ih
    | some op =>
      rw [take_succ_of_some hop]
      exact concat n op hop ih

/-- Operations lead from a consistent store to consistent ones. -/
theorem consistent_after (hst : st.Consistent) (ops : List Operation) :
    (st.after ops).Consistent := by
  induction ops generalizing st with
  | nil => exact hst
  | cons op ops ih => exact ih ((step_perform hst op).consistent hst)

/-- A run does not change how long impressions are kept. -/
theorem retention_after (hst : st.Consistent) (ops : List Operation) :
    (st.after ops).retention = st.retention := by
  induction ops generalizing st with
  | nil => rfl
  | cons op ops ih =>
    show ((st.perform op).after ops).retention = _
    have hstep := step_perform hst op
    rw [ih (hstep.consistent hst), hstep.retention_eq]

/-- A survey that is known after some operations was known before or inserted by one of them. -/
theorem known_after (hst : st.Consistent) {id : SurveyId} {survey : Survey}
    (ops : List Operation) (h : (st.after ops).surveys.get? id = some survey) :
    st.surveys.get? id = some survey ∨ .insertSurvey survey ∈ ops := by
  induction ops generalizing st with
  | nil => exact .inl h
  | cons op ops ih =>
    have hstep := step_perform hst op
    -- The rest of the run starts from the store after the first operation.
    rcases ih (hstep.consistent hst) h with hknown | hmem
    · rcases hstep.known hknown with hbefore | rfl
      · exact .inl hbefore
      · exact .inr List.mem_cons_self
    · exact .inr (List.mem_cons_of_mem _ hmem)

end Store

end SurveyGate
