import SurveyGate.Proofs.Decision.Gate
import SurveyGate.Proofs.Store.Ledger

/-!
# `SurveyGate.Proofs.Store.Agreement`: stores that keep different impressions

Two stores agree when they hold the same but for the impressions that they keep. Whatever is written
to both, they still agree (`Agrees.write`), so stores that began empty do after any writes, with
whatever retention each of them has (`agrees_keeping`).

A decision reads the instants of impressions for caps only. So it comes out the same by two stores
that agree, as soon as the cap of the survey is in the same state by both (`Agrees.decide_eq`).
-/

set_option autoImplicit false

namespace SurveyGate

/-- A history but for the instants of impressions. -/
def History.withoutInstants (h : History) : History := { h with impressions := [] }

namespace Store

/-- Two stores differ in the impressions that they keep, and in nothing else that is read. -/
structure Agrees (st st' : Store) : Prop where
  surveys : st.surveys = st'.surveys
  owners : st.owners = st'.owners
  triggers : st.triggers = st'.triggers
  submissions : st.submissions = st'.submissions
  histories : ∀ device id, (st.history device id).map History.withoutInstants =
    (st'.history device id).map History.withoutInstants

/-- A cap is in the same state by the logs of two stores, the instant included at which it opens
again. -/
structure SameCapState (st st' : Store) (cap : FrequencyCap) (now : Instant) : Prop where
  survey : ∀ device id, CapState.compute cap (st.surveyLog device id) now =
    CapState.compute cap (st'.surveyLog device id) now
  account : ∀ device account, CapState.compute cap (st.accountLog device account) now =
    CapState.compute cap (st'.accountLog device account) now

section
variable {st st' : Store}

/-- To give the same states of a cap is symmetric. -/
theorem SameCapState.symm {cap : FrequencyCap} {now : Instant}
    (h : st.SameCapState st' cap now) : st'.SameCapState st cap now where
  survey device id := (h.survey device id).symm
  account device account := (h.account device account).symm

/-- Agreement is symmetric. -/
theorem Agrees.symm (h : st.Agrees st') : st'.Agrees st where
  surveys := h.surveys.symm
  owners := h.owners.symm
  triggers := h.triggers.symm
  submissions := h.submissions.symm
  histories device id := (h.histories device id).symm

/-- Pruning leaves everything but the instants. -/
theorem withoutInstants_retain (st : Store) (t : Instant) (h : History) :
    (st.retain t h).withoutInstants = h.withoutInstants := by
  unfold retain
  split <;> rfl

/-- Changes that do the same but for the instants of impressions leave two stores in agreement. -/
theorem Agrees.editHistory (h : st.Agrees st') (device : DeviceId) (id : SurveyId)
    (edit edit' : History → History)
    (hedit : ∀ h h' : History, h.withoutInstants = h'.withoutInstants →
      (edit h).withoutInstants = (edit' h').withoutInstants) :
    (st.editHistory device id edit).Agrees (st'.editHistory device id edit') where
  surveys := h.surveys
  owners := h.owners
  triggers := h.triggers
  submissions := h.submissions
  histories d i := by
    rw [history_editHistory, history_editHistory]
    have hgetD (h : Option History) :
        (h.getD .empty).withoutInstants = (h.map History.withoutInstants).getD .empty :=
      (Option.getD_map History.withoutInstants .empty h).symm
    have hold : ((st.history device id).getD .empty).withoutInstants =
        ((st'.history device id).getD .empty).withoutInstants := by
      rw [hgetD, hgetD, h.histories device id]
    split
    · exact congrArg some (hedit _ _ hold)
    · exact h.histories d i

/-- Whatever is written to both, two stores agree. -/
theorem Agrees.write (h : st.Agrees st') (w : Write) : (st.write w).Agrees (st'.write w) := by
  cases w with
  | insertSurvey survey =>
    exact { h with
      surveys := congrArg (·.put survey.id survey) h.surveys
      owners := congrArg (·.put survey.id survey.account) h.owners }
  | addTrigger id t =>
    refine { h with triggers := ?_ }
    show st.triggers.put id (st.triggersOf id ++ [t]) = _
    rw [triggersOf, h.triggers]
    rfl
  | loadRows id rows limit =>
    show (st.loadRows id rows limit).2.Agrees (st'.loadRows id rows limit).2
    rw [loadRows_eq, loadRows_eq]
    refine { h with triggers := ?_ }
    show st.triggersLoading id rows limit = _
    rw [triggersLoading, h.triggers]
    rfl
  | setSubmissions id count =>
    exact { h with submissions := congrArg (·.put id count) h.submissions }
  | addSubmission id =>
    refine { h with submissions := ?_ }
    show st.submissions.put id (addCounts (st.submissionsOf id) 1) = _
    rw [submissionsOf, h.submissions]
    rfl
  | impression device account id t =>
    show (st.recordImpression device account id t).Agrees
      (st'.recordImpression device account id t)
    have hshown : (st.editHistory device id fun h => st.retain t (h.recordImpression t)).Agrees
        (st'.editHistory device id fun h => st'.retain t (h.recordImpression t)) := by
      refine h.editHistory device id _ _ fun old old' hold => ?_
      rw [withoutInstants_retain, withoutInstants_retain]
      show (old.withoutInstants.recordImpression t).withoutInstants = _
      rw [hold]
      rfl
    rw [recordImpression_eq, recordImpression_eq]
    refine { hshown with owners := ?_ }
    show st.ownersNaming id account = _
    rw [ownersNaming, h.owners]
    rfl
  | completion device id t =>
    refine h.editHistory device id (·.recordCompletion t) (·.recordCompletion t)
      fun old old' hold => ?_
    show old.withoutInstants.recordCompletion t = _
    rw [hold]
    rfl
  | dismissal device id t =>
    refine h.editHistory device id (·.recordDismissal t) (·.recordDismissal t)
      fun old old' hold => ?_
    show old.withoutInstants.recordDismissal t = _
    rw [hold]
    rfl

/-- Stores that agree do so behind the same writes. -/
theorem Agrees.written (h : st.Agrees st') (ws : List Write) :
    (st.written ws).Agrees (st'.written ws) := by
  induction ws generalizing st st' with
  | nil => exact h
  | cons w ws ih => exact ih (h.write w)

/-- Stores with and without retention agree after the same writes. -/
theorem agrees_keeping (retention retention' : Option Int) (ws : List Write) :
    ((keeping retention).written ws).Agrees ((keeping retention').written ws) := by
  have hstart : (keeping retention).Agrees (keeping retention') :=
    ⟨rfl, rfl, rfl, rfl, fun _ _ => rfl⟩
  exact hstart.written ws

/-! ### What is read of both -/

/-- Stores that agree have the same surveys. -/
theorem Agrees.survey_eq (h : st.Agrees st') (id : SurveyId) : st.survey id = st'.survey id := by
  rw [Store.survey, h.surveys]
  rfl

/-- Stores that agree load the same survey and triggers. -/
theorem Agrees.load_eq (h : st.Agrees st') (id : SurveyId) :
    load st.reads id = load st'.reads id := by
  have hsurvey : st.reads.survey id = st'.reads.survey id := h.survey_eq id
  have htriggers : st.reads.triggers id = st'.reads.triggers id := by
    show Except.ok (st.triggersOf id) = _
    rw [triggersOf, h.triggers]
    rfl
  rw [load, hsurvey, htriggers]
  rfl

/-- The same histories count to an account. -/
theorem Agrees.countsTo_eq (h : st.Agrees st') (device : DeviceId) (account : AccountId) :
    st.countsTo device account = st'.countsTo device account := by
  funext key
  rw [countsTo, countsTo, h.owners]

/-- A completion is known whether or not impressions are kept. -/
theorem Agrees.refire_eq (h : st.Agrees st') (s : Survey) (device : DeviceId) (id : SurveyId)
    (now : Instant) :
    RefireState.compute s (st.history device id) now =
      RefireState.compute s (st'.history device id) now := by
  have hcompleted (o : Option History) :
      o.bind History.lastCompleted =
        (o.map History.withoutInstants).bind History.lastCompleted := by
    cases o <;> rfl
  rw [RefireState.compute, hcompleted, h.histories device id, ← hcompleted]
  rfl

/-- A survey that allows a visitor by one store does so by another that agrees with it, if its cap
is in the same state by both. -/
theorem Agrees.allows {s : Survey} {v : Visitor} (h : st.Agrees st')
    (hcap : st.SameCapState st' s.cap v.now) (hallows : s.Allows st.reads v) :
    s.Allows st'.reads v where
  live := hallows.live
  started := hallows.started
  notEnded := hallows.notEnded
  belowGoal n hn := by
    refine hallows.belowGoal n ?_
    rw [← hn]
    show Except.ok (st.submissionsOf s.id) = _
    rw [submissionsOf, h.submissions]
    rfl
  enabledFor := hallows.enabledFor
  belowSurveyCap hi he hscope device hd history hread := by
    obtain rfl := Except.ok.inj hread
    exact (hcap.survey device s.id).symm.trans
      (hallows.belowSurveyCap hi he hscope device hd _ rfl)
  belowAccountCap hi he hscope device hd log hread := by
    obtain rfl := Except.ok.inj hread
    exact (hcap.account device s.account).symm.trans
      (hallows.belowAccountCap hi he hscope device hd _ rfl)
  mayRefire device hd history hread := by
    obtain rfl := Except.ok.inj hread
    rw [← h.refire_eq]
    exact hallows.mayRefire device hd _ rfl
  notDismissed hstops device hd history hread := by
    have hsame := h.histories device s.id
    rw [Except.ok.inj hread] at hsame
    obtain ⟨old, hold, hagrees⟩ := Option.map_eq_some_iff.1 hsame
    show history.withoutInstants.dismissedWithoutAnswer = false
    rw [← hagrees]
    exact hallows.notDismissed hstops device hd old (congrArg Except.ok hold)

/-- A decision comes out the same, with all that it asks of the page, by two stores that agree and
by which the cap of the survey is in the same state. -/
theorem Agrees.decide_eq {id : SurveyId} {v : Visitor} (h : st.Agrees st')
    (hcap : ∀ s, st.survey id = .ok s → st.SameCapState st' s.cap v.now) :
    decide st.reads id v = decide st'.reads id v := by
  refine decide_congr (h.load_eq id) (fun _ => rfl) fun s hs => ?_
  have hsame := hcap s hs
  exact ⟨h.allows hsame, h.symm.allows hsame.symm⟩

end

end Store

end SurveyGate
