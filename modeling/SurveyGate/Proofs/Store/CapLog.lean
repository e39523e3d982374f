import SurveyGate.Proofs.Decision.Check
import SurveyGate.Proofs.Store.Quota

/-!
# `SurveyGate.Proofs.Store.CapLog`: what a cap sees of a quota

The log that the cap of a survey looks at is the history of that survey, or the histories of all
surveys of its account put together. When a quota covers just these surveys (`Quota.Governs`), the
log counts at least what the store keeps for the quota (`capLog_sees`). A survey that is not known
has an account nowhere, but it was never shown either, so nothing is missed.
-/

set_option autoImplicit false

namespace SurveyGate

/-- A survey that a store holds. -/
def Store.Knows (st : Store) (survey : Survey) : Prop :=
  ∃ id, st.surveys.get? id = some survey

/-- A quota whose cap is in force for the surveys that it covers: one survey, or the surveys of one
account, as the scope of the cap says. Each of them carries the cap. -/
structure Quota.Governs (q : Quota) (configured : Survey → Prop) : Prop where
  enabled : q.cap.enabled = true
  limited : 1 ≤ q.cap.limit.toNat
  oneSurvey : q.cap.scope = .perSurvey → ∃ id, ∀ i, q.covers i = true ↔ i = id
  oneAccount : q.cap.scope = .perAccount →
    ∃ account, ∀ s, configured s → (q.covers s.id = true ↔ s.account = account)
  carried : ∀ s, configured s → q.covers s.id = true → s.cap = q.cap ∧ s.ignoresCap = false

/-- A log counts at least what a store keeps for a quota on a device. -/
structure Quota.Sees (q : Quota) (device : DeviceId) (st : Store) (log : ImpressionLog) : Prop where
  ascending : Ascending log.instants
  noLeap : ∀ u ∈ log.instants, u.isLeap = false
  recorded : min (q.totalOn device st History.recorded) maxCount ≤ log.count.toNat
  kept : ∀ c, q.totalOn device st (History.youngerKept c) ≤ younger c log.instants

section
variable {q : Quota} {device : DeviceId} {st : Store} {ts : List Instant} {id : SurveyId}
  {s : Survey}

/-- A quota of one survey weighs the history of that survey only. -/
theorem Quota.totalOn_of_one (hq : ∀ i, q.covers i = true ↔ i = id) (f : History → Nat) :
    q.totalOn device st f = weightAt (fun _ => f) (device, id) (st.history device id) := by
  have hpicks (key : DeviceId × SurveyId) : q.picks device key = true ↔ key = (device, id) := by
    rw [q.picks_iff, hq, Prod.ext_iff]
  rw [q.totalOn_eq_tally]
  exact Store.tally_of_one hpicks f

/-- The log of a survey shows what a quota on the survey tracks. -/
theorem Quota.sees_surveyLog (hst : st.Consistent) (h : q.Tracks device ts st)
    (hq : ∀ i, q.covers i = true ↔ i = id) :
    q.Sees device st (((st.history device id).map ImpressionLog.ofHistory).getD .empty) := by
  have htotal (f : History → Nat) : q.totalOn device st f =
      weightAt (fun _ => f) (device, id) (st.history device id) := Quota.totalOn_of_one hq f
  cases hhistory : st.history device id with
  | none =>
    simp only [hhistory, weightAt] at htotal
    exact {
      ascending := List.Pairwise.nil
      noLeap := fun _ hu => absurd hu List.not_mem_nil
      recorded := by rw [htotal]; exact Nat.min_le_left ..
      kept := fun c => by rw [htotal]; exact Nat.zero_le _ }
  | some history =>
    simp only [hhistory, weightAt] at htotal
    exact {
      ascending := hst.ascending device id history hhistory
      noLeap := h.noLeap id ((hq id).2 rfl) history hhistory
      recorded := by rw [htotal]; exact Nat.min_le_left ..
      kept := fun c => by rw [htotal]; exact Nat.le_refl _ }

/-- Which histories of a device count to an account. -/
def Store.countsTo (st : Store) (device : DeviceId) (account : AccountId)
    (key : DeviceId × SurveyId) : Bool :=
  key.1 == device && st.owners.get? key.2 == some account

/-- The histories of an account have the weight of those that count to it. -/
theorem Store.tally_countsTo (st : Store) (device : DeviceId) (account : AccountId)
    (f : History → Nat) :
    st.tally (st.countsTo device account) f = ((st.accountHistories device account).map f).sum :=
  (Table.sum_map_filter st.histories (st.countsTo device account) f).symm

/-- A history counts to an account when its survey belongs to the account. -/
theorem Store.countsTo_iff {account : AccountId} {key : DeviceId × SurveyId}
    (hst : st.Consistent) :
    st.countsTo device account key = true ↔
      key.1 = device ∧
        ∃ survey, st.surveys.get? key.2 = some survey ∧ survey.account = account := by
  rw [Store.countsTo, Bool.and_eq_true, beq_iff_eq, beq_iff_eq, hst.owned, Option.map_eq_some_iff]

/-- The histories of an account on a device are those of its surveys. -/
theorem Store.mem_accountHistories {account : AccountId} {h : History} (hst : st.Consistent) :
    h ∈ st.accountHistories device account ↔
      ∃ i survey, st.surveys.get? i = some survey ∧ survey.account = account ∧
        st.history device i = some h := by
  have hfilter : st.accountHistories device account =
      (st.histories.entries.filter fun e => st.countsTo device account e.1).map Prod.snd := rfl
  rw [hfilter, List.mem_map]
  constructor
  · rintro ⟨⟨⟨d, i⟩, h'⟩, hentry, rfl⟩
    obtain ⟨hmem, hcounts⟩ := List.mem_filter.1 hentry
    obtain ⟨rfl, survey, hknown, haccount⟩ := (Store.countsTo_iff hst).1 hcounts
    exact ⟨i, survey, hknown, haccount, Table.get?_eq_some_iff_mem.2 hmem⟩
  · rintro ⟨i, survey, hknown, haccount, hh⟩
    refine ⟨((device, i), h), List.mem_filter.2 ⟨Table.get?_eq_some_iff_mem.1 hh, ?_⟩, rfl⟩
    exact (Store.countsTo_iff hst).2 ⟨rfl, survey, hknown, haccount⟩

/-- The histories of an account weigh at least what a quota weighs that covers its surveys. -/
theorem Quota.totalOn_le_accountHistories {account : AccountId} (hst : st.Consistent)
    (hq : ∀ s, st.Knows s → (q.covers s.id = true ↔ s.account = account)) {f : History → Nat}
    (hf : ∀ h : History, h.Unshown → f h = 0) :
    q.totalOn device st f ≤ ((st.accountHistories device account).map f).sum := by
  rw [← Store.tally_countsTo]
  apply Table.total_le_total
  intro key h hh
  unfold Quota.weight
  by_cases hcovered : key.1 = device ∧ q.covers key.2 = true
  · rw [if_pos hcovered]
    -- A covered survey that is not known was never shown, so its history weighs nothing.
    cases hknown : st.surveys.get? key.2 with
    | none =>
      rw [hf h (hst.unshown key.1 key.2 h hknown hh)]
      exact Nat.zero_le _
    | some survey =>
      have hid : q.covers survey.id = true := by rw [hst.keyed _ _ hknown]; exact hcovered.2
      have haccount := (hq survey ⟨key.2, hknown⟩).1 hid
      rw [if_pos ((Store.countsTo_iff hst).2 ⟨hcovered.1, survey, hknown, haccount⟩)]
  · rw [if_neg hcovered]
    exact Nat.zero_le _

/-- The log of an account shows what a quota on its surveys tracks. -/
theorem Quota.sees_accountLog {account : AccountId} (hst : st.Consistent)
    (h : q.Tracks device ts st)
    (hq : ∀ s, st.Knows s → (q.covers s.id = true ↔ s.account = account)) :
    q.Sees device st (st.accountLog device account) where
  ascending := ImpressionLog.ofHistories_ascending _
  noLeap u hu := by
    -- What the log holds comes from a survey of the account, which the quota covers.
    obtain ⟨history, hmem, huh⟩ := ImpressionLog.mem_ofHistories.1 hu
    obtain ⟨i, survey, hknown, haccount, hh⟩ := (Store.mem_accountHistories hst).1 hmem
    have hid := (hq survey ⟨i, hknown⟩).2 haccount
    rw [hst.keyed _ _ hknown] at hid
    exact h.noLeap i hid history hh u huh
  recorded := by
    have hle : q.totalOn device st History.recorded ≤ _ :=
      Quota.totalOn_le_accountHistories hst hq fun history hunshown => by
        rw [History.recorded, hunshown.2]
        rfl
    rw [Store.accountLog, ImpressionLog.count_ofHistories]
    unfold History.recorded at *
    omega
  kept c := by
    rw [Store.accountLog, ImpressionLog.younger_ofHistories]
    apply Quota.totalOn_le_accountHistories hst hq
    intro history hunshown
    rw [History.youngerKept, hunshown.1]
    rfl

/-- The log that the cap of a covered survey looks at counts at least what the store keeps. -/
theorem capLog_sees (hq : q.Governs st.Knows) (hst : st.Consistent) (h : q.Tracks device ts st)
    (hs : st.surveys.get? id = some s) (hid : q.covers id = true) :
    ∃ log, capLog st.reads s device = .ok log ∧ q.Sees device st log := by
  have hkey := hst.keyed id s hs
  have hcap : s.cap = q.cap := (hq.carried s ⟨id, hs⟩ (by rwa [hkey])).1
  -- The scope says which log the cap looks at and which surveys the quota covers.
  cases hscope : q.cap.scope with
  | perSurvey =>
    obtain ⟨only, honly⟩ := hq.oneSurvey hscope
    obtain rfl := (honly id).1 hid
    refine ⟨_, ?_, Quota.sees_surveyLog hst h honly⟩
    rw [capLog_of_perSurvey st.reads s (by rw [hcap, hscope]), hkey]
    exact ⟨_, rfl, rfl⟩
  | perAccount =>
    obtain ⟨account, haccount⟩ := hq.oneAccount hscope
    have howner := (haccount s ⟨id, hs⟩).1 (by rwa [hkey])
    refine ⟨_, ?_, Quota.sees_accountLog hst h haccount⟩
    rw [capLog_of_perAccount st.reads s (by rw [hcap, hscope]), howner]
    rfl

end

end SurveyGate
