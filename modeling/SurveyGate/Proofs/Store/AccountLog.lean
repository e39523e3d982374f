import SurveyGate.Proofs.Store.Ledger

/-!
# `SurveyGate.Proofs.Store.AccountLog`: the impressions of an account

The impressions of a survey count to the account that owns it. Two kinds of writes tell the owner. A
survey that is put in is owned by its own account from then on, and an impression of a survey
without an owner names one. `ownerAfter` reads the owner off the writes: the account of the survey
that was put in last, or else the one that was named first. That is what the store has
(`owners_written`).

`accountLog_written` states what the log of an account on a device is after writes to a store that
keeps all impressions: each impression of a survey that the account owns now, once, earliest first.
-/

set_option autoImplicit false

namespace SurveyGate

/-- The survey that a write puts in under a number. -/
def Write.inserted? (id : SurveyId) : Write → Option Survey
  | .insertSurvey survey => if survey.id = id then some survey else none
  | _ => none

/-- The account that a write names with an impression of a survey. -/
def Write.named? (id : SurveyId) : Write → Option AccountId
  | .impression _ account i _ => if i = id then some account else none
  | _ => none

/-- The survey that was last put in under a number. -/
def lastInserted (ws : List Write) (id : SurveyId) : Option Survey :=
  (ws.filterMap (Write.inserted? id)).getLast?

/-- The account that the first impression of a survey names, on whatever device. -/
def firstNamed (ws : List Write) (id : SurveyId) : Option AccountId :=
  (ws.filterMap (Write.named? id)).head?

/-- The account that owns a survey after writes. -/
def ownerAfter (ws : List Write) (id : SurveyId) : Option AccountId :=
  ((lastInserted ws id).map Survey.account).or (firstNamed ws id)

/-- The instants of all impressions on a device of the surveys that an account owns after writes. -/
def shownFor (ws : List Write) (device : DeviceId) (account : AccountId) : List Instant :=
  shownIn (fun key => key.1 == device && ownerAfter ws key.2 == some account) ws

/-- One more write is the last one that may insert the survey. -/
theorem lastInserted_concat (ws : List Write) (w : Write) (id : SurveyId) :
    lastInserted (ws ++ [w]) id = (w.inserted? id).or (lastInserted ws id) := by
  rw [lastInserted, List.filterMap_append, List.getLast?_append, List.filterMap_cons]
  cases w.inserted? id <;> rfl

/-- One more write names the owner only where none did before. -/
theorem firstNamed_concat (ws : List Write) (w : Write) (id : SurveyId) :
    firstNamed (ws ++ [w]) id = (firstNamed ws id).or (w.named? id) := by
  rw [firstNamed, List.filterMap_append, List.head?_append, List.filterMap_cons]
  cases w.named? id <;> rfl

/-- A survey that is put in replaces the owner; an impression only gives one. -/
theorem ownerAfter_concat (ws : List Write) (w : Write) (id : SurveyId) :
    ownerAfter (ws ++ [w]) id =
      ((w.inserted? id).map Survey.account).or ((ownerAfter ws id).or (w.named? id)) := by
  rw [ownerAfter, lastInserted_concat, firstNamed_concat, Option.map_or, ownerAfter,
    Option.or_assoc, Option.or_assoc]

/-- A survey that is put in takes its impressions along to its account. -/
theorem shownFor_insertSurvey (ws : List Write) (survey : Survey) (device : DeviceId)
    (account : AccountId) :
    shownFor (ws ++ [.insertSurvey survey]) device account =
      shownIn (fun key => key.1 == device &&
        (if survey.id = key.2 then some survey.account else ownerAfter ws key.2) ==
          some account) ws := by
  have howner (id : SurveyId) : ownerAfter (ws ++ [.insertSurvey survey]) id =
      if survey.id = id then some survey.account else ownerAfter ws id := by
    rw [ownerAfter_concat]
    show ((if survey.id = id then some survey else none).map _).or (Option.or _ none) = _
    rw [Option.or_none]
    split <;> rfl
  simp only [shownFor, howner, shownIn_concat]
  exact List.append_nil _

namespace Store

variable {st : Store}

/-- A write changes the surveys by what it inserts. -/
theorem surveys_write (st : Store) (w : Write) (id : SurveyId) :
    (st.write w).surveys.get? id = (w.inserted? id).or (st.surveys.get? id) := by
  cases w with
  | insertSurvey survey =>
    show (st.surveys.put survey.id survey).get? id =
      (if survey.id = id then some survey else none).or _
    rw [Table.get?_put]
    split <;> rfl
  | impression device account i t =>
    show (st.recordImpression device account i t).surveys.get? id = _
    rw [recordImpression_eq]
    rfl
  | loadRows i rows limit =>
    show (st.loadRows i rows limit).2.surveys.get? id = _
    rw [loadRows_eq]
    rfl
  | _ => rfl

/-- In the store, too, a survey that is put in replaces its owner, and an impression only gives it
one. -/
theorem owners_write (st : Store) (w : Write) (id : SurveyId) :
    (st.write w).owners.get? id =
      ((w.inserted? id).map Survey.account).or ((st.owners.get? id).or (w.named? id)) := by
  cases w with
  | insertSurvey survey =>
    show (st.owners.put survey.id survey.account).get? id =
      ((if survey.id = id then some survey else none).map _).or (Option.or _ none)
    rw [Table.get?_put, Option.or_none]
    split <;> rfl
  | impression device account i t =>
    show (st.recordImpression device account i t).owners.get? id =
      Option.or none ((st.owners.get? id).or (if i = id then some account else none))
    rw [recordImpression_eq, Option.none_or]
    show (st.ownersNaming i account).get? id = _
    rw [get?_ownersNaming]
    split
    · rename_i heq
      rw [heq]
      cases st.owners.get? id <;> rfl
    · rw [Option.or_none]
  | loadRows i rows limit =>
    show (st.loadRows i rows limit).2.owners.get? id = _
    rw [loadRows_eq]
    exact (Option.or_none ..).symm
  | _ => exact (Option.or_none ..).symm

/-- A store holds the surveys that were put in last. -/
theorem surveys_written (retention : Option Int) (ws : List Write) (id : SurveyId) :
    ((keeping retention).written ws).surveys.get? id = lastInserted ws id := by
  induction ws using List.reverseRecOn with
  | nil => rfl
  | append_singleton ws w ih => rw [written_concat, surveys_write, ih, lastInserted_concat]

/-- The owner of a survey in the store is the one that the writes tell. -/
theorem owners_written (retention : Option Int) (ws : List Write) (id : SurveyId) :
    ((keeping retention).written ws).owners.get? id = ownerAfter ws id := by
  induction ws using List.reverseRecOn with
  | nil => rfl
  | append_singleton ws w ih => rw [written_concat, owners_write, ih, ownerAfter_concat]

/-- A store that keeps all impressions has those of the surveys of an account in its log. -/
theorem lists_shownFor (ws : List Write) (device : DeviceId) (account : AccountId) :
    (((keeping none).written ws).accountLog device account).Lists (shownFor ws device account)
      fun _ => True := by
  have hcounts : ((keeping none).written ws).countsTo device account =
      fun key => key.1 == device && ownerAfter ws key.2 == some account := by
    funext key
    rw [countsTo, owners_written]
  exact lists_all (retention_written _ ws) (lists_accountLog hcounts)

/-- The log of an account does not depend on the order in which histories are found. -/
theorem accountLog_of_perm (order : Table (DeviceId × SurveyId) History)
    (h : order.entries.Perm st.histories.entries) (device : DeviceId) (account : AccountId) :
    ({ st with histories := order } : Store).accountLog device account =
      st.accountLog device account :=
  ImpressionLog.ofHistories_of_perm ((h.filter _).map _)

end Store

/-- After any writes to a store that keeps all impressions, the log of an account on a device

- lists the instants of the impressions on the device of all surveys that the account owns, each
  once for each time that it was recorded, earliest first;
- counts them, up to the largest number that its counter holds;
- is the same in whatever order the histories of the store are found.

A survey that is put in next takes its impressions along to its account. Each survey that the store
holds is the one that was put in last, and is owned by its own account. -/
theorem accountLog_written (ws : List Write) (device : DeviceId) (account : AccountId) :
    let st := (Store.keeping none).written ws
    let log := st.accountLog device account
    Ascending log.instants ∧
    log.instants.Perm (shownFor ws device account) ∧
    log.count.toNat = min (shownFor ws device account).length maxCount ∧
    (∀ order : Table (DeviceId × SurveyId) History, order.entries.Perm st.histories.entries →
      ({ st with histories := order } : Store).accountLog device account = log) ∧
    (∀ survey : Survey, ((st.insertSurvey survey).accountLog device account).instants.Perm
      (shownIn (fun key => key.1 == device &&
        (if survey.id = key.2 then some survey.account else ownerAfter ws key.2) ==
          some account) ws)) ∧
    ∀ id survey, st.survey id = .ok survey →
      lastInserted ws id = some survey ∧ st.owners.get? id = some survey.account := by
  intro st log
  have hlists : log.Lists _ _ := Store.lists_shownFor ws device account
  refine ⟨hlists.ascending, hlists.perm fun _ => trivial, hlists.recorded, fun order horder => ?_,
    fun survey => ?_, fun id survey hsurvey => ?_⟩
  · exact Store.accountLog_of_perm order horder device account
  · have hnext := Store.lists_shownFor (ws ++ [.insertSurvey survey]) device account
    rw [shownFor_insertSurvey, Store.written_concat] at hnext
    exact hnext.perm fun _ => trivial
  · have hlast : lastInserted ws id = some survey := by
      rw [← Store.surveys_written none ws id]
      exact Store.survey_eq_ok_iff.1 hsurvey
    have howner : st.owners.get? id = ownerAfter ws id := Store.owners_written none ws id
    rw [howner, ownerAfter, hlast]
    exact ⟨rfl, rfl⟩

/-! ### A survey that changes its account -/

/-- The survey under another account. -/
def movedSurvey : Survey := Survey.draft ⟨1⟩ ⟨8⟩ "NPS"

/-- Two surveys are shown for an account; then one of them is put in for another account. -/
def movedWrites : List Write :=
  [.impression ⟨"tab"⟩ ⟨7⟩ ⟨2⟩ (.atHour 3), .impression ⟨"tab"⟩ ⟨7⟩ ⟨1⟩ (.atHour 2),
    .insertSurvey movedSurvey, .impression ⟨"tab"⟩ ⟨7⟩ ⟨1⟩ (.atHour 1),
    .impression ⟨"phone"⟩ ⟨8⟩ ⟨2⟩ (.atHour 0)]

/-- All impressions of the survey count to its new account, those from before as well. -/
theorem accountLog_written_moved :
    let st := (Store.keeping none).written movedWrites
    (st.accountLog ⟨"tab"⟩ ⟨7⟩).instants = [.atHour 3] ∧
      (st.accountLog ⟨"tab"⟩ ⟨8⟩).instants = [.atHour 1, .atHour 2] ∧
      (st.accountLog ⟨"tab"⟩ ⟨8⟩).count.toNat = 2 ∧
      (∃ order : Table (DeviceId × SurveyId) History,
        order.entries = st.histories.entries.reverse ∧
        ({ st with histories := order } : Store).accountLog ⟨"tab"⟩ ⟨8⟩ =
          st.accountLog ⟨"tab"⟩ ⟨8⟩) ∧
      st.survey ⟨1⟩ = .ok movedSurvey ∧ st.owners.get? ⟨1⟩ = some ⟨8⟩ := by
  intro st
  obtain ⟨-, hother, -⟩ := accountLog_written movedWrites ⟨"tab"⟩ ⟨7⟩
  obtain ⟨hasc, hperm, hcount, horder, -, howns⟩ := accountLog_written movedWrites ⟨"tab"⟩ ⟨8⟩
  have hshown : shownFor movedWrites ⟨"tab"⟩ ⟨8⟩ = [.atHour 2, .atHour 1] := by decide
  have hsorted : Ascending [.atHour 1, .atHour 2] := by
    show List.Pairwise _ _
    decide
  rw [hshown] at hperm hcount
  have hnodup : (st.histories.entries.reverse.map Prod.fst).Nodup := by
    rw [List.map_reverse]
    exact (List.reverse_perm _).nodup_iff.2 st.histories.nodup
  exact ⟨List.perm_singleton.1 hother, hasc.eq_of_perm hsorted (hperm.trans (.swap ..)), hcount,
    ⟨⟨_, hnodup⟩, rfl, horder _ (List.reverse_perm _)⟩, rfl, (howns ⟨1⟩ movedSurvey rfl).2⟩

end SurveyGate
