import SurveyGate.Proofs.Store.AccountLog
import SurveyGate.Proofs.Store.Waiting

/-!
# `SurveyGate.Proofs.Store.Spending`: decisions as more is served

Impressions and submissions use up what a survey grants: places below its goal and below its cap.
They never give anything back. A write of this kind (`Write.Spends`) leaves surveys, triggers and
the memory of completions and dismissals alone and takes no submission away (`Store.Spent`, a
relation that holds between the stores before and after any number of such writes).

The log of a cap needs the whole run of writes. An impression may name the owner of a survey and so
bring the survey into the log of an account, but it takes none out of it: all instants that were
listed before are listed afterwards (`shownFor_sublist`), so a cap that is below its limit afterwards
was below it before (`CapState.compute_below_of_sublist`).

`decide_spent` puts this together for a store that keeps all impressions. With retention it would
not hold, since an impression may then take older ones away.
-/

set_option autoImplicit false

namespace SurveyGate

/-- Whether a write shows a survey or counts a submission. -/
def Write.Spends : Write → Prop
  | .impression .. => True
  | .addSubmission _ => True
  | _ => False

/-- What a history remembers besides impressions: the latest completion and the dismissal recorded
last. -/
def History.remembered (h : History) : Option Instant × Option Instant :=
  (h.lastCompleted, h.dismissed)

/-- Whether a survey was closed without an answer is told by what is remembered. -/
theorem History.dismissedWithoutAnswer_congr {h h' : History} (heq : h.remembered = h'.remembered) :
    h.dismissedWithoutAnswer = h'.dismissedWithoutAnswer := by
  obtain ⟨hcompleted, hdismissed⟩ := Prod.mk.inj heq
  unfold dismissedWithoutAnswer
  rw [hcompleted, hdismissed]

/-! ### What is left alone -/

namespace Store

/-- What a store remembers of a survey on a device besides impressions. -/
def remembered (st : Store) (device : DeviceId) (id : SurveyId) :
    Option Instant × Option Instant :=
  ((st.history device id).getD .empty).remembered

/-- One store is another one after impressions and submissions, as far as this can be told without
looking at impressions. -/
structure Spent (st st' : Store) : Prop where
  surveys : st'.surveys = st.surveys
  triggers : st'.triggers = st.triggers
  submissions : ∀ id, (st.submissionsOf id).toNat ≤ (st'.submissionsOf id).toNat
  remembered : ∀ device id, st'.remembered device id = st.remembered device id

section
variable {st st' st'' : Store}

/-- A store is what it was when nothing was spent. -/
theorem Spent.refl (st : Store) : st.Spent st :=
  ⟨rfl, rfl, fun _ => Nat.le_refl _, fun _ _ => rfl⟩

/-- What was spent step by step was spent in all. -/
theorem Spent.trans (h : st.Spent st') (h' : st'.Spent st'') : st.Spent st'' where
  surveys := h'.surveys.trans h.surveys
  triggers := h'.triggers.trans h.triggers
  submissions id := Nat.le_trans (h.submissions id) (h'.submissions id)
  remembered device id := (h'.remembered device id).trans (h.remembered device id)

/-- Recording an impression, retention included, changes nothing that is remembered. -/
theorem remembered_recordImpression (st : Store) (t : Instant) (h : History) :
    (st.retain t (h.recordImpression t)).remembered = h.remembered := by
  unfold retain
  split <;> rfl

/-- One more submission never makes fewer; a full counter stays full. -/
theorem submissionsOf_addSubmission (st : Store) (id i : SurveyId) :
    (st.submissionsOf i).toNat ≤ ((st.addSubmission id).submissionsOf i).toNat := by
  show _ ≤ (((st.submissions.put id _).get? i).getD 0).toNat
  rw [Table.get?_put]
  split
  · rename_i heq
    subst heq
    have hsum := addCounts_toNat (st.submissionsOf id) 1
    have hmax := toNat_le_maxCount (st.submissionsOf id)
    show _ ≤ (addCounts (st.submissionsOf id) 1).toNat
    omega
  · exact Nat.le_refl _

/-- A write that spends leaves a store in which more was spent. -/
theorem spent_write (st : Store) {w : Write} (hw : w.Spends) : st.Spent (st.write w) := by
  cases w with
  | impression device account id t =>
    show st.Spent (st.recordImpression device account id t)
    rw [recordImpression_eq]
    refine { Spent.refl st with remembered := fun d i => ?_ }
    show (((st.editHistory device id fun h => st.retain t (h.recordImpression t)).history d
      i).getD .empty).remembered = (st.remembered d i)
    rw [getD_history_editHistory]
    split
    · exact remembered_recordImpression st t _
    · rfl
  | addSubmission id =>
    exact { Spent.refl st with submissions := submissionsOf_addSubmission st id }
  | _ => cases hw

/-- Writes that spend leave a store in which more was spent. -/
theorem spent_written (st : Store) {more : List Write} (hmore : ∀ w ∈ more, w.Spends) :
    st.Spent (st.written more) := by
  induction more generalizing st with
  | nil => exact Spent.refl st
  | cons w more ih =>
    obtain ⟨hw, hrest⟩ := List.forall_mem_cons.1 hmore
    exact (spent_write st hw).trans (ih (st.write w) hrest)

/-- The same surveys with the same triggers are there afterwards. -/
theorem Spent.load_eq (h : st.Spent st') (id : SurveyId) :
    load st'.reads id = load st.reads id := by
  have hsurvey : st'.reads.survey id = st.reads.survey id := by
    show st'.survey id = _
    rw [Store.survey, h.surveys]
    rfl
  have htriggers : st'.reads.triggers id = st.reads.triggers id := by
    show Except.ok (st'.triggersOf id) = _
    rw [triggersOf, h.triggers]
    rfl
  rw [load, hsurvey, htriggers]
  rfl

/-- Where nothing happened, no completion is remembered. -/
theorem bind_lastCompleted (st : Store) (device : DeviceId) (id : SurveyId) :
    (st.history device id).bind History.lastCompleted = (st.remembered device id).1 := by
  unfold remembered
  cases st.history device id <;> rfl

end

end Store

/-! ### What is listed for a cap -/

section
variable {ws more : List Write} {picks picks' : DeviceId × SurveyId → Bool}

/-- What is listed stays listed as more histories are picked and more is written. -/
theorem shownIn_sublist (hpicks : ∀ key, picks key = true → picks' key = true)
    (ws more : List Write) : (shownIn picks ws).Sublist (shownIn picks' (ws ++ more)) := by
  induction ws with
  | nil => exact List.nil_sublist _
  | cons w ws ih =>
    rw [List.cons_append, shownIn, shownIn, List.filterMap_cons, List.filterMap_cons]
    -- A write that is listed stays listed; one that is not may be from now on.
    cases hshown : w.shown? picks with
    | none =>
      refine ih.trans ?_
      cases w.shown? picks' with
      | none => exact List.Sublist.refl _
      | some u => exact List.sublist_cons_self u _
    | some t =>
      have hshown' : w.shown? picks' = some t := by
        cases w with
        | impression device account id u =>
          have hpick : (if picks (device, id) then some u else none) = some t := hshown
          split at hpick
          · rename_i hp
            rw [Write.shown?, if_pos (hpicks _ hp), hpick]
          · cases hpick
        | _ => cases hshown
      rw [hshown']
      exact ih.cons_cons t

/-- Impressions and submissions leave a survey the owner that it has. -/
theorem ownerAfter_append {account : AccountId} {id : SurveyId} (hmore : ∀ w ∈ more, w.Spends)
    (h : ownerAfter ws id = some account) : ownerAfter (ws ++ more) id = some account := by
  induction more using List.reverseRecOn with
  | nil => rwa [List.append_nil]
  | append_singleton more w ih =>
    have hbefore := ih fun w' hw' => hmore w' (List.mem_append_left _ hw')
    -- Only a survey that is put in takes the place of an owner.
    have hinserted : w.inserted? id = none := by
      have hw : w.Spends := hmore w (List.mem_append_right _ List.mem_cons_self)
      cases w with
      | insertSurvey => cases hw
      | _ => rfl
    rw [← List.append_assoc, ownerAfter_concat, hinserted, hbefore]
    rfl

/-- The impressions that count to an account still do. -/
theorem shownFor_sublist (hmore : ∀ w ∈ more, w.Spends) (device : DeviceId)
    (account : AccountId) :
    (shownFor ws device account).Sublist (shownFor (ws ++ more) device account) := by
  refine shownIn_sublist (fun key hkey => ?_) ws more
  rw [Bool.and_eq_true, beq_iff_eq, beq_iff_eq] at hkey ⊢
  exact ⟨hkey.1, ownerAfter_append hmore hkey.2⟩

end

/-- A window that holds fewer than a number of some instants holds fewer of a part of them. -/
theorem CapState.length_inWindow_le_of_subperm {ts us : List Instant} (hts : Ascending ts)
    (hus : Ascending us) (h : ts.Subperm us) (seconds : Nat) (now : Instant) :
    (inWindow seconds now ts).length ≤ (inWindow seconds now us).length := by
  cases hbefore : now.before seconds with
  | none =>
    rw [inWindow_of_before_eq_none hbefore, inWindow_of_before_eq_none hbefore]
    exact h.length_le
  | some start =>
    rw [inWindow_of_before hts hbefore, inWindow_of_before hus hbefore,
      ← List.countP_eq_length_filter, ← List.countP_eq_length_filter]
    exact h.countP_le _

/-- A cap that is not reached by a log is not reached by one that lists a part of it. -/
theorem CapState.compute_below_of_sublist {cap : FrequencyCap} {log log' : ImpressionLog}
    {ts ts' : List Instant} {now : Instant} (hlog : log.Lists ts fun _ => True)
    (hlog' : log'.Lists ts' fun _ => True) (hsub : ts.Sublist ts')
    (h : compute cap log' now = .below) : compute cap log now = .below := by
  have hperm := hlog.perm fun _ => trivial
  have hperm' := hlog'.perm fun _ => trivial
  have hsubperm : log.instants.Subperm log'.instants :=
    hperm.subperm.trans (hsub.subperm.trans hperm'.symm.subperm)
  rw [compute_eq_below_iff] at h ⊢
  intro henabled hlimit
  obtain ⟨hwindowed, hlifelong⟩ := h henabled hlimit
  refine ⟨fun window hwindow => ?_, fun hwindow => ?_⟩
  · have hfewer := length_inWindow_le_of_subperm hlog.ascending hlog'.ascending hsubperm
      window.seconds now
    have hroom := hwindowed window hwindow
    omega
  · -- The counters are those of the lists, as far as they reach.
    have hroom := hlifelong hwindow
    have hcount := hlog.recorded
    have hcount' := hlog'.recorded
    have hlength := hsub.length_le
    have hkept := hsubperm.length_le
    omega

/-! ### Decisions -/

namespace Store

section
variable {ws more : List Write} {s : Survey} {v : Visitor}

/-- A store that keeps all impressions has those of a survey on a device in its log. -/
theorem lists_shownOn (ws : List Write) (device : DeviceId) (id : SurveyId) :
    (((keeping none).written ws).surveyLog device id).Lists (shownIn (· == (device, id)) ws)
      fun _ => True := by
  have hone (key : DeviceId × SurveyId) : (key == (device, id)) = true ↔ key = (device, id) :=
    beq_iff_eq
  exact lists_all (retention_written _ ws) (lists_surveyLog none ws hone)

/-- A cap over the log of a survey that is not reached was not reached before. -/
theorem surveyLog_below_of_spent (ws more : List Write) (device : DeviceId) (id : SurveyId)
    {cap : FrequencyCap} {now : Instant}
    (h : CapState.compute cap (((keeping none).written (ws ++ more)).surveyLog device id) now =
      .below) :
    CapState.compute cap (((keeping none).written ws).surveyLog device id) now = .below :=
  CapState.compute_below_of_sublist (lists_shownOn ws device id)
    (lists_shownOn (ws ++ more) device id) (shownIn_sublist (fun _ h => h) ws more) h

/-- A cap over the log of an account that is not reached was not reached before. -/
theorem accountLog_below_of_spent (hmore : ∀ w ∈ more, w.Spends) (device : DeviceId)
    (account : AccountId) {cap : FrequencyCap} {now : Instant}
    (h : CapState.compute cap (((keeping none).written (ws ++ more)).accountLog device account)
      now = .below) :
    CapState.compute cap (((keeping none).written ws).accountLog device account) now = .below :=
  CapState.compute_below_of_sublist (lists_shownFor ws device account)
    (lists_shownFor (ws ++ more) device account) (shownFor_sublist hmore device account) h

/-- A survey that allows a visitor after more was served allowed the visitor before. -/
theorem allows_of_spent (hmore : ∀ w ∈ more, w.Spends)
    (h : s.Allows ((keeping none).written (ws ++ more)).reads v) :
    s.Allows ((keeping none).written ws).reads v := by
  have hspent : ((keeping none).written ws).Spent ((keeping none).written (ws ++ more)) := by
    rw [written_append]
    exact spent_written _ hmore
  exact {
    live := h.live
    started := h.started
    notEnded := h.notEnded
    belowGoal := fun n hn => by
      obtain rfl := Except.ok.inj hn
      have hroom := h.belowGoal _ rfl
      have hmade := hspent.submissions s.id
      rw [UInt64.lt_iff_toNat_lt] at hroom ⊢
      exact Nat.lt_of_le_of_lt hmade hroom
    enabledFor := h.enabledFor
    belowSurveyCap := fun hi he hscope device hd history hread => by
      obtain rfl := Except.ok.inj hread
      exact surveyLog_below_of_spent ws more device s.id
        (h.belowSurveyCap hi he hscope device hd _ rfl)
    belowAccountCap := fun hi he hscope device hd log hread => by
      obtain rfl := Except.ok.inj hread
      exact accountLog_below_of_spent hmore device s.account
        (h.belowAccountCap hi he hscope device hd _ rfl)
    mayRefire := fun device hd history hread => by
      obtain rfl := Except.ok.inj hread
      have hmay := h.mayRefire device hd _ rfl
      rw [RefireState.compute_may_iff, bind_lastCompleted] at hmay ⊢
      rwa [hspent.remembered] at hmay
    notDismissed := fun hstops device hd history hread => by
      -- Where there is no history afterwards, there is no dismissal either.
      have hsame := hspent.remembered device s.id
      have hhistory := Except.ok.inj hread
      rw [remembered, remembered, hhistory] at hsame
      show ((some history).getD .empty).dismissedWithoutAnswer = false
      rw [← History.dismissedWithoutAnswer_congr hsame]
      cases hlater : ((keeping none).written (ws ++ more)).history device s.id with
      | none => rfl
      | some later => exact h.notDismissed hstops device hd later (congrArg Except.ok hlater) }

end

end Store

/-- Serving more never makes a survey eligible. After any writes to a store that keeps all
impressions, a survey that is not shown to a visitor is not shown to the same visitor after any
impressions and submissions either. The impressions may be of any survey, for any account, on any
device and at any instant, before or after that of the request, and the counters may be full. -/
theorem decide_spent (ws : List Write) {more : List Write} (hmore : ∀ w ∈ more, w.Spends)
    (id : SurveyId) {v : Visitor} (hpage : v.PageIsFixed) {calls : List PageCall}
    (h : (decide ((Store.keeping none).written ws).reads id v calls).1 = false)
    (calls' : List PageCall) :
    (decide (((Store.keeping none).written ws).written more).reads id v calls').1 = false := by
  have hspent := Store.spent_written ((Store.keeping none).written ws) hmore
  rw [← Bool.not_eq_true] at h ⊢
  -- The other way around: a survey that is shown afterwards was shown before.
  intro hshown
  have hbefore : decide ((Store.keeping none).written ws).reads id v calls' =
      decide (((Store.keeping none).written ws).written more).reads id v calls' := by
    refine decide_mono (hspent.load_eq id) (fun _ => rfl) (fun s _ hallows => ?_) hshown
    rw [← Store.written_append] at hallows
    exact Store.allows_of_spent hmore hallows
  apply h
  rw [decide_calls hpage calls calls', hbefore]
  exact hshown

/-! ### A goal that no counter can pass -/

/-- A live survey whose goal is the largest number of submissions that can be counted. -/
def endlessSurvey : Survey :=
  ((Survey.draft ⟨1⟩ ⟨7⟩ "NPS").edit (.status .live)).edit (.goal (.ofNat maxCount))

/-- The survey has reached its goal; another one of the account has reached its cap. -/
def spentWrites : List Write :=
  [.insertSurvey endlessSurvey, .setSubmissions ⟨1⟩ (.ofNat maxCount),
    .insertSurvey { dailySurvey with id := ⟨2⟩ }, .impression ⟨"tab"⟩ ⟨7⟩ ⟨2⟩ (.atHour 1)]

/-- One more submission, and impressions before and after the instant of a request. -/
def moreWrites : List Write :=
  [.addSubmission ⟨1⟩, .impression ⟨"tab"⟩ ⟨7⟩ ⟨2⟩ (.atHour 0),
    .impression ⟨"tab"⟩ ⟨7⟩ ⟨3⟩ .latest]

/-- The counter of submissions is full and does not begin again, so neither survey comes back. -/
theorem decide_spent_endless :
    let st := (Store.keeping none).written spentWrites
    let v := tabVisitor (.atHour 1)
    ((∀ w ∈ moreWrites, w.Spends) ∧ v.PageIsFixed ∧
      (decide st.reads ⟨1⟩ v []).1 = false ∧ (decide st.reads ⟨2⟩ v []).1 = false) ∧
    (st.submissionsOf ⟨1⟩).toNat = maxCount ∧
    ((st.written moreWrites).submissionsOf ⟨1⟩).toNat = maxCount ∧
    (decide (st.written moreWrites).reads ⟨1⟩ v []).1 = false ∧
    (decide (st.written moreWrites).reads ⟨2⟩ v []).1 = false := by
  intro st v
  have hmore : ∀ w ∈ moreWrites, w.Spends := by
    simp only [moreWrites, List.forall_mem_cons, Write.Spends, List.not_mem_nil, false_implies,
      implies_true, and_self]
  have hpage : v.PageIsFixed := tabVisitor_pageIsFixed _
  have hgoal : (decide st.reads ⟨1⟩ v []).1 = false := by decide +kernel
  have hcap : (decide st.reads ⟨2⟩ v []).1 = false := by decide +kernel
  exact ⟨⟨hmore, hpage, hgoal, hcap⟩, by decide +kernel, by decide +kernel,
    decide_spent spentWrites hmore ⟨1⟩ hpage hgoal [],
    decide_spent spentWrites hmore ⟨2⟩ hpage hcap []⟩

end SurveyGate
