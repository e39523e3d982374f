import Mathlib.Data.List.Induction
import SurveyGate.Proofs.Store.CapLog
import SurveyGate.Proofs.Store.Writes

/-!
# `SurveyGate.Proofs.Store.Ledger`: impressions written and impressions kept

`shownIn` are the instants of the impressions that writes record in some picked histories, whatever
the store keeps of them. `Store.Holds` relates them to the store: the picked histories together hold
each of these instants as often as it was written, unless retention reaches it (`Store.Spares`),
hold no more instants than were written, and count all of them up to the largest value of a counter.
A write keeps this relation (`Holds.write`), so it holds after every run of writes
(`holds_written`).

A cap looks at one history or at those of an account. Either log `Lists` what was written to the
histories that it is made of (`Holds.surveyLog`, `Holds.accountLog`).
-/

set_option autoImplicit false

namespace SurveyGate

/-- The instant of a write that is an impression in a picked history. -/
def Write.shown? (picks : DeviceId × SurveyId → Bool) : Write → Option Instant
  | .impression device _ id t => if picks (device, id) then some t else none
  | _ => none

/-- The instants of the impressions in picked histories, in the order in which they are written. -/
def shownIn (picks : DeviceId × SurveyId → Bool) (ws : List Write) : List Instant :=
  ws.filterMap (Write.shown? picks)

/-- One more write adds the impression it shows, if any. -/
theorem shownIn_concat (picks : DeviceId × SurveyId → Bool) (ws : List Write) (w : Write) :
    shownIn picks (ws ++ [w]) = shownIn picks ws ++ (w.shown? picks).toList := by
  rw [shownIn, List.filterMap_append]
  rfl

/-- What was shown was shown by one of the writes. -/
theorem exists_impression_of_mem_shownIn {picks : DeviceId × SurveyId → Bool} {ws : List Write}
    {t : Instant} (h : t ∈ shownIn picks ws) :
    ∃ device account id, Write.impression device account id t ∈ ws := by
  obtain ⟨w, hw, hshown⟩ := List.mem_filterMap.1 h
  cases w with
  | impression device account id u =>
    have hpick : (if picks (device, id) then some u else none) = some t := hshown
    split at hpick
    · obtain rfl := Option.some.inj hpick
      exact ⟨device, account, id, hw⟩
    · cases hpick
  | _ => cases hshown

/-- A log lists instants: each that is spared as often as it is one of them, and no more instants
than there are. It counts all of them. -/
structure ImpressionLog.Lists (log : ImpressionLog) (ts : List Instant) (spared : Instant → Prop) :
    Prop where
  ascending : Ascending log.instants
  kept : ∀ u, spared u → log.instants.count u = ts.count u
  within : log.instants.length ≤ ts.length
  recorded : log.count.toNat = min ts.length maxCount

/-- A log that spares every instant lists the instants in some order. -/
theorem ImpressionLog.Lists.perm {log : ImpressionLog} {ts : List Instant}
    {spared : Instant → Prop} (h : log.Lists ts spared) (hall : ∀ u, spared u) :
    log.instants.Perm ts :=
  List.perm_iff_count.2 fun u => h.kept u (hall u)

namespace Store

/-- The impressions of a survey on a device. -/
def surveyLog (st : Store) (device : DeviceId) (id : SurveyId) : ImpressionLog :=
  ((st.history device id).map ImpressionLog.ofHistory).getD .empty

/-- Retention at any of the instants does not reach an instant. -/
def Spares (st : Store) (ts : List Instant) (u : Instant) : Prop :=
  ∀ t ∈ ts, ∀ cutoff, (st.retention.bind fun nanos => t.shiftNanos (-nanos)) = some cutoff →
    cutoff ≤ u

/-- The picked histories of a store hold what was written to them. -/
structure Holds (st : Store) (picks : DeviceId × SurveyId → Bool) (ts : List Instant) : Prop where
  kept : ∀ u, st.Spares ts u → st.tally picks (fun h => h.impressions.count u) = ts.count u
  within : st.tally picks (fun h => h.impressions.length) ≤ ts.length
  recorded : min (st.tally picks History.recorded) maxCount = min ts.length maxCount

section
variable {st : Store} {picks : DeviceId × SurveyId → Bool} {ts : List Instant}
  {device : DeviceId} {id : SurveyId} {t u : Instant}

/-- An instant that is spared at two lists is spared at the first. -/
theorem Spares.left {us : List Instant} (h : st.Spares (ts ++ us) u) : st.Spares ts u :=
  fun t ht => h t (List.mem_append_left us ht)

/-- An instant that is spared at two lists is spared at the second. -/
theorem Spares.right {us : List Instant} (h : st.Spares (ts ++ us) u) : st.Spares us u :=
  fun t ht => h t (List.mem_append_right ts ht)

/-- Without retention every instant is spared. -/
theorem spares_of_none (h : st.retention = none) (ts : List Instant) (u : Instant) :
    st.Spares ts u := by
  intro t _ cutoff hcutoff
  rw [h] at hcutoff
  cases hcutoff

/-- Without retention a log lists all that it should. -/
theorem lists_all {log : ImpressionLog} {us : List Instant} (h : st.retention = none)
    (hlog : log.Lists ts (st.Spares us)) : log.Lists ts fun _ => True :=
  { hlog with kept := fun u _ => hlog.kept u (spares_of_none h us u) }

/-! ### One more impression -/

/-- Retention takes away no impression that it does not reach. -/
theorem count_retain {h : History} (hasc : Ascending h.impressions) (hu : st.Spares [t] u) :
    (st.retain t h).impressions.count u = h.impressions.count u := by
  unfold retain
  split
  · rename_i cutoff hcutoff
    have hle := hu t List.mem_cons_self cutoff hcutoff
    rw [History.prune_impressions hasc, List.count_filter]
    simp only [Instant.lt_def, Instant.le_def, Bool.not_eq_true', decide_eq_false_iff_not] at hle ⊢
    omega
  · rfl

/-- A recorded impression is kept once more, unless retention reaches it at once. -/
theorem count_recorded {h : History} (hasc : Ascending h.impressions) (hu : st.Spares [t] u) :
    (st.retain t (h.recordImpression t)).impressions.count u =
      h.impressions.count u + [t].count u := by
  rw [count_retain (History.insertInstant_ascending hasc) hu]
  show (History.insertInstant t h.impressions).count u = _
  rw [(History.insertInstant_perm t h.impressions).count_eq, ← List.singleton_append,
    List.count_append, Nat.add_comm]

/-- A record adds one impression at most. -/
theorem length_recorded_le (st : Store) (t : Instant) (h : History) :
    (st.retain t (h.recordImpression t)).impressions.length ≤ h.impressions.length + 1 := by
  have hinsert : (h.recordImpression t).impressions.length = h.impressions.length + 1 :=
    (History.insertInstant_perm t h.impressions).length_eq
  rw [← hinsert]
  unfold retain
  split
  · exact (List.drop_sublist ..).length_le
  · exact Nat.le_refl _

/-! ### What a write keeps -/

/-- A change that leaves the impressions of a picked history alone keeps what the store holds. -/
theorem Holds.editHistory (h : st.Holds picks ts) (edit : History → History)
    (hedit : picks (device, id) = true → ∀ h : History,
      (edit h).impressions = h.impressions ∧ (edit h).impressionCount = h.impressionCount) :
    (st.editHistory device id edit).Holds picks ts where
  kept u hu := by
    rw [tally_editHistory_eq List.count_nil fun hpick history => by rw [(hedit hpick history).1]]
    exact h.kept u hu
  within := by
    rw [tally_editHistory_eq rfl fun hpick history => by rw [(hedit hpick history).1]]
    exact h.within
  recorded := by
    have hsame (hpick : picks (device, id) = true) (history : History) :
        (edit history).recorded = history.recorded := by
      rw [History.recorded, (hedit hpick history).2]
      rfl
    rw [tally_editHistory_eq rfl hsame]
    exact h.recorded

/-- An impression in a picked history is held. -/
theorem Holds.shown (h : st.Holds picks ts) (hst : st.Recorded)
    (hpick : picks (device, id) = true) (t : Instant) :
    (st.editHistory device id fun h => st.retain t (h.recordImpression t)).Holds picks
      (ts ++ [t]) where
  kept u hu := by
    -- Retention is that of the store before.
    have hspared : st.Spares (ts ++ [t]) u := hu
    have hbefore := h.kept u hspared.left
    have htrade := tally_editHistory st (f := fun h => h.impressions.count u)
      List.count_nil hpick fun h => st.retain t (h.recordImpression t)
    rw [count_recorded (hst.ascending_getD device id) hspared.right] at htrade
    rw [List.count_append]
    omega
  within := by
    have hbefore := h.within
    have htrade := tally_editHistory st (f := fun h => h.impressions.length) rfl hpick
      fun h => st.retain t (h.recordImpression t)
    have hlonger := length_recorded_le st t ((st.history device id).getD .empty)
    rw [List.length_append, List.length_singleton]
    omega
  recorded := by
    have hbefore := h.recorded
    have htrade := tally_editHistory st (f := History.recorded) rfl hpick
      fun h => st.retain t (h.recordImpression t)
    have hnew := weight_le_tally st hpick History.recorded
      fun h => st.retain t (h.recordImpression t)
    have hold : ((st.history device id).getD .empty).recorded ≤ maxCount :=
      toNat_le_maxCount _
    simp only [recorded_recorded] at htrade hnew
    rw [List.length_append, List.length_singleton]
    -- A counter that is full stays full, and its history alone makes up the whole count then.
    omega

/-- One more write keeps what the store holds. -/
theorem Holds.write (h : st.Holds picks ts) (hst : st.Recorded) (w : Write) :
    (st.write w).Holds picks (ts ++ (w.shown? picks).toList) := by
  have hnothing (hnone : w.shown? picks = none) : ts ++ (w.shown? picks).toList = ts := by
    rw [hnone, Option.toList_none, List.append_nil]
  cases w with
  | impression device account id t =>
    show (st.recordImpression device account id t).Holds picks _
    rw [recordImpression_eq]
    cases hpick : picks (device, id) with
    | false =>
      rw [hnothing (by simp [Write.shown?, hpick])]
      have hsame : (st.editHistory device id fun h =>
          st.retain t (h.recordImpression t)).Holds picks ts :=
        h.editHistory _ fun hpicked => absurd hpicked (by simp [hpick])
      exact ⟨hsame.kept, hsame.within, hsame.recorded⟩
    | true =>
      have hshown : (Write.impression device account id t).shown? picks = some t := by
        simp [Write.shown?, hpick]
      rw [hshown]
      have hone := h.shown hst hpick t
      exact ⟨hone.kept, hone.within, hone.recorded⟩
  | completion device id t =>
    rw [hnothing rfl]
    exact h.editHistory (·.recordCompletion t) fun _ _ => ⟨rfl, rfl⟩
  | dismissal device id t =>
    rw [hnothing rfl]
    exact h.editHistory (·.recordDismissal t) fun _ _ => ⟨rfl, rfl⟩
  | loadRows id rows limit =>
    rw [hnothing rfl]
    show (st.loadRows id rows limit).2.Holds picks ts
    rw [loadRows_eq]
    exact ⟨h.kept, h.within, h.recorded⟩
  | _ =>
    rw [hnothing rfl]
    exact ⟨h.kept, h.within, h.recorded⟩

/-- After a run of writes the picked histories hold what was written to them. -/
theorem holds_written (retention : Option Int) (picks : DeviceId × SurveyId → Bool)
    (ws : List Write) : ((keeping retention).written ws).Holds picks (shownIn picks ws) := by
  induction ws using List.reverseRecOn with
  | nil =>
    exact {
      kept := fun _ _ => rfl
      within := Nat.le_refl _
      recorded := rfl }
  | append_singleton ws w ih =>
    rw [written_concat, shownIn_concat]
    exact ih.write (recorded_written retention ws) w

/-! ### Logs -/

/-- The log of a survey is that of its history, which may be empty. -/
theorem surveyLog_eq_ofHistory (st : Store) (device : DeviceId) (id : SurveyId) :
    st.surveyLog device id = .ofHistory ((st.history device id).getD .empty) := by
  unfold surveyLog
  cases st.history device id <;> rfl

/-- A history that does not exist weighs what an empty one does. -/
theorem weightAt_history {f : History → Nat} (hf : f .empty = 0) (key : DeviceId × SurveyId)
    (h : Option History) : weightAt (fun _ => f) key h = f (h.getD .empty) := by
  cases h with
  | none => exact hf.symm
  | some h => rfl

/-- The log of a survey lists what was written to its history. -/
theorem Holds.surveyLog (h : st.Holds picks ts) (hst : st.Recorded)
    (hpicks : ∀ key, picks key = true ↔ key = (device, id)) :
    (st.surveyLog device id).Lists ts (st.Spares ts) := by
  rw [surveyLog_eq_ofHistory]
  exact {
    ascending := hst.ascending_getD device id
    kept := fun u hu => by
      rw [← h.kept u hu, tally_of_one hpicks, weightAt_history List.count_nil]
      rfl
    within := by
      have hwithin := h.within
      rwa [tally_of_one hpicks, weightAt_history rfl] at hwithin
    recorded := by
      have hrecorded := h.recorded
      rw [tally_of_one hpicks, weightAt_history rfl] at hrecorded
      rw [← hrecorded]
      exact (Nat.min_eq_left (toNat_le_maxCount _)).symm }

/-- The log of an account lists what was written to the histories that count to it. -/
theorem Holds.accountLog {account : AccountId} (h : st.Holds (st.countsTo device account) ts) :
    (st.accountLog device account).Lists ts (st.Spares ts) where
  ascending := ImpressionLog.ofHistories_ascending _
  kept u hu := by
    rw [← h.kept u hu, tally_countsTo]
    exact ImpressionLog.count_instants_ofHistories u _
  within := by
    have hwithin := h.within
    rw [tally_countsTo] at hwithin
    exact (ImpressionLog.length_instants_ofHistories _).trans_le hwithin
  recorded := by
    rw [← h.recorded, tally_countsTo]
    exact ImpressionLog.count_ofHistories _

/-- After a run of writes the log of a survey lists what was written to its history. -/
theorem lists_surveyLog (retention : Option Int) (ws : List Write)
    (hpicks : ∀ key, picks key = true ↔ key = (device, id)) :
    (((keeping retention).written ws).surveyLog device id).Lists (shownIn picks ws)
      (((keeping retention).written ws).Spares (shownIn picks ws)) :=
  (holds_written retention picks ws).surveyLog (recorded_written retention ws) hpicks

/-- After a run of writes the log of an account lists what was written to the histories that count
to it by then. -/
theorem lists_accountLog {retention : Option Int} {ws : List Write} {account : AccountId}
    (hpicks : ((keeping retention).written ws).countsTo device account = picks) :
    (((keeping retention).written ws).accountLog device account).Lists (shownIn picks ws)
      (((keeping retention).written ws).Spares (shownIn picks ws)) := by
  subst hpicks
  exact (holds_written retention _ ws).accountLog

end

end Store

end SurveyGate
