import SurveyGate.Proofs.History.Recording
import SurveyGate.Proofs.Store.Tally

/-!
# `SurveyGate.Proofs.Store.Quota`: impressions that count together

A `Quota` is a cap with the surveys whose impressions it counts together. `Quota.shown` are the
instants of these impressions on a device in a run, whether or not the store still keeps them.

`Quota.Tracks` relates them to the store. Its two counts are sums over all histories of the device
that the quota covers: the counters, and the impressions younger than some number of nanoseconds.
The store may have dropped old impressions, so the second is only stated where retention reaches.
`Tracks.step` says that an operation keeps the relation.
-/

set_option autoImplicit false

namespace SurveyGate

/-- A cap and the surveys whose impressions it counts together. -/
structure Quota where
  cap : FrequencyCap
  covers : SurveyId → Bool

namespace Quota

/-- The instant of an operation that the quota counts on a device. -/
def shown? (q : Quota) (device : DeviceId) : Operation → Option Instant
  | .impression id d t => if d = device ∧ q.covers id = true then some t else none
  | _ => none

/-- The instants of the operations that the quota counts on a device, in the order of the run. -/
def shown (q : Quota) (device : DeviceId) (ops : List Operation) : List Instant :=
  ops.filterMap (q.shown? device)

/-- A weight of histories, of those on a device that the quota covers. -/
def weight (q : Quota) (device : DeviceId) (f : History → Nat) (key : DeviceId × SurveyId)
    (h : History) : Nat :=
  if key.1 = device ∧ q.covers key.2 = true then f h else 0

/-- The weights of the covered histories of a device together. -/
def totalOn (q : Quota) (device : DeviceId) (st : Store) (f : History → Nat) : Nat :=
  st.histories.total (q.weight device f)

/-- Whether the history under a key is one of those on a device that the quota covers. -/
def picks (q : Quota) (device : DeviceId) (key : DeviceId × SurveyId) : Bool :=
  key.1 = device ∧ q.covers key.2 = true

/-- A quota picks the histories of a device with the surveys it covers. -/
theorem picks_iff (q : Quota) {device : DeviceId} {key : DeviceId × SurveyId} :
    q.picks device key = true ↔ key.1 = device ∧ q.covers key.2 = true :=
  decide_eq_true_iff

/-- The total of a quota is a tally over the histories it picks. -/
theorem totalOn_eq_tally (q : Quota) (device : DeviceId) (st : Store) (f : History → Nat) :
    q.totalOn device st f = st.tally (q.picks device) f := by
  simp only [totalOn, Store.tally, picks_iff]
  rfl

end Quota

/-- The number of impressions ever that a history holds. -/
def History.recorded (h : History) : Nat := h.impressionCount.toNat

/-- The number of impressions younger than some nanoseconds that a history keeps. -/
def History.youngerKept (c : Int) (h : History) : Nat := younger c h.impressions

/-- Retention that began at one of the instants drops nothing after the given nanoseconds. -/
def Store.KeepsAfter (st : Store) (ts : List Instant) (c : Int) : Prop :=
  ∀ keep, st.retention = some keep → ∀ t ∈ ts, t.nanos - keep ≤ c

/-- A store knows of the impressions that a quota counts on a device. -/
structure Quota.Tracks (q : Quota) (device : DeviceId) (ts : List Instant) (st : Store) : Prop where
  noLeap : ∀ id, q.covers id = true → ∀ h, st.history device id = some h →
    ∀ u ∈ h.impressions, u.isLeap = false
  recorded : min ts.length maxCount ≤ q.totalOn device st History.recorded
  kept : ∀ c, st.KeepsAfter ts c → younger c ts ≤ q.totalOn device st (History.youngerKept c)

namespace Store

variable {st : Store}

/-- Retention leaves the number of impressions ever as it is. -/
theorem retain_impressionCount (t : Instant) (h : History) :
    (st.retain t h).impressionCount = h.impressionCount := by
  unfold retain
  split <;> rfl

/-- Retention only takes impressions away. -/
theorem mem_of_mem_retain {t u : Instant} {h : History}
    (hu : u ∈ (st.retain t h).impressions) : u ∈ h.impressions := by
  unfold retain at hu
  split at hu
  · exact List.mem_of_mem_drop hu
  · exact hu

/-- Retention takes away nothing that is younger than it reaches. -/
theorem younger_retain {t : Instant} {h : History} {c : Int} (hasc : Ascending h.impressions)
    (hleap : ∀ u ∈ h.impressions, u.isLeap = false) (ht : t.isLeap = false)
    (hc : st.KeepsAfter [t] c) :
    younger c (st.retain t h).impressions = younger c h.impressions := by
  unfold retain
  cases hretention : st.retention with
  | none => rfl
  | some keep =>
    cases hcutoff : t.shiftNanos (-keep) with
    | none => simp only [Option.bind_some, hcutoff]
    | some cutoff =>
      simp only [Option.bind_some, hcutoff]
      obtain ⟨hcutoffLeap, hnanos⟩ := Instant.nanos_of_shiftNanos ht hcutoff
      have hreach := hc keep hretention t List.mem_cons_self
      -- The cutoff lies where retention reaches, so nothing younger than `c` is before it.
      exact History.younger_prune hasc hleap hcutoffLeap (by omega)

/-- A record adds no instant but its own. -/
theorem mem_of_mem_recorded {t u : Instant} {h : History}
    (hu : u ∈ (st.retain t (h.recordImpression t)).impressions) : u = t ∨ u ∈ h.impressions :=
  List.mem_cons.1 ((History.insertInstant_perm t h.impressions).mem_iff.1 (mem_of_mem_retain hu))

/-- A recorded impression counts once among the younger ones, if it is one of them. -/
theorem youngerKept_recorded {t : Instant} {h : History} {c : Int}
    (hasc : Ascending h.impressions) (hleap : ∀ u ∈ h.impressions, u.isLeap = false)
    (ht : t.isLeap = false) (hc : st.KeepsAfter [t] c) :
    (st.retain t (h.recordImpression t)).youngerKept c = h.youngerKept c + younger c [t] := by
  have hleap' : ∀ u ∈ (h.recordImpression t).impressions, u.isLeap = false := by
    intro u hu
    rcases List.mem_cons.1 ((History.insertInstant_perm t h.impressions).mem_iff.1 hu) with rfl | hu
    · exact ht
    · exact hleap u hu
  have hasc' : Ascending (h.recordImpression t).impressions := History.insertInstant_ascending hasc
  rw [History.youngerKept, younger_retain hasc' hleap' ht hc]
  exact History.younger_insertInstant c t h.impressions

/-- A record adds one to the recorded number, up to the largest count. -/
theorem recorded_recorded (t : Instant) (h : History) :
    (st.retain t (h.recordImpression t)).recorded = min (h.recorded + 1) maxCount := by
  rw [History.recorded, retain_impressionCount]
  exact addCounts_toNat h.impressionCount 1

/-! ### Sums over the covered histories -/

variable {q : Quota} {device d : DeviceId} {id : SurveyId} {f : History → Nat}

/-- Nothing changes for a quota when a history changes that it does not weigh, or does not weigh
differently. -/
theorem totalOn_editHistory_eq (hf : f .empty = 0) {edit : History → History}
    (hedit : d = device → q.covers id = true → ∀ h, f (edit h) = f h) :
    q.totalOn device (st.editHistory d id edit) f = q.totalOn device st f := by
  rw [q.totalOn_eq_tally, q.totalOn_eq_tally]
  apply tally_editHistory_eq hf
  intro hpick
  obtain ⟨hd, hid⟩ := q.picks_iff.1 hpick
  exact hedit hd hid

/-- A recorded impression of a covered survey trades the weight of its history. -/
theorem totalOn_shown (st : Store) (device : DeviceId) (hid : q.covers id = true)
    (f : History → Nat) (hf : f .empty = 0) (t : Instant) :
    q.totalOn device (st.editHistory device id fun h => st.retain t (h.recordImpression t)) f +
        f ((st.history device id).getD .empty) =
      q.totalOn device st f +
        f (st.retain t (((st.history device id).getD .empty).recordImpression t)) := by
  have hpick : q.picks device (device, id) = true := q.picks_iff.2 ⟨rfl, hid⟩
  rw [q.totalOn_eq_tally, q.totalOn_eq_tally]
  exact tally_editHistory st hf hpick _

/-- The changed history alone weighs no more than all. -/
theorem weight_le_totalOn_shown (st : Store) (device : DeviceId) (hid : q.covers id = true)
    (f : History → Nat) (t : Instant) :
    f (st.retain t (((st.history device id).getD .empty).recordImpression t)) ≤
      q.totalOn device (st.editHistory device id fun h =>
        st.retain t (h.recordImpression t)) f := by
  have hpick : q.picks device (device, id) = true := q.picks_iff.2 ⟨rfl, hid⟩
  rw [q.totalOn_eq_tally]
  exact weight_le_tally st hpick f fun h => st.retain t (h.recordImpression t)

end Store

/-! ### Tracking a run -/

namespace Quota.Tracks

variable {q : Quota} {device d : DeviceId} {id : SurveyId} {ts : List Instant} {st st' : Store}
  {op : Operation}

/-- No impression of a tracked history lies in a leap second. -/
theorem noLeap_getD (h : q.Tracks device ts st) (hid : q.covers id = true) :
    ∀ u ∈ ((st.history device id).getD .empty).impressions, u.isLeap = false := by
  cases hhistory : st.history device id with
  | none => exact fun _ hu => absurd hu List.not_mem_nil
  | some history => exact h.noLeap id hid history hhistory

/-- A change that brings no leap second into a covered history brings none to the quota. -/
theorem noLeap_editHistory (h : q.Tracks device ts st) {edit : History → History}
    (hedit : d = device → q.covers id = true →
      ∀ u ∈ (edit ((st.history device id).getD .empty)).impressions, u.isLeap = false)
    (i : SurveyId) (hi : q.covers i = true) (history : History)
    (hhistory : (st.editHistory d id edit).history device i = some history) :
    ∀ u ∈ history.impressions, u.isLeap = false := by
  rw [Store.history_editHistory] at hhistory
  split at hhistory
  · rename_i hkey
    obtain ⟨rfl, rfl⟩ := Prod.mk.inj hkey
    obtain rfl := Option.some.inj hhistory
    exact hedit rfl hi
  · exact h.noLeap i hi history hhistory

/-- A change that leaves the impressions of covered histories alone keeps the store on track. -/
theorem editHistory (h : q.Tracks device ts st) {edit : History → History}
    (hedit : d = device → q.covers id = true → ∀ h : History,
      (edit h).impressions = h.impressions ∧ (edit h).impressionCount = h.impressionCount) :
    q.Tracks device ts (st.editHistory d id edit) where
  noLeap := by
    apply h.noLeap_editHistory
    intro hd hid
    rw [(hedit hd hid _).1]
    exact h.noLeap_getD hid
  recorded := by
    rw [Store.totalOn_editHistory_eq rfl fun hd hid history => ?_]
    · exact h.recorded
    · rw [History.recorded, (hedit hd hid history).2]
      rfl
  kept c hc := by
    rw [Store.totalOn_editHistory_eq rfl fun hd hid history => ?_]
    · exact h.kept c hc
    · rw [History.youngerKept, (hedit hd hid history).1]
      rfl

/-- A recorded impression that the quota counts is counted. -/
theorem shown (h : q.Tracks device ts st) (hst : st.Consistent) (hid : q.covers id = true)
    {t : Instant} (ht : t.isLeap = false) :
    q.Tracks device (ts ++ [t])
      (st.editHistory device id fun h => st.retain t (h.recordImpression t)) where
  noLeap := by
    apply h.noLeap_editHistory
    intro _ _ u hu
    rcases Store.mem_of_mem_recorded hu with rfl | hold
    · exact ht
    · exact h.noLeap_getD hid u hold
  recorded := by
    have htrade := Store.totalOn_shown st device hid History.recorded rfl t
    rw [Store.recorded_recorded] at htrade
    have hnew := Store.weight_le_totalOn_shown st device hid History.recorded t
    rw [Store.recorded_recorded] at hnew
    have hold := toNat_le_maxCount ((st.history device id).getD .empty).impressionCount
    have hbefore := h.recorded
    rw [List.length_append, List.length_singleton]
    -- A counter that is full stays full, and its history alone makes up the whole count then.
    unfold History.recorded at *
    omega
  kept c hc := by
    -- Where retention reaches after the new instant, it reached before it.
    have hreach : st.KeepsAfter ts c := fun keep hkeep u hu =>
      hc keep hkeep u (List.mem_append_left _ hu)
    have hreach' : st.KeepsAfter [t] c := fun keep hkeep u hu =>
      hc keep hkeep u (List.mem_append_right _ hu)
    have htrade := Store.totalOn_shown st device hid (History.youngerKept c) rfl t
    rw [Store.youngerKept_recorded (hst.ascending_getD device id) (h.noLeap_getD hid) ht
      hreach'] at htrade
    have hbefore := h.kept c hreach
    rw [younger_append]
    omega

/-- An operation that the quota does not count adds nothing. -/
theorem append_shown?_of_none (h : q.shown? device op = none) :
    ts ++ (q.shown? device op).toList = ts := by
  rw [h, Option.toList_none, List.append_nil]

/-- An operation keeps a store on track of what it shows. -/
theorem step (h : q.Tracks device ts st) (hst : st.Consistent) (hstep : Store.Step st op st')
    (hleap : ∀ t, q.shown? device op = some t → t.isLeap = false)
    (hknown : ∀ id t, op = .impression id device t → q.covers id = true →
      ∃ survey, st.surveys.get? id = some survey) :
    q.Tracks device (ts ++ (q.shown? device op).toList) st' := by
  cases hstep with
  | inserted survey =>
    rw [append_shown?_of_none rfl]
    exact ⟨h.noLeap, h.recorded, h.kept⟩
  | shown known =>
    rename_i id d t survey
    by_cases hcounted : d = device ∧ q.covers id = true
    · obtain ⟨rfl, hid⟩ := hcounted
      have hshown : q.shown? d (.impression id d t) = some t := if_pos ⟨rfl, hid⟩
      rw [hshown]
      exact h.shown hst hid (hleap t hshown)
    · have hshown : q.shown? device (.impression id d t) = none := if_neg hcounted
      rw [append_shown?_of_none hshown]
      exact h.editHistory fun hd hid => absurd ⟨hd, hid⟩ hcounted
  | completed id d t =>
    rw [append_shown?_of_none rfl]
    exact h.editHistory fun _ _ _ => ⟨rfl, rfl⟩
  | dismissed id d t =>
    rw [append_shown?_of_none rfl]
    exact h.editHistory fun _ _ _ => ⟨rfl, rfl⟩
  | apart triggers submissions notInserted notShown =>
    -- An impression that is not recorded is one of an unknown survey, which is never counted.
    have hshown : q.shown? device op = none := by
      cases op with
      | impression id d t =>
        apply if_neg
        rintro ⟨rfl, hid⟩
        obtain ⟨survey, hsome⟩ := hknown id t rfl hid
        rw [notShown id d t rfl] at hsome
        cases hsome
      | _ => rfl
    rw [append_shown?_of_none hshown]
    exact ⟨h.noLeap, h.recorded, h.kept⟩

end Quota.Tracks

end SurveyGate
