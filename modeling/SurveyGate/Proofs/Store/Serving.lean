import SurveyGate.Proofs.Decision.Asking
import SurveyGate.Proofs.Store.CapLog

/-!
# `SurveyGate.Proofs.Store.Serving`: surveys shown within their cap

When impressions are recorded only of surveys that a decision let through, a device never gets more
of them than the cap allows: in no window of the cap's length more than its limit, or without a
window never more in all. `shown_within_limit` states this for every point of every run, under
`Quota.Traffic`, the assumptions on the run.

The proof ties three facts together at the moment of a decision. The store keeps at least what was
shown and still matters (`Quota.Tracks`, followed through the run in `Traffic.tracks_take`); the log
that the cap looks at counts at least that (`capLog_sees`); and the decision found fewer than the
limit in this log (`below_of_decide`). So one more impression stays within the limit
(`Quota.Respected.concat`).
-/

set_option autoImplicit false

namespace SurveyGate

/-- How many instants lie in the window of some nanoseconds that ends at a number of nanoseconds.
The end belongs to the window, the start does not. -/
def countWithin (length stop : Int) (ts : List Instant) : Nat :=
  ts.countP fun t => stop - length < t.nanos ∧ t.nanos ≤ stop

/-- The instants of impressions respect the cap of a quota: no window holds more than the limit, and
without a window there are no more than that in all. -/
structure Quota.Respected (q : Quota) (ts : List Instant) : Prop where
  windowed : ∀ window, q.cap.window = some window → ∀ stop,
    countWithin (window.seconds * nanosPerSecond) stop ts ≤ q.cap.limit.toNat
  lifelong : q.cap.window = none → ts.length ≤ q.cap.limit.toNat

/-- The instants of impressions leave room for one more at an instant. -/
structure Quota.Below (q : Quota) (ts : List Instant) (now : Instant) : Prop where
  windowed : ∀ window, q.cap.window = some window →
    younger (now.nanos - window.seconds * nanosPerSecond) ts < q.cap.limit.toNat
  lifelong : q.cap.window = none → ts.length < q.cap.limit.toNat

/-- Assumptions on a run from a store, for the impressions that a quota counts on a device:

- `governs`: the quota is about the surveys that the store holds or the run inserts;
- `retention`: impressions are kept for the length of the window, or longer;
- `fresh`: the device has not seen a covered survey before the run;
- `ordered` and `noLeap`: the impressions come in the order of time, none in a leap second;
- `served`: each of them comes directly after a decision that let its survey through, for a visitor
  with this device at this instant. -/
structure Quota.Traffic (q : Quota) (device : DeviceId) (start : Store) (ops : List Operation) :
    Prop where
  governs : q.Governs fun s => start.Knows s ∨ .insertSurvey s ∈ ops
  retention : ∀ window keep, q.cap.window = some window → start.retention = some keep →
    window.seconds * nanosPerSecond ≤ keep
  fresh : ∀ id, q.covers id = true → ∀ h, start.history device id = some h → h.Unshown
  ordered : Ascending (q.shown device ops)
  noLeap : ∀ t ∈ q.shown device ops, t.isLeap = false
  served : ∀ n id t, ops[n]? = some (.impression id device t) → q.covers id = true →
    ∃ v calls, v.device = some device ∧ v.now = t ∧
      (decide (start.after (ops.take n)).reads id v calls).1 = true

/-! ### One more impression -/

/-- The instants of two lists are counted in each of them. -/
theorem countWithin_append (length stop : Int) (ts us : List Instant) :
    countWithin length stop (ts ++ us) = countWithin length stop ts + countWithin length stop us :=
  List.countP_append

/-- A window that ends at an instant or later holds at most the instants younger than it would be
if it ended there. -/
theorem countWithin_le_younger (length : Int) {stop : Int} {now : Instant} (h : now.nanos ≤ stop)
    (ts : List Instant) : countWithin length stop ts ≤ younger (now.nanos - length) ts := by
  apply List.countP_mono_left
  intro u _ hu
  obtain ⟨hstart, -⟩ := of_decide_eq_true hu
  exact decide_eq_true (by omega)

/-- A single instant counts once at most. -/
theorem countWithin_singleton_le (length stop : Int) (t : Instant) :
    countWithin length stop [t] ≤ 1 :=
  List.countP_le_length

/-- An instant behind the end of the window does not count. -/
theorem countWithin_singleton_eq_zero (length : Int) {stop : Int} {t : Instant}
    (h : stop < t.nanos) :
    countWithin length stop [t] = 0 := by
  rw [countWithin, List.countP_eq_zero]
  intro u hu
  obtain rfl := List.mem_singleton.1 hu
  simp only [decide_eq_true_eq]
  omega

/-- One more impression where there is room respects the cap. -/
theorem Quota.Respected.concat {q : Quota} {ts : List Instant} {now : Instant}
    (h : q.Respected ts) (hroom : q.Below ts now) : q.Respected (ts ++ [now]) where
  windowed window hwindow stop := by
    rw [countWithin_append]
    -- The new impression only matters to windows that end at it or later.
    by_cases hstop : now.nanos ≤ stop
    · have hbefore := countWithin_le_younger (window.seconds * nanosPerSecond) hstop ts
      have hnew := countWithin_singleton_le (window.seconds * nanosPerSecond) stop now
      have hbelow := hroom.windowed window hwindow
      omega
    · have hbefore := h.windowed window hwindow stop
      have hnew := countWithin_singleton_eq_zero (window.seconds * nanosPerSecond)
        (Int.not_le.1 hstop)
      omega
  lifelong hwindow := by
    have hbelow := hroom.lifelong hwindow
    rw [List.length_append, List.length_singleton]
    omega

/-! ### What a decision finds -/

/-- A cap that is not reached counts fewer impressions than its limit. -/
theorem CapState.counts_of_compute {cap : FrequencyCap} {log : ImpressionLog} {now : Instant}
    (henabled : cap.enabled = true) (hlimit : 1 ≤ cap.limit.toNat)
    (h : compute cap log now = .below) :
    (∀ window, cap.window = some window →
      (inWindow window.seconds now log.instants).length < cap.limit.toNat) ∧
    (cap.window = none → log.count.toNat < cap.limit.toNat) := by
  have hne : cap.limit ≠ 0 := by
    rintro heq
    rw [heq] at hlimit
    cases hlimit
  obtain ⟨hwindowed, hlifelong⟩ := compute_eq_below_iff.1 h henabled hne
  refine ⟨hwindowed, fun hwindow => ?_⟩
  have hall := hlifelong hwindow
  omega

section
variable {q : Quota} {device : DeviceId} {st : Store} {ts : List Instant} {id : SurveyId}
  {v : Visitor} {calls : List PageCall}

/-- A decision that lets a covered survey through leaves room for its impression. -/
theorem below_of_decide (hq : q.Governs st.Knows) (hst : st.Consistent)
    (h : q.Tracks device ts st) (hid : q.covers id = true) (hdevice : v.device = some device)
    (hnow : v.now.isLeap = false)
    (hkept : ∀ window, q.cap.window = some window →
      st.KeepsAfter ts (v.now.nanos - window.seconds * nanosPerSecond))
    (hdecide : (decide st.reads id v calls).1 = true) : q.Below ts v.now := by
  obtain ⟨s, hread, hallows⟩ := allows_of_decide hdecide
  have hs := Store.survey_eq_ok_iff.1 hread
  obtain ⟨log, hlog, hsees⟩ := capLog_sees hq hst h hs hid
  obtain ⟨hcap, hignores⟩ := hq.carried s ⟨id, hs⟩ (by rwa [hst.keyed id s hs])
  -- The cap of the survey is that of the quota, so its state is about the limit and the window of
  -- the quota.
  have hcompute : CapState.compute q.cap log v.now = .below := by
    rw [← hcap]
    exact hallows.belowCap hignores (by rw [hcap]; exact hq.enabled) hdevice hlog
  obtain ⟨hwindowed, hlifelong⟩ := CapState.counts_of_compute hq.enabled hq.limited hcompute
  refine ⟨fun window hwindow => ?_, fun hwindow => ?_⟩
  · have hlen := hwindowed window hwindow
    rw [CapState.length_inWindow hsees.ascending hsees.noLeap hnow] at hlen
    have htracked := h.kept _ (hkept window hwindow)
    have hseen := hsees.kept (v.now.nanos - window.seconds * nanosPerSecond)
    omega
  · have hcount := hlifelong hwindow
    have htracked := h.recorded
    have hseen := hsees.recorded
    -- The counter cannot be full here: it would be above any limit.
    have hlimit : q.cap.limit.toNat < maxCount := by
      have hsize := q.cap.limit.toNat_lt_size
      have hmax : UInt32.size < maxCount := by decide
      omega
    omega

end

/-! ### Runs -/

namespace Quota

variable {q : Quota} {device : DeviceId} {start : Store} {ops : List Operation}

/-- A quota that governs some surveys governs fewer of them. -/
theorem Governs.mono {configured configured' : Survey → Prop} (h : q.Governs configured)
    (hsub : ∀ s, configured' s → configured s) : q.Governs configured' where
  enabled := h.enabled
  limited := h.limited
  oneSurvey := h.oneSurvey
  oneAccount hscope := by
    obtain ⟨account, haccount⟩ := h.oneAccount hscope
    exact ⟨account, fun s hs => haccount s (hsub s hs)⟩
  carried s hs := h.carried s (hsub s hs)

/-- What two runs show is shown by each of them. -/
theorem shown_append (q : Quota) (device : DeviceId) (ops ops' : List Operation) :
    q.shown device (ops ++ ops') = q.shown device ops ++ q.shown device ops' :=
  List.filterMap_append

/-- A single operation shows one impression at most. -/
theorem shown_singleton (q : Quota) (device : DeviceId) (op : Operation) :
    q.shown device [op] = (q.shown? device op).toList := by
  rw [shown, List.filterMap_cons, List.filterMap_nil]
  cases q.shown? device op <;> rfl

/-- What the quota counts, it counts as an impression of a covered survey on the device. -/
theorem shown?_eq_some_iff {op : Operation} {t : Instant} :
    q.shown? device op = some t ↔ ∃ id, op = .impression id device t ∧ q.covers id = true := by
  constructor
  · intro h
    cases op with
    | impression id d u =>
      by_cases hcounted : d = device ∧ q.covers id = true
      · obtain ⟨rfl, hid⟩ := hcounted
        rw [shown?, if_pos ⟨rfl, hid⟩] at h
        obtain rfl := Option.some.inj h
        exact ⟨id, rfl, hid⟩
      · rw [shown?, if_neg hcounted] at h
        cases h
    | _ => cases h
  · rintro ⟨id, rfl, hid⟩
    exact if_pos ⟨rfl, hid⟩

namespace Traffic

variable {n : Nat} {op : Operation}

/-- The quota governs the surveys that the store holds at any point of the run. -/
theorem governs_take (h : q.Traffic device start ops) (hstart : start.Consistent) (n : Nat) :
    q.Governs (start.after (ops.take n)).Knows :=
  h.governs.mono fun s ⟨id, hs⟩ => by
    rcases Store.known_after hstart (ops.take n) hs with hknown | hmem
    · exact .inl ⟨id, hknown⟩
    · exact .inr (List.mem_of_mem_take hmem)

/-- An impression that the quota counts was let through where it is recorded. -/
theorem decide_at (h : q.Traffic device start ops) {t : Instant} (hop : ops[n]? = some op)
    (ht : q.shown? device op = some t) :
    ∃ id v calls, q.covers id = true ∧ op = .impression id device t ∧ v.device = some device ∧
      v.now = t ∧ (decide (start.after (ops.take n)).reads id v calls).1 = true := by
  obtain ⟨id, rfl, hid⟩ := shown?_eq_some_iff.1 ht
  obtain ⟨v, calls, hdevice, hnow, hdecide⟩ := h.served n id t hop hid
  exact ⟨id, v, calls, hid, rfl, hdevice, hnow, hdecide⟩

/-- The first operations show a part of what all show. -/
theorem shown_take_sublist (n : Nat) : (q.shown device (ops.take n)).Sublist (q.shown device ops) :=
  (List.take_sublist n ops).filterMap _

/-- At any point of the run the store is on track of what was shown. -/
theorem tracks_take (h : q.Traffic device start ops) (hstart : start.Consistent) (n : Nat) :
    q.Tracks device (q.shown device (ops.take n)) (start.after (ops.take n)) := by
  refine Store.take_induction
    (P := fun seen => q.Tracks device (q.shown device seen) (start.after seen))
    ?_ (fun n op hop ih => ?_) n
  · exact {
      noLeap := fun id hid history hhistory u hu => by
        rw [(h.fresh id hid history hhistory).1] at hu
        cases hu
      recorded := Nat.zero_le _
      kept := fun _ _ => Nat.zero_le _ }
  · have hconsistent := Store.consistent_after hstart (ops.take n)
    rw [shown_append, shown_singleton, Store.after_concat]
    refine ih.step hconsistent (Store.step_perform hconsistent op) (fun t ht => ?_)
      fun id t himpression hid => ?_
    · exact h.noLeap t (List.mem_filterMap.2 ⟨op, List.mem_of_getElem? hop, ht⟩)
    · -- A decision only lets a survey through that it can read.
      subst himpression
      obtain ⟨v, calls, -, -, hdecide⟩ := h.served n id t hop hid
      obtain ⟨s, hread, -⟩ := allows_of_decide hdecide
      exact ⟨s, Store.survey_eq_ok_iff.1 hread⟩

/-- Where an impression is recorded there was room for it. -/
theorem below_at (h : q.Traffic device start ops) (hstart : start.Consistent) {t : Instant}
    (hop : ops[n]? = some op) (ht : q.shown? device op = some t) :
    q.Below (q.shown device (ops.take n)) t := by
  obtain ⟨id, v, calls, hid, rfl, hdevice, rfl, hdecide⟩ := h.decide_at hop ht
  have hnow : v.now.isLeap = false :=
    h.noLeap v.now (List.mem_filterMap.2 ⟨_, List.mem_of_getElem? hop, ht⟩)
  refine below_of_decide (h.governs_take hstart n) (Store.consistent_after hstart _)
    (h.tracks_take hstart n) hid hdevice hnow (fun window hwindow keep hkeep u hu => ?_) hdecide
  -- What was shown before is not later, so retention still reaches back over the window.
  rw [Store.retention_after hstart] at hkeep
  have hlong := h.retention window keep hwindow hkeep
  have hascending : Ascending (q.shown device (ops.take n) ++ [v.now]) := by
    have hprefix := h.ordered.sublist (shown_take_sublist (n + 1))
    rwa [Store.take_succ_of_some hop, shown_append, shown_singleton, ht] at hprefix
  have hle := (List.pairwise_append.1 hascending).2.2 u hu v.now List.mem_cons_self
  have hleap := h.noLeap u ((shown_take_sublist n).subset hu)
  have hnanos := (Instant.le_iff_nanos_le hleap hnow).1 hle
  omega

/-- Traffic respects the quota up to each of its operations. -/
theorem respected_take (h : q.Traffic device start ops) (hstart : start.Consistent) (n : Nat) :
    q.Respected (q.shown device (ops.take n)) := by
  refine Store.take_induction (P := fun seen => q.Respected (q.shown device seen)) ?_
    (fun n op hop ih => ?_) n
  · exact {
      windowed := fun _ _ _ => Nat.zero_le _
      lifelong := fun _ => Nat.zero_le _ }
  · rw [shown_append, shown_singleton]
    cases hshown : q.shown? device op with
    | none => rwa [Option.toList_none, List.append_nil]
    | some t => exact ih.concat (h.below_at hstart hop hshown)

end Traffic

end Quota

/-- Whatever was done with a store before, at any point of a run in which the impressions that a
quota counts on a device are only recorded after a decision let them through, these impressions
respect the cap. -/
theorem shown_within_limit {q : Quota} {device : DeviceId} {retention : Option Int}
    {setup ops : List Operation}
    (h : q.Traffic device ((Store.keeping retention).after setup) ops) (n : Nat) :
    q.Respected (q.shown device (ops.take n)) :=
  h.respected_take (Store.consistent_after (Store.consistent_keeping retention) setup) n

/-! ### Two surveys of one account -/

/-- One impression an hour for all surveys of an account. -/
def hourlyCap : FrequencyCap := ⟨true, 1, some ⟨1, .hours⟩, .perAccount⟩

/-- A live survey with this cap. -/
def hourlySurvey (id : SurveyId) : Survey :=
  ((Survey.draft id ⟨7⟩ "NPS").edit (.status .live)).edit (.cap hourlyCap)

/-- A survey of another account. -/
def foreignSurvey : Survey := Survey.draft ⟨3⟩ ⟨8⟩ "CSAT"

/-- The quota of the two surveys of the account together. -/
def hourlyQuota : Quota where
  cap := hourlyCap
  covers id := id = ⟨1⟩ ∨ id = ⟨2⟩

/-- The start of an hour. -/
def firstHour : Instant := default

/-- The start of the next hour. -/
def secondHour : Instant := (firstHour.after 3600).getD .latest

/-- The store that holds two surveys of an account and keeps impressions for an hour. -/
def hourlyStart : Store :=
  (Store.keeping (some 3600000000000)).after
    [.insertSurvey (hourlySurvey ⟨1⟩), .insertSurvey (hourlySurvey ⟨2⟩)]

/-- One survey is shown and closed at once; when the hour is just over, the other one is shown. -/
def hourlyRun : List Operation :=
  [.impression ⟨1⟩ ⟨"tab"⟩ firstHour, .dismissal ⟨1⟩ ⟨"tab"⟩ firstHour,
    .insertSurvey foreignSurvey, .impression ⟨2⟩ ⟨"tab"⟩ secondHour]

/-- The visitor on the device at an instant. -/
def hourlyVisitor (now : Instant) : Visitor := { Visitor.unknown now with device := some ⟨"tab"⟩ }

/-- The surveys of the run. -/
theorem hourlyRun_surveys {s : Survey}
    (h : hourlyStart.Knows s ∨ .insertSurvey s ∈ hourlyRun) :
    s = hourlySurvey ⟨1⟩ ∨ s = hourlySurvey ⟨2⟩ ∨ s = foreignSurvey := by
  rcases h with ⟨id, hget⟩ | hmem
  · have hput : (((Table.empty : Table SurveyId Survey).put ⟨1⟩ (hourlySurvey ⟨1⟩)).put ⟨2⟩
        (hourlySurvey ⟨2⟩)).get? id = some s := hget
    rw [Table.get?_put, Table.get?_put] at hput
    split at hput
    · exact .inr (.inl (Option.some.inj hput).symm)
    · split at hput
      · exact .inl (Option.some.inj hput).symm
      · cases hput
  · have hs : s = foreignSurvey := by simpa [hourlyRun] using hmem
    exact .inr (.inr hs)

/-- Each survey of the account has the cap of the quota. -/
theorem hourlyQuota_governs :
    hourlyQuota.Governs fun s => hourlyStart.Knows s ∨ .insertSurvey s ∈ hourlyRun where
  enabled := rfl
  limited := by decide
  oneSurvey h := by cases h
  oneAccount _ := by
    refine ⟨⟨7⟩, fun s hs => ?_⟩
    rcases hourlyRun_surveys hs with rfl | rfl | rfl
    · decide
    · decide
    · decide
  carried s hs hcovered := by
    rcases hourlyRun_surveys hs with rfl | rfl | rfl
    · exact ⟨rfl, rfl⟩
    · exact ⟨rfl, rfl⟩
    · exact absurd hcovered (by decide)

/-- The run is traffic under the quota. -/
theorem hourlyRun_traffic : hourlyQuota.Traffic ⟨"tab"⟩ hourlyStart hourlyRun where
  governs := hourlyQuota_governs
  retention window keep hwindow hkeep := by
    obtain rfl := Option.some.inj hwindow
    obtain rfl := Option.some.inj hkeep
    decide
  fresh id _ h hh := by cases hh
  ordered := by
    show [firstHour, secondHour].Pairwise (· ≤ ·)
    decide
  noLeap := by
    show ∀ t ∈ [firstHour, secondHour], t.isLeap = false
    decide
  served n id t hop _ := by
    rcases n with _ | _ | _ | _ | n
    · cases hop
      exact ⟨hourlyVisitor firstHour, [], rfl, rfl, by decide +kernel⟩
    · cases hop
    · cases hop
    · cases hop
      exact ⟨hourlyVisitor secondHour, [], rfl, rfl, by decide +kernel⟩
    · cases hop

/-- No hour holds both impressions, though they are just an hour apart. -/
theorem shown_within_limit_hourly :
    hourlyQuota.Traffic ⟨"tab"⟩ hourlyStart hourlyRun ∧
      hourlyQuota.shown ⟨"tab"⟩ hourlyRun = [firstHour, secondHour] ∧
      hourlyQuota.Respected (hourlyQuota.shown ⟨"tab"⟩ (hourlyRun.take 4)) :=
  ⟨hourlyRun_traffic, rfl, shown_within_limit hourlyRun_traffic 4⟩

end SurveyGate
