import SurveyGate.Proofs.Store.Agreement

/-!
# `SurveyGate.Proofs.Store.Retention`: retention that caps do not notice

A store with a retention forgets impressions. What it forgets lies at least the retention before
some other impression, so no cap whose window is no longer than the retention counts it any more
(`spares_of_inWindow`, `CapState.compute_eq_of_lists`). A cap without a window looks at the number
of impressions ever, which is never forgotten.

`compute_decide_keeping` puts this together: the state of each such cap, the instant included at
which it opens again, and every decision on a survey with such a cap are the same on both stores.
Leap seconds are left out.
-/

set_option autoImplicit false

namespace SurveyGate

/-- A cap looks back no further than a number of nanoseconds, if it has a window. -/
def FrequencyCap.FitsIn (cap : FrequencyCap) (keep : Int) : Prop :=
  ∀ window, cap.window = some window → window.seconds * nanosPerSecond ≤ keep

/-! ### Caps -/

section
variable {log log' : ImpressionLog} {ts : List Instant} {spared spared' : Instant → Prop}
  {cap : FrequencyCap} {now : Instant}

/-- A cap without a window counts what was written, whether or not the log lists all of it. -/
theorem CapState.lifelong_of_lists (h : log.Lists ts spared) {limit : Nat}
    (hlimit : limit ≤ maxCount) :
    lifelong limit log = if ts.length < limit then .below else .reached none := by
  have hwithin := h.within
  have hrecorded := h.recorded
  have hcount : max log.count.toNat log.instants.length < limit ↔ ts.length < limit := by omega
  rw [lifelong, if_congr hcount rfl rfl]

/-- Two logs that list the same instants put a cap in the same state if they spare all that lies in
its window. -/
theorem CapState.compute_eq_of_lists (h : log.Lists ts spared) (h' : log'.Lists ts spared')
    (hspared : ∀ window, cap.window = some window → ∀ u,
      (∀ start, now.before window.seconds = some start → ¬ u ≤ start) → spared u ∧ spared' u) :
    compute cap log now = compute cap log' now := by
  unfold compute
  cases hwindow : cap.window with
  | none =>
    have hlimit : cap.limit.toNat ≤ maxCount :=
      (Nat.le_of_lt cap.limit.toNat_lt).trans (by decide)
    simp only [lifelong_of_lists h hlimit, lifelong_of_lists h' hlimit]
  | some window =>
    have hsame : inWindow window.seconds now log.instants =
        inWindow window.seconds now log'.instants := by
      apply inWindow_eq_of_count h.ascending h'.ascending
      intro u hu
      obtain ⟨hkept, hkept'⟩ := hspared window hwindow u hu
      rw [h.kept u hkept, h'.kept u hkept']
    simp only [windowed, hsame]

end

namespace Store

section
variable {st st' : Store} {ts : List Instant} {keep : Int} {now u : Instant}

/-- Retention spares what lies in a window that is no longer and ends no earlier than any of the
instants at which it set in. -/
theorem spares_of_inWindow {seconds : Nat} (hretention : st.retention = some keep)
    (hts : ∀ t ∈ ts, t.isLeap = false ∧ t ≤ now) (hnow : now.isLeap = false)
    (hfit : seconds * nanosPerSecond ≤ keep)
    (hu : ∀ start, now.before seconds = some start → ¬ u ≤ start) : st.Spares ts u := by
  intro t ht cutoff hcutoff
  obtain ⟨htLeap, htNow⟩ := hts t ht
  rw [hretention, Option.bind_some] at hcutoff
  obtain ⟨hcutoffLeap, hcutoffNanos⟩ := Instant.nanos_of_shiftNanos htLeap hcutoff
  have hle := (Instant.le_iff_nanos_le htLeap hnow).1 htNow
  cases hbefore : now.before seconds with
  | none =>
    -- The cutoff would lie before the clock.
    have hlate := Instant.nanos_lt_of_before_eq_none hnow hbefore cutoff
    omega
  | some start =>
    obtain ⟨hstartLeap, hstartNanos⟩ := Instant.nanos_of_before hnow hbefore
    have hcut : cutoff ≤ start := (Instant.le_iff_nanos_le hcutoffLeap hstartLeap).2 (by omega)
    exact Instant.le_trans hcut (Instant.le_of_not_le (hu start hbefore))

/-- A cap that fits in the retention does not tell a log with retention from one without. -/
theorem compute_eq_of_spares {cap : FrequencyCap} {log log' : ImpressionLog}
    (h : log.Lists ts (st.Spares ts)) (h' : log'.Lists ts (st'.Spares ts))
    (hretention : st.retention = some keep) (hretention' : st'.retention = none)
    (hts : ∀ t ∈ ts, t.isLeap = false ∧ t ≤ now) (hnow : now.isLeap = false)
    (hfits : cap.FitsIn keep) : CapState.compute cap log now = CapState.compute cap log' now := by
  apply CapState.compute_eq_of_lists h h'
  intro window hwindow u hu
  exact ⟨spares_of_inWindow hretention hts hnow (hfits window hwindow) hu,
    spares_of_none hretention' ts u⟩

/-- After writes of impressions up to an instant, a cap that fits in the retention does not notice
it then. -/
theorem sameCapState_keeping {ws : List Write} (hnow : now.isLeap = false)
    (hshown : ∀ device account id t, .impression device account id t ∈ ws →
      t.isLeap = false ∧ t ≤ now) {cap : FrequencyCap} (hfits : cap.FitsIn keep) :
    ((keeping (some keep)).written ws).SameCapState ((keeping none).written ws) cap now := by
  have hkept : ((keeping (some keep)).written ws).retention = some keep := retention_written _ ws
  have hfull : ((keeping none).written ws).retention = none := retention_written _ ws
  have hts (picks : DeviceId × SurveyId → Bool) :
      ∀ t ∈ shownIn picks ws, t.isLeap = false ∧ t ≤ now := by
    intro t ht
    obtain ⟨device, account, id, hmem⟩ := exists_impression_of_mem_shownIn ht
    exact hshown device account id t hmem
  refine ⟨fun device id => ?_, fun device account => ?_⟩
  · have hone (key : DeviceId × SurveyId) : (key == (device, id)) = true ↔ key = (device, id) :=
      beq_iff_eq
    exact compute_eq_of_spares (lists_surveyLog _ ws hone) (lists_surveyLog _ ws hone) hkept hfull
      (hts _) hnow hfits
  · have hcounts := (agrees_keeping none (some keep) ws).countsTo_eq device account
    exact compute_eq_of_spares (lists_accountLog rfl) (lists_accountLog hcounts) hkept hfull
      (hts _) hnow hfits

end

end Store

/-- Take any writes to a store that keeps impressions for some time and to one that keeps all. At an
instant that is not before any of the impressions,

- a cap whose window, if it has one, is no longer than that time is in the same state by the logs of
  both stores, for every survey and every account;
- a decision on a survey with such a cap is the same by both, with all that it asks of the page. -/
theorem compute_decide_keeping (keep : Int) {ws : List Write} {now : Instant}
    (hnow : now.isLeap = false)
    (hshown : ∀ device account id t, .impression device account id t ∈ ws →
      t.isLeap = false ∧ t ≤ now) :
    let kept := (Store.keeping (some keep)).written ws
    let full := (Store.keeping none).written ws
    (∀ cap : FrequencyCap, cap.FitsIn keep → kept.SameCapState full cap now) ∧
    ∀ id (v : Visitor), v.now = now → (∀ s, kept.survey id = .ok s → s.cap.FitsIn keep) →
      decide kept.reads id v = decide full.reads id v := by
  intro kept full
  have hcap (cap : FrequencyCap) (hfits : cap.FitsIn keep) : kept.SameCapState full cap now :=
    Store.sameCapState_keeping hnow hshown hfits
  refine ⟨hcap, fun id v hv hfits => ?_⟩
  have hagrees : kept.Agrees full := Store.agrees_keeping (some keep) none ws
  refine hagrees.decide_eq fun s hs => ?_
  rw [hv]
  exact hcap s.cap (hfits s hs)

/-! ### Impressions kept for an hour -/

/-- A live survey that a device sees once an hour. -/
def hourSurvey : Survey :=
  ((Survey.draft ⟨1⟩ ⟨7⟩ "NPS").edit (.status .live)).edit
    (.cap ⟨true, 1, some ⟨1, .hours⟩, .perSurvey⟩)

/-- The survey is shown three times, and the last two are recorded in the wrong order. -/
def hourWrites : List Write :=
  [.insertSurvey hourSurvey, .impression ⟨"tab"⟩ ⟨7⟩ ⟨1⟩ (.atHour 0),
    .impression ⟨"tab"⟩ ⟨7⟩ ⟨1⟩ (.atHour 3), .impression ⟨"tab"⟩ ⟨7⟩ ⟨1⟩ (.atHour 2)]

/-- An hour in nanoseconds. -/
def hourNanos : Int := 3600000000000

/-- The impressions of these writes lie in the past, and in no leap second. -/
theorem hourWrites_past {now : Instant} (hnow : Instant.atHour 3 ≤ now) (device : DeviceId)
    (account : AccountId) (id : SurveyId) (t : Instant)
    (h : .impression device account id t ∈ hourWrites) : t.isLeap = false ∧ t ≤ now := by
  have ht : t = .atHour 0 ∨ t = .atHour 3 ∨ t = .atHour 2 := by
    simp only [hourWrites, List.mem_cons, Write.impression.injEq, reduceCtorEq, false_or,
      List.not_mem_nil, or_false] at h
    rcases h with ⟨-, -, -, rfl⟩ | ⟨-, -, -, rfl⟩ | ⟨-, -, -, rfl⟩
    · exact .inl rfl
    · exact .inr (.inl rfl)
    · exact .inr (.inr rfl)
  rcases ht with rfl | rfl | rfl
  · exact ⟨by decide, Instant.le_trans (by decide) hnow⟩
  · exact ⟨by decide, hnow⟩
  · exact ⟨by decide, Instant.le_trans (by decide) hnow⟩

/-- The window of the cap is no longer than what is kept. -/
theorem hourSurvey_fits : hourSurvey.cap.FitsIn hourNanos := by
  intro window hwindow
  obtain rfl := Option.some.inj hwindow
  decide

/-- The first impression is forgotten. The cap does not notice: it is reached for an hour after the
last one. -/
theorem compute_decide_keeping_hour :
    let kept := (Store.keeping (some hourNanos)).written hourWrites
    let full := (Store.keeping none).written hourWrites
    let now := Instant.atHour 3
    (kept.surveyLog ⟨"tab"⟩ ⟨1⟩).instants = [.atHour 2, .atHour 3] ∧
      (full.surveyLog ⟨"tab"⟩ ⟨1⟩).instants = [.atHour 0, .atHour 2, .atHour 3] ∧
      now.isLeap = false ∧
      (∀ device account id t, .impression device account id t ∈ hourWrites →
        t.isLeap = false ∧ t ≤ now) ∧
      hourSurvey.cap.FitsIn hourNanos ∧
      CapState.compute hourSurvey.cap (full.surveyLog ⟨"tab"⟩ ⟨1⟩) now =
        .reached (some (.atHour 4)) ∧
      CapState.compute hourSurvey.cap (kept.surveyLog ⟨"tab"⟩ ⟨1⟩) now =
        .reached (some (.atHour 4)) ∧
      (decide full.reads ⟨1⟩ (tabVisitor (.atHour 4)) []).1 = true ∧
      (decide kept.reads ⟨1⟩ (tabVisitor (.atHour 4)) []).1 = true := by
  intro kept full now
  have hfull : CapState.compute hourSurvey.cap (full.surveyLog ⟨"tab"⟩ ⟨1⟩) now =
      .reached (some (.atHour 4)) := by decide +kernel
  have hopen : (decide full.reads ⟨1⟩ (tabVisitor (.atHour 4)) []).1 = true := by decide +kernel
  have hread : ∀ s, kept.survey ⟨1⟩ = .ok s → s.cap.FitsIn hourNanos := by
    intro s hs
    obtain rfl := Except.ok.inj hs
    exact hourSurvey_fits
  have hpast : Instant.atHour 3 ≤ now := Int.le_refl _
  have hlater : Instant.atHour 3 ≤ .atHour 4 := by decide
  have hnow : now.isLeap = false := by decide
  have hnext : (Instant.atHour 4).isLeap = false := by decide
  obtain ⟨hcaps, -⟩ := compute_decide_keeping hourNanos hnow (hourWrites_past hpast)
  obtain ⟨-, hdecide⟩ := compute_decide_keeping hourNanos hnext (hourWrites_past hlater)
  have hkept := hdecide ⟨1⟩ (tabVisitor (.atHour 4)) rfl hread
  exact ⟨by decide +kernel, by decide +kernel, hnow, hourWrites_past hpast, hourSurvey_fits,
    hfull, ((hcaps _ hourSurvey_fits).survey _ _).trans hfull, hopen,
    (congrArg (fun f => (f []).1) hkept).trans hopen⟩

end SurveyGate
