import SurveyGate.Proofs.History.Recording

/-!
# `SurveyGate.Proofs.History.Decay`: how long a cap stays reached

A cap with a window and a limit of `n` hangs on a single impression, the `n`-th latest
(`nthLatest?`). It is reached while that impression is younger than the window is long, and it
opens again when the impression leaves the window (`windowed_eq_reached_iff`). Which impression
that is does not depend on the instant of the question, so the state can be followed as time
passes: `reached_until_decay` says that a cap that is reached stays so, with the same end, up to
that end and not beyond it. Impressions dated to the future count like the others.
-/

set_option autoImplicit false

namespace SurveyGate

/-- The instant with `n - 1` others behind it. -/
def nthLatest? (n : Nat) (ts : List Instant) : Option Instant := ts.reverse[n - 1]?

section
variable {n : Nat} {ts us : List Instant} {t : Instant}

/-- Among enough instants at the end, the one in question stands at the `n`-th place from behind. -/
theorem nthLatest?_append_of_le (hn : 0 < n) (h : n ≤ us.length) :
    nthLatest? n (ts ++ us) = us[us.length - n]? := by
  rw [nthLatest?, List.reverse_append,
    List.getElem?_append_left (by rw [List.length_reverse]; omega),
    List.getElem?_reverse (by omega)]
  congr 1
  omega

/-- Behind too few instants at the end, the one in question stands before them. -/
theorem mem_of_nthLatest?_append (h : us.length < n) (ht : nthLatest? n (ts ++ us) = some t) :
    t ∈ ts := by
  rw [nthLatest?, List.reverse_append,
    List.getElem?_append_right (by rw [List.length_reverse]; omega)] at ht
  exact List.mem_reverse.1 (List.mem_of_getElem? ht)

/-- In an ordered list the instants after a number of nanoseconds stand at the end. -/
theorem eq_append_younger (hasc : Ascending ts) (hts : ∀ u ∈ ts, u.isLeap = false) (c : Int) :
    ts.filter (fun u => u.nanos ≤ c) ++ ts.filter (fun u => c < u.nanos) = ts := by
  have hnanos : ts.Pairwise fun a b => a.nanos ≤ b.nanos :=
    hasc.imp_of_mem fun ha _ hab => Instant.nanos_le_of_le (hts _ ha) hab
  have hdown : ∀ a b : Instant, a.nanos ≤ b.nanos → decide (b.nanos ≤ c) = true →
      decide (a.nanos ≤ c) = true :=
    fun a b hab hb => decide_eq_true (Int.le_trans hab (of_decide_eq_true hb))
  have hsplit := filter_append_filter_not hnanos hdown
  have hrest : ts.filter (fun u => !decide (u.nanos ≤ c)) = ts.filter (fun u => c < u.nanos) := by
    apply List.filter_congr
    intro u _
    rw [← decide_not]
    exact decide_eq_decide.2 Int.not_le
  rwa [hrest] at hsplit

end

namespace CapState

variable {limit window : Nat} {ts : List Instant} {now later opening : Instant}
  {reopens : Option Instant}

/-- The impressions in the window are enough exactly when the cap is reached. -/
theorem exists_windowed_iff :
    (∃ reopens, windowed limit window now ts = .reached reopens) ↔
      limit ≤ (inWindow window now ts).length := by
  unfold windowed
  dsimp only
  split
  · rename_i hfew
    exact ⟨fun ⟨_, h⟩ => (nomatch h), fun h => by omega⟩
  · rename_i hmany
    exact ⟨fun _ => by omega, fun _ => ⟨_, rfl⟩⟩

/-- The place that tells when the cap opens again lies among the counted impressions. -/
theorem exists_getElem?_of_windowed (hlimit : 0 < limit)
    (h : windowed limit window now ts = .reached reopens) :
    ∃ t, (inWindow window now ts)[(inWindow window now ts).length - limit]? = some t ∧
      reopens = t.after window := by
  have hmany := exists_windowed_iff.1 ⟨reopens, h⟩
  have hplace : (inWindow window now ts).length - limit < (inWindow window now ts).length := by
    omega
  unfold windowed at h
  dsimp only at h
  rw [if_neg (by omega), List.getElem?_eq_getElem hplace] at h
  exact ⟨_, List.getElem?_eq_getElem hplace, (reached.inj h).symm⟩

section
variable (hlimit : 0 < limit) (hasc : Ascending ts) (hts : ∀ u ∈ ts, u.isLeap = false)
include hlimit hasc hts

/-- A cap with a window is reached exactly while the impression that its limit points at is younger
than the window, and opens again when that impression leaves the window. -/
theorem windowed_eq_reached_iff (hnow : now.isLeap = false) :
    windowed limit window now ts = .reached reopens ↔
      ∃ t, nthLatest? limit ts = some t ∧ now.nanos - window * nanosPerSecond < t.nanos ∧
        reopens = t.after window := by
  have hcounted := inWindow_eq_filter hasc hts hnow window
  have hsplit := eq_append_younger hasc hts (now.nanos - window * nanosPerSecond)
  rw [← hcounted] at hsplit
  constructor
  · intro h
    have hmany := exists_windowed_iff.1 ⟨reopens, h⟩
    obtain ⟨t, ht, hreopens⟩ := exists_getElem?_of_windowed hlimit h
    refine ⟨t, ?_, ?_, hreopens⟩
    · rw [← hsplit, nthLatest?_append_of_le hlimit hmany]
      exact ht
    · have hmem := List.mem_of_getElem? ht
      rw [hcounted] at hmem
      simpa using (List.mem_filter.1 hmem).2
  · rintro ⟨t, ht, hyoung, rfl⟩
    -- With fewer impressions in the window, the one in question would be older.
    have hmany : limit ≤ (inWindow window now ts).length := by
      by_contra hfew
      rw [← hsplit] at ht
      have hold := mem_of_nthLatest?_append (by omega) ht
      have hle : t.nanos ≤ now.nanos - window * nanosPerSecond := by
        simpa using (List.mem_filter.1 hold).2
      omega
    obtain ⟨reopens, hreached⟩ := exists_windowed_iff.2 hmany
    obtain ⟨u, hu, rfl⟩ := exists_getElem?_of_windowed hlimit hreached
    rw [← hsplit, nthLatest?_append_of_le hlimit hmany, hu] at ht
    obtain rfl := Option.some.inj ht
    exact hreached

/-- A cap that is not reached is below its limit. -/
theorem windowed_eq_below (hnow : now.isLeap = false)
    (h : ∀ t, nthLatest? limit ts = some t → t.nanos ≤ now.nanos - window * nanosPerSecond) :
    windowed limit window now ts = .below := by
  cases hstate : windowed limit window now ts with
  | below => rfl
  | reached reopens =>
    obtain ⟨t, ht, hyoung, -⟩ := (windowed_eq_reached_iff hlimit hasc hts hnow).1 hstate
    have hold := h t ht
    omega

/-- A cap that is reached with an end is reached until that end, and open from then on. -/
theorem windowed_until (hnow : now.isLeap = false)
    (h : windowed limit window now ts = .reached (some opening)) :
    opening.isLeap = false ∧ now < opening ∧
      (∀ later : Instant, later.isLeap = false → now ≤ later → later < opening →
        windowed limit window later ts = .reached (some opening)) ∧
      ∀ later : Instant, later.isLeap = false → opening ≤ later →
        windowed limit window later ts = .below := by
  obtain ⟨t, ht, hyoung, hafter⟩ := (windowed_eq_reached_iff hlimit hasc hts hnow).1 h
  have hmem : t ∈ ts := List.mem_reverse.1 (List.mem_of_getElem? ht)
  obtain ⟨hopening, hnanos⟩ := Instant.nanos_of_after (hts t hmem) hafter.symm
  refine ⟨hopening, ?_, fun later hlater _ hbefore => ?_, fun later hlater hpast => ?_⟩
  · rw [Instant.lt_iff_nanos_lt hnow hopening]
    omega
  · rw [Instant.lt_iff_nanos_lt hlater hopening] at hbefore
    exact (windowed_eq_reached_iff hlimit hasc hts hlater).2 ⟨t, ht, by omega, hafter⟩
  · rw [Instant.le_iff_nanos_le hopening hlater] at hpast
    refine windowed_eq_below hlimit hasc hts hlater fun u hu => ?_
    obtain rfl := Option.some.inj (hu.symm.trans ht)
    omega

/-- A cap that is reached without an end is reached at every instant, before this one too. -/
theorem windowed_for_good (hnow : now.isLeap = false)
    (h : windowed limit window now ts = .reached none) (hlater : later.isLeap = false) :
    windowed limit window later ts = .reached none := by
  obtain ⟨t, ht, hyoung, hafter⟩ := (windowed_eq_reached_iff hlimit hasc hts hnow).1 h
  refine (windowed_eq_reached_iff hlimit hasc hts hlater).2 ⟨t, ht, ?_, hafter⟩
  have hmem : t ∈ ts := List.mem_reverse.1 (List.mem_of_getElem? ht)
  -- The end of the window lies behind the clock, so no instant is that late.
  have hout := Instant.shiftNanos_eq_none (hts t hmem) hafter.symm
  have hmin := Instant.minNanos_le_nanos t
  have hmax := Instant.nanos_le_maxNanos hlater
  have hspan : (0 : Int) ≤ window * nanosPerSecond :=
    Int.mul_nonneg (Int.natCast_nonneg _) (Int.natCast_nonneg _)
  omega

end

/-- The state of a cap with a window. -/
theorem compute_of_window {cap : FrequencyCap} {w : Interval} (henabled : cap.enabled = true)
    (hlimit : cap.limit ≠ 0) (hwindow : cap.window = some w) (log : ImpressionLog) (now : Instant) :
    compute cap log now = windowed cap.limit.toNat w.seconds now log.instants := by
  simp [compute, henabled, hlimit, hwindow]

/-- Take an enabled cap with a window and a limit, and a log in order; leap seconds are left out.

- The cap is reached exactly when at least as many impressions as its limit are younger than the
  window is long.
- If it is reached and opens again at an instant, that instant lies ahead; the state stays the same
  up to it, and from it on the cap is not reached.
- If it is reached and does not open again, the state is the same at every instant.
- Whenever it is reached, the place that decides on the end lies among the impressions in the
  window. -/
theorem reached_until_decay {cap : FrequencyCap} {w : Interval} (henabled : cap.enabled = true)
    (hlimit : cap.limit ≠ 0) (hwindow : cap.window = some w) {log : ImpressionLog}
    (hasc : Ascending log.instants) (hlog : ∀ t ∈ log.instants, t.isLeap = false) {now : Instant}
    (hnow : now.isLeap = false) :
    ((∃ reopens, compute cap log now = .reached reopens) ↔
      cap.limit.toNat ≤ younger (now.nanos - w.seconds * nanosPerSecond) log.instants) ∧
    (∀ opening, compute cap log now = .reached (some opening) →
      opening.isLeap = false ∧ now < opening ∧
      (∀ later, later.isLeap = false → now ≤ later → later < opening →
        compute cap log later = .reached (some opening)) ∧
      ∀ later, later.isLeap = false → opening ≤ later → compute cap log later = .below) ∧
    (compute cap log now = .reached none →
      ∀ later, later.isLeap = false → compute cap log later = .reached none) ∧
    ∀ reopens, compute cap log now = .reached reopens →
      ∃ t, (inWindow w.seconds now log.instants)[(inWindow w.seconds now log.instants).length -
        cap.limit.toNat]? = some t ∧ reopens = t.after w.seconds := by
  have hpos : 0 < cap.limit.toNat := Nat.pos_of_ne_zero fun hzero =>
    hlimit (UInt32.toNat_inj.1 hzero)
  simp only [compute_of_window henabled hlimit hwindow]
  refine ⟨?_, fun opening h => ?_, fun h later hlater => ?_, fun reopens h => ?_⟩
  · rw [exists_windowed_iff, length_inWindow hasc hlog hnow]
  · exact windowed_until hpos hasc hlog hnow h
  · exact windowed_for_good hpos hasc hlog hnow h hlater
  · exact exists_getElem?_of_windowed hpos h

/-- Two impressions a day, and an impression that was recorded twice. -/
def twiceDaily : FrequencyCap := ⟨true, 2, some ⟨24, .hours⟩, .perSurvey⟩

/-- Two impressions in a window longer than the clock. -/
def twiceInAges : FrequencyCap := ⟨true, 2, some ⟨4294967295, .days⟩, .perSurvey⟩

/-- A log with two impressions at the same instant. -/
def twiceLog : ImpressionLog := ⟨[.atHour 0, .atHour 1, .atHour 1], 3⟩

/-- The log is in order. -/
theorem twiceLog_ascending : Ascending twiceLog.instants :=
  List.pairwise_cons.2 ⟨by decide +kernel, List.pairwise_cons.2 ⟨by decide +kernel,
    List.pairwise_singleton ..⟩⟩

/-- The impression at hour 1 decides on the daily cap, which is open again a day after it. The cap
with the longest window does not open again while the clock runs. -/
theorem reached_until_decay_twice :
    Ascending twiceLog.instants ∧ (∀ t ∈ twiceLog.instants, t.isLeap = false) ∧
      compute twiceDaily twiceLog (.atHour 2) = .reached (some (.atHour 25)) ∧
      compute twiceDaily twiceLog (.atHour 24) = .reached (some (.atHour 25)) ∧
      compute twiceDaily twiceLog (.atHour 25) = .below ∧
      compute twiceInAges twiceLog (.atHour 2) = .reached none ∧
      compute twiceInAges twiceLog .latest = .reached none := by
  have hlog : ∀ t ∈ twiceLog.instants, t.isLeap = false := by decide +kernel
  have hdaily : compute twiceDaily twiceLog (.atHour 2) = .reached (some (.atHour 25)) := by
    decide +kernel
  have hages : compute twiceInAges twiceLog (.atHour 2) = .reached none := by decide +kernel
  have hnow : (Instant.atHour 2).isLeap = false := by decide +kernel
  have hlimit : twiceDaily.limit ≠ 0 := by decide
  obtain ⟨-, huntil, -, -⟩ := reached_until_decay rfl hlimit rfl twiceLog_ascending hlog hnow
  have hlimit : twiceInAges.limit ≠ 0 := by decide
  obtain ⟨-, -, hforGood, -⟩ := reached_until_decay rfl hlimit rfl twiceLog_ascending hlog hnow
  obtain ⟨-, -, hstays, hopens⟩ := huntil _ hdaily
  exact ⟨twiceLog_ascending, hlog, hdaily,
    hstays _ (by decide +kernel) (by decide +kernel) (by decide +kernel),
    hopens _ (by decide +kernel) (by decide +kernel), hages,
    hforGood hages _ (by decide +kernel)⟩

end CapState

end SurveyGate
