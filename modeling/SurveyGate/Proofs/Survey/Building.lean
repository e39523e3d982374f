import SurveyGate.Proofs.History.Ordered
import SurveyGate.Proofs.Survey.Validated

/-!
# `SurveyGate.Proofs.Survey.Building`: surveys that are built step by step

A survey is built from a draft by any number of edits, and a later one replaces what an earlier one
supplied. So of each part the survey has the value that was supplied last, or the one of the draft
(`Survey.part_foldl_edit`).

Intervals, schedules and caps have a checked form, which accepts the values that `Survey.validate`
lets through (`Interval.checked_eq_ok_iff`, `Schedule.checked_eq_ok_iff`,
`FrequencyCap.checked_eq_ok_iff`). The two differ in a cap that is off: the checked form makes no
such cap, while a survey with one is let through whatever its limit is, but not with a window out of
range. `Survey.built_validate_iff` puts the edits and the checked forms together.
-/

set_option autoImplicit false

namespace SurveyGate

/-! ### Checked forms -/

/-- A value that is returned behind a check is accepted when the check passes. -/
theorem return_checked_eq_ok_iff {ε α : Type} {check : Except ε Unit} {a b : α} :
    (do check; return a) = .ok b ↔ b = a ∧ check = .ok () := by
  cases check with
  | error e => exact ⟨fun h => (nomatch h), fun h => (nomatch h.2)⟩
  | ok u => exact ⟨fun h => ⟨(Except.ok.inj h).symm, rfl⟩, fun h => congrArg Except.ok h.1.symm⟩

/-- A span is accepted when it is longer than nothing and no longer than a hundred years of 365
days. -/
theorem Interval.checked_eq_ok_iff {amount : UInt32} {unit : TimeUnit} {i : Interval} :
    checked amount unit = .ok i ↔
      i = ⟨amount, unit⟩ ∧ 0 < i.seconds ∧ i.seconds ≤ 36500 * TimeUnit.days.seconds := by
  have hchecked : checked amount unit = .ok i ↔
      i = ⟨amount, unit⟩ ∧ Interval.validate ⟨amount, unit⟩ = .ok () := return_checked_eq_ok_iff
  rw [hchecked, validate_eq_ok_iff]
  constructor
  · rintro ⟨rfl, hrange⟩
    exact ⟨rfl, hrange.pos, hrange.le_maxSeconds⟩
  · rintro ⟨rfl, hpos, hle⟩
    exact ⟨rfl, hpos, hle⟩

/-- The checked form accepts what the check lets through. -/
theorem Interval.checked_self_iff {i : Interval} :
    checked i.amount i.unit = .ok i ↔ i.InRange := by
  rw [checked_eq_ok_iff]
  exact ⟨fun ⟨_, hpos, hle⟩ => ⟨hpos, hle⟩, fun h => ⟨rfl, h.pos, h.le_maxSeconds⟩⟩

/-- A schedule that does not end before it begins contains its bounds, or every instant if it has
none. -/
theorem Schedule.validate_iff_contains {s : Schedule} :
    s.validate = .ok () ↔ ∃ t, s.contains t = true := by
  rw [validate_eq_ok_iff]
  obtain ⟨startsAt, endsAt⟩ := s
  simp only [contains, Bool.and_eq_true, Option.all_eq_true, decide_eq_true_eq]
  constructor
  · intro hinOrder
    cases startsAt with
    | none =>
      -- Without a beginning the last instant will do.
      refine ⟨endsAt.getD default, by simp, ?_⟩
      rintro stop rfl
      exact Int.le_refl _
    | some start =>
      refine ⟨start, ?_, ?_⟩
      · rintro _ ⟨⟩
        exact Int.le_refl _
      · rintro stop rfl
        exact Int.not_lt.1 (hinOrder start stop rfl rfl)
  · rintro ⟨t, hstart, hstop⟩ start stop rfl rfl hlt
    exact Int.not_lt.2 (Instant.le_trans (hstart start rfl) (hstop stop rfl)) hlt

/-- A schedule is accepted when it contains an instant. -/
theorem Schedule.checked_eq_ok_iff {startsAt endsAt : Option Instant} {s : Schedule} :
    checked startsAt endsAt = .ok s ↔ s = ⟨startsAt, endsAt⟩ ∧ ∃ t, s.contains t = true := by
  have hchecked : checked startsAt endsAt = .ok s ↔
      s = ⟨startsAt, endsAt⟩ ∧ Schedule.validate ⟨startsAt, endsAt⟩ = .ok () :=
    return_checked_eq_ok_iff
  rw [hchecked]
  refine and_congr_right fun hs => ?_
  rw [hs, validate_iff_contains]

/-- The checked form accepts what the check lets through. -/
theorem Schedule.checked_self_iff {s : Schedule} :
    checked s.startsAt s.endsAt = .ok s ↔ s.validate = .ok () := by
  rw [checked_eq_ok_iff, validate_iff_contains, and_iff_right rfl]

/-- A limit of at least one is one that is not zero. -/
theorem FrequencyCap.one_le_limit_iff {limit : UInt32} : 1 ≤ limit ↔ limit ≠ 0 := by
  constructor
  · rintro hle rfl
    exact absurd hle (by decide)
  · intro hne
    have hpos : limit.toNat ≠ 0 := fun h => hne (UInt32.toNat_inj.1 h)
    rw [UInt32.le_iff_toNat_le]
    exact Nat.one_le_iff_ne_zero.2 hpos

/-- An enabled cap is accepted with a limit that is not zero and with a window that is accepted or
absent. -/
theorem FrequencyCap.checked_eq_ok_iff {limit : UInt32} {window : Option Interval}
    {scope : CapScope} {c : FrequencyCap} :
    checked limit window scope = .ok c ↔ c = ⟨true, limit, window, scope⟩ ∧
      (∀ i, window = some i → Interval.checked i.amount i.unit = .ok i) ∧ 1 ≤ limit := by
  -- The two checks in front of the result are taken as one.
  have hchecked : checked limit window scope = .ok c ↔ c = ⟨true, limit, window, scope⟩ ∧
      (do validateWindow window; validateLimit limit) = .ok () := by
    rw [← return_checked_eq_ok_iff, bind_assoc]
    rfl
  rw [hchecked, checks_eq_ok_iff, validateWindow_eq_ok_iff, validateLimit_eq_ok_iff,
    ← one_le_limit_iff]
  simp only [Interval.checked_self_iff]

/-! ### Edits -/

namespace SurveyEdit

/-- The schedule that an edit supplies. -/
def schedule? : SurveyEdit → Option Schedule
  | .schedule value => some value
  | _ => none

/-- The cap that an edit supplies. -/
def cap? : SurveyEdit → Option FrequencyCap
  | .cap value => some value
  | _ => none

/-- The interval of refire that an edit supplies. -/
def refire? : SurveyEdit → Option Interval
  | .refire interval => some interval
  | _ => none

/-- The value that is supplied last, if any is. -/
def last? {α : Type} (supplied? : SurveyEdit → Option α) (edits : List SurveyEdit) : Option α :=
  (edits.filterMap supplied?).getLast?

end SurveyEdit

namespace Survey

/-- A part that each edit replaces or leaves alone has, after any number of edits, the value that
was supplied last. -/
theorem part_foldl_edit {α : Type} (part : Survey → α) (supplied? : SurveyEdit → Option α)
    (hedit : ∀ s e, part (edit s e) = (supplied? e).getD (part s)) (s : Survey)
    (edits : List SurveyEdit) :
    part (edits.foldl edit s) = (SurveyEdit.last? supplied? edits).getD (part s) := by
  -- The first edit is made part of the survey that the others begin with: what it supplies is kept
  -- only if nothing is supplied behind it.
  induction edits generalizing s with
  | nil => rfl
  | cons e edits ih =>
    rw [List.foldl_cons, ih, hedit, SurveyEdit.last?, SurveyEdit.last?]
    cases hsupplied : supplied? e with
    | none =>
      rw [List.filterMap_cons_none hsupplied]
      rfl
    | some a =>
      rw [List.filterMap_cons_some hsupplied, List.getLast?_cons]
      rfl

section
variable (id : SurveyId) (account : AccountId) (name : String) (edits : List SurveyEdit)

/-- The schedule is the last one that was set. -/
theorem schedule_built : (edits.foldl edit (draft id account name)).schedule =
    (SurveyEdit.last? SurveyEdit.schedule? edits).getD .unbounded :=
  part_foldl_edit schedule SurveyEdit.schedule? (fun s e => by cases e <;> rfl) _ edits

/-- The cap is the last one that was set. -/
theorem cap_built : (edits.foldl edit (draft id account name)).cap =
    (SurveyEdit.last? SurveyEdit.cap? edits).getD .disabled :=
  part_foldl_edit cap SurveyEdit.cap? (fun s e => by cases e <;> rfl) _ edits

/-- Refire is on when an interval was supplied, with the last one. -/
theorem refire_built :
    (edits.foldl edit (draft id account name)).refireEnabled =
      (SurveyEdit.last? SurveyEdit.refire? edits).isSome ∧
    (edits.foldl edit (draft id account name)).refireInterval =
      SurveyEdit.last? SurveyEdit.refire? edits := by
  -- The switch and the interval are supplied together, so they are one part.
  have hpart := part_foldl_edit (fun s => (s.refireEnabled, s.refireInterval))
    (fun e => e.refire?.map fun i => (true, some i)) (fun s e => by cases e <;> rfl)
    (draft id account name) edits
  have hlast : SurveyEdit.last? (fun e => e.refire?.map fun i => (true, some i)) edits =
      (SurveyEdit.last? SurveyEdit.refire? edits).map fun i => (true, some i) := by
    rw [SurveyEdit.last?, SurveyEdit.last?, ← List.map_filterMap, List.getLast?_map]
  rw [hlast, Prod.mk.injEq] at hpart
  obtain ⟨henabled, hinterval⟩ := hpart
  rw [henabled, hinterval]
  cases SurveyEdit.last? SurveyEdit.refire? edits <;> exact ⟨rfl, rfl⟩

end

/-- What a survey has to keep, by the values that were supplied for its parts. -/
theorem sound_iff_of_parts {s : Survey} {schedule : Option Schedule} {cap : Option FrequencyCap}
    (hschedule : s.schedule = schedule.getD .unbounded) (hcap : s.cap = cap.getD .disabled)
    (hrefire : s.refireEnabled = s.refireInterval.isSome) :
    s.Sound ↔
      (∀ value, schedule = some value → value.validate = .ok ()) ∧
      (∀ i, s.refireInterval = some i → i.InRange) ∧
      ∀ c, cap = some c →
        (∀ i, c.window = some i → i.InRange) ∧ (c.enabled = true → c.limit ≠ 0) := by
  constructor
  · intro h
    refine ⟨?_, h.interval, ?_⟩
    · rintro value rfl
      rw [Option.getD_some] at hschedule
      exact Schedule.validate_eq_ok_iff.2 (hschedule ▸ h.schedule)
    · rintro c rfl
      rw [Option.getD_some] at hcap
      exact ⟨hcap ▸ h.window, hcap ▸ h.limit⟩
  · rintro ⟨hvalue, hinterval, hvalues⟩
    have hboth : (∀ i, s.cap.window = some i → i.InRange) ∧
        (s.cap.enabled = true → s.cap.limit ≠ 0) := by
      cases cap with
      | some c =>
        rw [hcap]
        exact hvalues c rfl
      | none =>
        -- The cap of a draft is off and has no window.
        simp [hcap, FrequencyCap.disabled]
    refine ⟨fun henabled => hrefire ▸ henabled, hboth.2, hinterval, hboth.1, ?_⟩
    rw [← Schedule.validate_eq_ok_iff, hschedule]
    cases schedule with
    | some value => exact hvalue value rfl
    | none => rfl

end Survey

/-- A survey that was built from a draft by any edits is let through exactly when the checked forms
accept what was supplied last: the schedule, the interval of refire, and the window of the cap,
which has a limit of at least one if it is on. That is what the checked form asks of an enabled cap.

The checked forms accept the spans that are longer than nothing and no longer than 36500 days, in
whichever unit, and the schedules that contain an instant. -/
theorem Survey.built_validate_iff (id : SurveyId) (account : AccountId) (name : String)
    (edits : List SurveyEdit) :
    ((edits.foldl edit (draft id account name)).validate = .ok () ↔
      (∀ s, SurveyEdit.last? SurveyEdit.schedule? edits = some s →
        Schedule.checked s.startsAt s.endsAt = .ok s) ∧
      (∀ i, SurveyEdit.last? SurveyEdit.refire? edits = some i →
        Interval.checked i.amount i.unit = .ok i) ∧
      ∀ c, SurveyEdit.last? SurveyEdit.cap? edits = some c →
        (∀ i, c.window = some i → Interval.checked i.amount i.unit = .ok i) ∧
        (c.enabled = true → 1 ≤ c.limit)) ∧
    (∀ c : FrequencyCap, c.enabled = true →
      ((∀ i, c.window = some i → Interval.checked i.amount i.unit = .ok i) ∧
          (c.enabled = true → 1 ≤ c.limit) ↔
        FrequencyCap.checked c.limit c.window c.scope = .ok c)) ∧
    (∀ amount unit i, Interval.checked amount unit = .ok i ↔
      i = ⟨amount, unit⟩ ∧ 0 < i.seconds ∧ i.seconds ≤ 36500 * TimeUnit.days.seconds) ∧
    ∀ startsAt endsAt s, Schedule.checked startsAt endsAt = .ok s ↔
      s = ⟨startsAt, endsAt⟩ ∧ ∃ t, s.contains t = true := by
  refine ⟨?_, ?_, fun _ _ _ => Interval.checked_eq_ok_iff, fun _ _ _ => Schedule.checked_eq_ok_iff⟩
  · obtain ⟨henabled, hinterval⟩ := refire_built id account name edits
    have hparts := sound_iff_of_parts (schedule_built id account name edits)
      (cap_built id account name edits) (by rw [henabled, hinterval])
    rw [validate_eq_ok_iff, hparts, hinterval]
    simp only [Schedule.checked_self_iff, Interval.checked_self_iff, FrequencyCap.one_le_limit_iff]
  · intro c henabled
    have hself : c = ⟨true, c.limit, c.window, c.scope⟩ := by rw [← henabled]
    rw [FrequencyCap.checked_eq_ok_iff, and_iff_right hself]
    exact and_congr_right fun _ => ⟨fun h => h henabled, fun h _ => h⟩

/-- A cap with a limit of zero does no harm once it is replaced, and the longest spans are let
through in days and in minutes. A cap that is off is refused for its empty window. -/
theorem Survey.built_validate_iff_replaced :
    let edits : List SurveyEdit := [.cap ⟨true, 0, none, .perSurvey⟩, .refire ⟨36500, .days⟩,
      .cap ⟨true, 1, some ⟨52560000, .minutes⟩, .perAccount⟩]
    let off : FrequencyCap := ⟨false, 0, some ⟨0, .days⟩, .perSurvey⟩
    let spoilt : List SurveyEdit := edits ++ [.cap off]
    (edits.foldl edit (draft ⟨1⟩ ⟨7⟩ "NPS")).validate = .ok () ∧
      (spoilt.foldl edit (draft ⟨1⟩ ⟨7⟩ "NPS")).validate ≠ .ok () := by
  intro edits off spoilt
  obtain ⟨hbuilt, -, hspan, -⟩ := built_validate_iff ⟨1⟩ ⟨7⟩ "NPS" edits
  obtain ⟨hoff, -⟩ := built_validate_iff ⟨1⟩ ⟨7⟩ "NPS" spoilt
  constructor
  · refine hbuilt.2 ⟨?_, ?_, ?_⟩
    · rintro _ ⟨⟩
    · rintro _ ⟨⟩
      exact (hspan _ _ _).2 ⟨rfl, by decide, by decide⟩
    · rintro _ ⟨⟩
      refine ⟨?_, fun _ => by decide⟩
      rintro _ ⟨⟩
      exact (hspan _ _ _).2 ⟨rfl, by decide, by decide⟩
  · intro hpasses
    obtain ⟨-, -, hcap⟩ := hoff.1 hpasses
    obtain ⟨-, hpos, -⟩ := (hspan _ _ _).1 ((hcap off rfl).1 ⟨0, .days⟩ rfl)
    exact absurd hpos (by decide)

end SurveyGate
