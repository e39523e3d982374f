import SurveyGate.Survey.Basic

/-!
# `SurveyGate.Proofs.Survey.Validated`: what a validated survey promises

`Survey.validate` runs five checks, one after the other. `Survey.Sound` lists what they promise
together, and `Survey.validate_eq_ok_iff` says that a survey is let through exactly when it keeps all
of these promises. The one that the clock relies on is that a span of time is neither empty nor
longer than `Interval.maxSeconds`, whatever unit it counts (`Interval.validate_eq_ok_iff`).
-/

set_option autoImplicit false

namespace SurveyGate

/-- Two checks pass together when each of them does. -/
theorem checks_eq_ok_iff {ε : Type} {x y : Except ε Unit} :
    (do x; y) = .ok () ↔ x = .ok () ∧ y = .ok () := by
  cases x with
  | error e => exact ⟨fun h => (nomatch h), fun h => (nomatch h.1)⟩
  | ok u => exact ⟨fun h => ⟨rfl, h⟩, fun h => h.2⟩

/-! ### Spans of time -/

/-- No unit is empty. -/
theorem TimeUnit.seconds_pos (unit : TimeUnit) : 0 < unit.seconds := by cases unit <;> decide

/-- A span is neither empty nor longer than the longest one. -/
structure Interval.InRange (i : Interval) : Prop where
  pos : 0 < i.seconds
  le_maxSeconds : i.seconds ≤ Interval.maxSeconds

/-- The limit on the amount of each unit is a limit on the seconds. -/
theorem Interval.validate_eq_ok_iff {i : Interval} : i.validate = .ok () ↔ i.InRange := by
  have hunit := i.unit.seconds_pos
  have hlength : i.amount.toNat ≤ maxAmount i.unit ↔ i.seconds ≤ maxSeconds :=
    Nat.le_div_iff_mul_le hunit
  have hempty : 0 < i.seconds ↔ i.amount.toNat ≠ 0 := by
    rw [Interval.seconds, Nat.mul_pos_iff_of_pos_right hunit, Nat.pos_iff_ne_zero]
  -- What is left are comparisons of the amount, the form in which the check makes them.
  unfold validate
  split
  · rename_i hout
    refine ⟨fun h => (nomatch h), fun ⟨hpos, hle⟩ => ?_⟩
    rw [hempty] at hpos
    rw [← hlength] at hle
    omega
  · rename_i hin
    refine ⟨fun _ => ⟨?_, ?_⟩, fun _ => rfl⟩
    · rw [hempty]
      omega
    · rw [← hlength]
      omega

/-- A span that is there is in range. -/
theorem FrequencyCap.validateWindow_eq_ok_iff {window : Option Interval} :
    validateWindow window = .ok () ↔ ∀ i, window = some i → i.InRange := by
  cases window with
  | none => exact ⟨fun _ _ h => (nomatch h), fun _ => rfl⟩
  | some i =>
    show i.validate = .ok () ↔ _
    rw [Interval.validate_eq_ok_iff]
    exact ⟨fun h _ heq => Option.some.inj heq ▸ h, fun h => h i rfl⟩

/-! ### Surveys -/

/-- A limit is accepted unless it is zero. -/
theorem FrequencyCap.validateLimit_eq_ok_iff {limit : UInt32} :
    validateLimit limit = .ok () ↔ limit ≠ 0 := by
  unfold validateLimit
  split
  · rename_i hzero
    exact ⟨fun h => (nomatch h), fun h => absurd hzero h⟩
  · rename_i hne
    exact ⟨fun _ => hne, fun _ => rfl⟩

/-- A schedule is accepted unless it ends before it starts. -/
theorem Schedule.validate_eq_ok_iff {s : Schedule} :
    s.validate = .ok () ↔
      ∀ start stop, s.startsAt = some start → s.endsAt = some stop → ¬ stop < start := by
  obtain ⟨startsAt, endsAt⟩ := s
  unfold validate
  cases startsAt with
  | none => exact ⟨fun _ _ _ h => (nomatch h), fun _ => rfl⟩
  | some start =>
    cases endsAt with
    | none => exact ⟨fun _ _ _ _ h => (nomatch h), fun _ => rfl⟩
    | some stop =>
      dsimp only
      split
      · rename_i hinverted
        exact ⟨fun h => (nomatch h), fun h => absurd hinverted (h start stop rfl rfl)⟩
      · rename_i hinOrder
        refine ⟨fun _ start' stop' hstart hstop => ?_, fun _ => rfl⟩
        obtain rfl := Option.some.inj hstart
        obtain rfl := Option.some.inj hstop
        exact hinOrder

namespace Survey

/-- The parts of a survey fit together and are in range. -/
structure Sound (s : Survey) : Prop where
  refire : s.refireEnabled = true → s.refireInterval.isSome = true
  limit : s.cap.enabled = true → s.cap.limit ≠ 0
  interval : ∀ i, s.refireInterval = some i → i.InRange
  window : ∀ i, s.cap.window = some i → i.InRange
  schedule : ∀ start stop, s.schedule.startsAt = some start → s.schedule.endsAt = some stop →
    ¬ stop < start

/-- Refire is accepted with an interval. -/
theorem validateRefire_eq_ok_iff {s : Survey} :
    s.validateRefire = .ok () ↔ (s.refireEnabled = true → s.refireInterval.isSome = true) := by
  unfold validateRefire
  cases s.refireEnabled <;> cases s.refireInterval <;> simp

/-- A survey is let through exactly when its parts fit together and are in range. -/
theorem validate_eq_ok_iff {s : Survey} : s.validate = .ok () ↔ s.Sound := by
  have hlimit : (if s.cap.enabled then FrequencyCap.validateLimit s.cap.limit else .ok ()) =
      .ok () ↔ (s.cap.enabled = true → s.cap.limit ≠ 0) := by
    rw [← FrequencyCap.validateLimit_eq_ok_iff]
    cases s.cap.enabled <;> simp
  have hchecks : s.validate = .ok () ↔ s.validateRefire = .ok () ∧
      (if s.cap.enabled then FrequencyCap.validateLimit s.cap.limit else .ok ()) = .ok () ∧
      FrequencyCap.validateWindow s.refireInterval = .ok () ∧
      FrequencyCap.validateWindow s.cap.window = .ok () ∧ s.schedule.validate = .ok () := by
    rw [← checks_eq_ok_iff, ← checks_eq_ok_iff, ← checks_eq_ok_iff, ← checks_eq_ok_iff]
    -- The check of the limit is left out where the cap is off.
    unfold validate
    cases s.cap.enabled <;> rfl
  rw [hchecks, validateRefire_eq_ok_iff, hlimit, FrequencyCap.validateWindow_eq_ok_iff,
    FrequencyCap.validateWindow_eq_ok_iff, Schedule.validate_eq_ok_iff]
  exact ⟨fun ⟨h₁, h₂, h₃, h₄, h₅⟩ => ⟨h₁, h₂, h₃, h₄, h₅⟩,
    fun h => ⟨h.refire, h.limit, h.interval, h.window, h.schedule⟩⟩

end Survey

end SurveyGate
