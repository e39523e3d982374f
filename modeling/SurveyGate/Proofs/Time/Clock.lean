import SurveyGate.Time.Instant

/-!
# `SurveyGate.Proofs.Time.Clock`: arithmetic on the clock

An instant outside a leap second is told by its nanoseconds since 1970. On such instants the order
of the clock is the order of the nanoseconds (`le_iff_nanos_le`), and a shift adds to them
(`nanos_of_shiftNanos`) unless the sum lies outside the clock (`shiftNanos_eq_none`). Windows are
measured back from an instant, so the two cases of `Instant.before` are stated on their own: the
window that begins before the clock (`nanos_lt_of_before_eq_none`) holds every instant there is.
-/

set_option autoImplicit false

namespace SurveyGate.Instant

/-- The nanoseconds of the first instant of the clock. -/
def minNanos : Int := minSecond * nanosPerSecond

/-- The nanoseconds of the last instant of the clock. -/
def maxNanos : Int := maxSecond * nanosPerSecond + (nanosPerSecond - 1)

/-- Outside leap seconds the nanoseconds read stay below a second. -/
theorem nano_lt_of_not_leap {t : Instant} (ht : t.isLeap = false) : t.nano < nanosPerSecond := by
  simpa [isLeap] using ht

/-- Within the nanoseconds of a second there is no leap second. -/
theorem not_leap_of_nano_lt {t : Instant} (h : t.nano < nanosPerSecond) : t.isLeap = false := by
  simpa [isLeap] using h

/-- Outside leap seconds the clock is ordered by nanoseconds. -/
theorem le_iff_nanos_le {a b : Instant} (ha : a.isLeap = false) (hb : b.isLeap = false) :
    a ≤ b ↔ a.nanos ≤ b.nanos := by
  have hna := nano_lt_of_not_leap ha
  have hnb := nano_lt_of_not_leap hb
  simp only [le_def, position, nanos, nanosPerSecond] at hna hnb ⊢
  omega

/-- Outside leap seconds instants are in the order of their nanoseconds. -/
theorem lt_iff_nanos_lt {a b : Instant} (ha : a.isLeap = false) (hb : b.isLeap = false) :
    a < b ↔ a.nanos < b.nanos := by
  have hna := nano_lt_of_not_leap ha
  have hnb := nano_lt_of_not_leap hb
  simp only [lt_def, position, nanos, nanosPerSecond] at hna hnb ⊢
  omega

/-- A later reading has no fewer nanoseconds than one outside leap seconds. -/
theorem nanos_le_of_le {a b : Instant} (ha : a.isLeap = false) (h : a ≤ b) :
    a.nanos ≤ b.nanos := by
  have hna := nano_lt_of_not_leap ha
  simp only [le_def, position, nanos, nanosPerSecond] at hna h ⊢
  omega

/-- No instant is before the first one, leap second or not. -/
theorem minNanos_le_nanos (t : Instant) : minNanos ≤ t.nanos := by
  have h := t.minSecond_le
  simp only [minNanos, nanos, nanosPerSecond]
  omega

/-- An instant outside leap seconds is not after the last one. -/
theorem nanos_le_maxNanos {t : Instant} (ht : t.isLeap = false) : t.nanos ≤ maxNanos := by
  have h := t.le_maxSecond
  have hn := nano_lt_of_not_leap ht
  simp only [maxNanos, nanos, nanosPerSecond] at hn ⊢
  omega

/-- A count of nanoseconds from the start of a second is read as the instant with that many
nanoseconds, outside leap seconds. -/
theorem nanos_of_ofCount? {second count : Int} {u : Instant} (h : ofCount? second count = some u) :
    u.isLeap = false ∧ u.nanos = second * nanosPerSecond + count := by
  unfold ofCount? ofReading? at h
  split at h
  · rename_i hr
    obtain rfl := Option.some.inj h
    refine ⟨not_leap_of_nano_lt ?_, ?_⟩
    · simp only [nanosPerSecond]
      omega
    · simp only [nanos, nanosPerSecond]
      omega
  · cases h

/-- A count of nanoseconds is not read when it lies outside the clock. -/
theorem ofCount?_eq_none {second count : Int} (h : ofCount? second count = none) :
    second * nanosPerSecond + count < minNanos ∨ maxNanos < second * nanosPerSecond + count := by
  unfold ofCount? ofReading? at h
  split at h
  · cases h
  · rename_i hr
    -- The clock ends with whole seconds, so the second alone tells that a count lies outside.
    simp only [minNanos, maxNanos, minSecond, maxSecond, nanosPerSecond] at hr ⊢
    omega

/-- Outside leap seconds a shift reads the sum of the nanoseconds. -/
theorem shiftNanos_eq_ofCount? {t : Instant} (ht : t.isLeap = false) (n : Int) :
    t.shiftNanos n =
      ofCount? (t.second + n.tdiv nanosPerSecond) (t.nano + n.tmod nanosPerSecond) := by
  simp [shiftNanos, ht]

/-- The whole seconds and the rest of a shift make up its nanoseconds. -/
theorem nanos_add_eq (t : Instant) (n : Int) :
    (t.second + n.tdiv nanosPerSecond) * nanosPerSecond + (t.nano + n.tmod nanosPerSecond) =
      t.nanos + n := by
  have h := Int.tmod_add_tdiv_mul n nanosPerSecond
  rw [Int.add_mul, nanos]
  omega

/-- An instant that is shifted lies so many nanoseconds later. -/
theorem nanos_of_shiftNanos {t u : Instant} {n : Int} (ht : t.isLeap = false)
    (h : t.shiftNanos n = some u) : u.isLeap = false ∧ u.nanos = t.nanos + n := by
  rw [shiftNanos_eq_ofCount? ht] at h
  rw [← nanos_add_eq]
  exact nanos_of_ofCount? h

/-- An instant that cannot be shifted would leave the clock. -/
theorem shiftNanos_eq_none {t : Instant} {n : Int} (ht : t.isLeap = false)
    (h : t.shiftNanos n = none) : t.nanos + n < minNanos ∨ maxNanos < t.nanos + n := by
  rw [shiftNanos_eq_ofCount? ht] at h
  rw [← nanos_add_eq]
  exact ofCount?_eq_none h

/-- The end of a span lies its length after the start. -/
theorem nanos_of_after {t u : Instant} {seconds : Nat} (ht : t.isLeap = false)
    (h : t.after seconds = some u) :
    u.isLeap = false ∧ u.nanos = t.nanos + seconds * nanosPerSecond :=
  nanos_of_shiftNanos ht h

/-- The start of a window lies its length before the end. -/
theorem nanos_of_before {t u : Instant} {seconds : Nat} (ht : t.isLeap = false)
    (h : t.before seconds = some u) :
    u.isLeap = false ∧ u.nanos = t.nanos - seconds * nanosPerSecond := by
  obtain ⟨hu, hn⟩ := nanos_of_shiftNanos ht h
  refine ⟨hu, ?_⟩
  rw [hn, Int.neg_mul]
  rfl

/-- Every instant lies behind the start of a window that begins before the clock. -/
theorem nanos_lt_of_before_eq_none {t : Instant} {seconds : Nat} (ht : t.isLeap = false)
    (h : t.before seconds = none) (u : Instant) :
    t.nanos - seconds * nanosPerSecond < u.nanos := by
  have hu := minNanos_le_nanos u
  have hmax := nanos_le_maxNanos ht
  have hout := shiftNanos_eq_none ht h
  rw [Int.neg_mul] at hout
  -- A shift back does not pass the end of the clock, so it passed its start.
  have hpos : (0 : Int) ≤ seconds * nanosPerSecond :=
    Int.mul_nonneg (Int.natCast_nonneg _) (Int.natCast_nonneg _)
  omega

/-! ### Windows that end later -/

section
variable {t u : Instant} {seconds : Nat}

/-- A window that ends earlier begins earlier. -/
theorem before_le_before (ht : t.isLeap = false) (hu : u.isLeap = false) (h : t ≤ u)
    {a b : Instant} (ha : t.before seconds = some a) (hb : u.before seconds = some b) : a ≤ b := by
  obtain ⟨haLeap, haNanos⟩ := nanos_of_before ht ha
  obtain ⟨hbLeap, hbNanos⟩ := nanos_of_before hu hb
  have hle := (le_iff_nanos_le ht hu).1 h
  exact (le_iff_nanos_le haLeap hbLeap).2 (by omega)

/-- A window begins before the clock if one does that ends later. -/
theorem before_eq_none_of_le (ht : t.isLeap = false) (hu : u.isLeap = false) (h : t ≤ u)
    (hbefore : u.before seconds = none) : t.before seconds = none := by
  cases ha : t.before seconds with
  | none => rfl
  | some a =>
    obtain ⟨-, haNanos⟩ := nanos_of_before ht ha
    have hlate := nanos_lt_of_before_eq_none hu hbefore a
    have hle := (le_iff_nanos_le ht hu).1 h
    omega

end

/-- The instant some hours after the start of 1970. -/
def atHour (n : Nat) : Instant := ((default : Instant).after (3600 * n)).getD .latest

end SurveyGate.Instant
