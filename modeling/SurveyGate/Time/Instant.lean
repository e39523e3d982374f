/-!
# `SurveyGate.Time.Instant`: instants on the clock

An instant is a reading of the clock: a second counted from the start of 1970 and the nanoseconds
read in it. A leap second is read in the second before it, with a count of nanoseconds of a whole
second or more, so readings are ordered by second and then by nanoseconds. The clock runs from
`Instant.earliest` to `Instant.latest`, and `Instant.shiftNanos` gives nothing beyond.
-/

set_option autoImplicit false

namespace SurveyGate

/-- Nanoseconds in a second. -/
def nanosPerSecond : Nat := 1000000000

/-- The first second of the clock, at the start of the year -262143. -/
def Instant.minSecond : Int := -8334601228800

/-- The last second of the clock, at the end of the year 262142. -/
def Instant.maxSecond : Int := 8210266876799

/-- A reading of the clock. -/
structure Instant where
  second : Int
  nano : Nat
  minSecond_le : Instant.minSecond ≤ second
  le_maxSecond : second ≤ Instant.maxSecond
  nano_lt : nano < 2 * nanosPerSecond
  deriving DecidableEq, Repr

namespace Instant

/-- The reading of a second and its nanoseconds, when the clock has it. -/
def ofReading? (second : Int) (nano : Nat) : Option Instant :=
  if h : (minSecond ≤ second ∧ second ≤ maxSecond) ∧ nano < 2 * nanosPerSecond then
    some ⟨second, nano, h.1.1, h.1.2, h.2⟩
  else none

/-- The first instant of the clock. -/
def earliest : Instant := ⟨minSecond, 0, by decide, by decide, by decide⟩

/-- The last instant of the clock. -/
def latest : Instant := ⟨maxSecond, 999999999, by decide, by decide, by decide⟩

instance : Inhabited Instant := ⟨⟨0, 0, by decide, by decide, by decide⟩⟩

/-- Whether the reading falls into a leap second. -/
def isLeap (t : Instant) : Bool := nanosPerSecond ≤ t.nano

/-- Nanoseconds since the start of 1970. Outside leap seconds this tells instants apart and orders
them. -/
def nanos (t : Instant) : Int := t.second * nanosPerSecond + t.nano

/-- The place of a reading among all readings: each second has room for two seconds' worth. -/
def position (t : Instant) : Int := t.second * (2 * nanosPerSecond : Nat) + t.nano

instance : LE Instant := ⟨fun a b => a.position ≤ b.position⟩
instance : LT Instant := ⟨fun a b => a.position < b.position⟩
instance (a b : Instant) : Decidable (a ≤ b) := inferInstanceAs (Decidable (a.position ≤ b.position))
instance (a b : Instant) : Decidable (a < b) := inferInstanceAs (Decidable (a.position < b.position))

/-- Instants are compared by their positions. -/
theorem le_def {a b : Instant} : a ≤ b ↔ a.position ≤ b.position := Iff.rfl

/-- Instants are compared by their positions. -/
theorem lt_def {a b : Instant} : a < b ↔ a.position < b.position := Iff.rfl

/-- No two instants have the same position. -/
theorem position_injective {a b : Instant} (h : a.position = b.position) : a = b := by
  obtain ⟨s, n, _, _, hn⟩ := a
  obtain ⟨s', n', _, _, hn'⟩ := b
  simp only [position, nanosPerSecond] at h hn hn'
  have hs : s = s' := by omega
  have : n = n' := by omega
  subst hs this
  rfl

/-- The later of two instants. -/
def later (a b : Instant) : Instant := if a < b then b else a

/-- The reading of nanoseconds counted from the start of a second, which may lie in another one. -/
def ofCount? (second nanos : Int) : Option Instant :=
  ofReading? (second + nanos / nanosPerSecond) (nanos % nanosPerSecond).toNat

/-- The instant a number of nanoseconds later, or earlier when the number is negative; nothing when
the clock does not reach it. Counting forward out of a leap second starts from the second it is
read in, and counting back out of it starts from the second after. -/
def shiftNanos (t : Instant) (nanos : Int) : Option Instant :=
  let whole := nanos.tdiv nanosPerSecond
  let part := nanos.tmod nanosPerSecond
  if t.isLeap then
    if 0 < whole ∨ 2 * nanosPerSecond ≤ t.nano + part then
      ofCount? (t.second + whole) (t.nano - nanosPerSecond + part)
    else if whole < 0 then ofCount? (t.second + 1 + whole) (t.nano - nanosPerSecond + part)
    else ofReading? t.second (t.nano + part).toNat
  else ofCount? (t.second + whole) (t.nano + part)

/-- The instant a number of seconds later, or earlier when the number is negative. -/
def shift (t : Instant) (seconds : Int) : Option Instant := t.shiftNanos (seconds * nanosPerSecond)

/-- The instant a span of whole seconds later. -/
def after (t : Instant) (seconds : Nat) : Option Instant := t.shift seconds

/-- The instant a span of whole seconds earlier. -/
def before (t : Instant) (seconds : Nat) : Option Instant := t.shift (-(seconds : Int))

end Instant

end SurveyGate
