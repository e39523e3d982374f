import SurveyGate.Error

/-!
# `SurveyGate.Time.Interval`: spans of minutes, hours or days

An interval is a count of one unit of time. `Interval.checked` accepts the spans that are longer than
zero and at most a hundred years of 365 days.
-/

set_option autoImplicit false

namespace SurveyGate

/-- The unit that an interval counts. -/
inductive TimeUnit where
  | minutes
  | hours
  | days
  deriving DecidableEq, Repr, Inhabited

/-- A span of time in whole units. -/
structure Interval where
  amount : UInt32
  unit : TimeUnit
  deriving DecidableEq, Repr, Inhabited

namespace TimeUnit

/-- The name of one unit. -/
def name : TimeUnit → String
  | .minutes => "minute"
  | .hours => "hour"
  | .days => "day"

/-- The seconds in one unit. -/
def seconds : TimeUnit → Nat
  | .minutes => 60
  | .hours => 3600
  | .days => 86400

end TimeUnit

namespace Interval

/-- The longest span in days. -/
def maxDays : Nat := 36500

/-- The longest span in seconds. -/
def maxSeconds : Nat := maxDays * 86400

/-- The length of a span in seconds. -/
def seconds (i : Interval) : Nat := i.amount.toNat * i.unit.seconds

/-- The largest amount of a unit that does not exceed the longest span. -/
def maxAmount (unit : TimeUnit) : Nat := maxSeconds / unit.seconds

/-- Refuses an empty span and one that is too long. -/
def validate (i : Interval) : Except ValidationError Unit :=
  if i.amount.toNat = 0 ∨ maxAmount i.unit < i.amount.toNat then
    .error (.outOfRange "interval.amount" i.amount.toNat 1 (maxAmount i.unit))
  else .ok ()

/-- The interval of an amount of a unit, if it is neither empty nor too long. -/
def checked (amount : UInt32) (unit : TimeUnit) : Except ValidationError Interval := do
  let interval : Interval := ⟨amount, unit⟩
  interval.validate
  return interval

/-- The amount and the name of the unit, in the plural unless the amount is one. -/
def text (i : Interval) : String :=
  let plural := if i.amount = 1 then "" else "s"
  s!"{i.amount} {i.unit.name}{plural}"

end Interval

end SurveyGate
