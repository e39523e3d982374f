import SurveyGate.Json.Decode
import SurveyGate.Time.Interval
import SurveyGate.Time.Schedule

/-!
# `SurveyGate.Time.Codec`: instants, intervals and schedules as JSON

An instant is written in the RFC 3339 form of universal time. A schedule leaves out the bounds it
does not have.
-/

set_option autoImplicit false

namespace SurveyGate

/-- An instant as JSON. -/
def Instant.toJson (t : Instant) : Json := .text t.rfc3339

/-- The instant that a JSON text writes. -/
def Instant.ofJson? : Json → Option Instant
  | .text s => Instant.parse? s
  | _ => none

namespace TimeUnit

/-- Every unit with its name in the plural. -/
def choices : List (String × TimeUnit) :=
  [("minutes", .minutes), ("hours", .hours), ("days", .days)]

/-- A unit as JSON. -/
def toJson (u : TimeUnit) : Json := .text (u.name ++ "s")

/-- The unit that JSON names. -/
def ofJson? : Json → Option TimeUnit := Json.toChoice? choices

end TimeUnit

namespace Interval

/-- An interval as JSON. -/
def toJson (i : Interval) : Json :=
  .object [("amount", .ofNat i.amount.toNat), ("unit", i.unit.toJson)]

/-- The interval that JSON holds. It may be empty or too long. -/
def ofJson? (x : Json) : Option Interval := do
  let f ← x.fields? ["amount", "unit"]
  let amount ← f.required "amount" Json.toUInt32?
  let unit ← f.required "unit" TimeUnit.ofJson?
  return ⟨amount, unit⟩

end Interval

namespace Schedule

/-- A schedule as JSON. -/
def toJson (s : Schedule) : Json :=
  .object (Json.optionalMember "starts_at" Instant.toJson s.startsAt
    ++ Json.optionalMember "ends_at" Instant.toJson s.endsAt)

/-- The schedule that JSON holds. It may end before it begins. -/
def ofJson? (x : Json) : Option Schedule := do
  let f ← x.fields? ["starts_at", "ends_at"]
  let startsAt ← f.optional "starts_at" Instant.ofJson?
  let endsAt ← f.optional "ends_at" Instant.ofJson?
  return ⟨startsAt, endsAt⟩

end Schedule

end SurveyGate
