import SurveyGate.Error

/-!
# `SurveyGate.Time.Schedule`: the dates between which a survey may be shown

A schedule is a closed span of instants that may be open on either side. `Schedule.checked` accepts
the schedules that contain an instant.
-/

set_option autoImplicit false

namespace SurveyGate

/-- The first and the last instant at which a survey may be shown; an absent bound sets no limit. -/
structure Schedule where
  startsAt : Option Instant
  endsAt : Option Instant
  deriving DecidableEq, Repr

namespace Schedule

/-- The schedule without bounds. -/
def unbounded : Schedule := ⟨none, none⟩

instance : Inhabited Schedule := ⟨unbounded⟩

/-- The schedule that begins at an instant and never ends. -/
def startingAt (t : Instant) : Schedule := ⟨some t, none⟩

/-- The schedule that ends at an instant and has no beginning. -/
def endingAt (t : Instant) : Schedule := ⟨none, some t⟩

/-- Whether a schedule has no bound. -/
def isUnbounded (s : Schedule) : Bool := s.startsAt.isNone && s.endsAt.isNone

/-- Whether an instant lies between the bounds, the bounds themselves included. -/
def contains (s : Schedule) (t : Instant) : Bool :=
  s.startsAt.all (fun start => start ≤ t) && s.endsAt.all (fun stop => t ≤ stop)

/-- Refuses a schedule that ends before it begins. -/
def validate (s : Schedule) : Except ValidationError Unit :=
  match s.startsAt, s.endsAt with
  | some start, some stop =>
    if stop < start then .error (.invertedSchedule start stop) else .ok ()
  | _, _ => .ok ()

/-- The schedule with the given bounds, if it does not end before it begins. -/
def checked (startsAt endsAt : Option Instant) : Except ValidationError Schedule := do
  let schedule : Schedule := ⟨startsAt, endsAt⟩
  schedule.validate
  return schedule

/-- A bound of a schedule in a message. -/
def boundText (absent : String) : Option Instant → String
  | some t => t.rfc3339With "+00:00"
  | none => absent

/-- The bounds of a schedule in a message. -/
def text (s : Schedule) : String :=
  "[" ++ boundText "-∞" s.startsAt ++ " → " ++ boundText "∞" s.endsAt ++ "]"

end Schedule

end SurveyGate
