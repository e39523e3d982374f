import SurveyGate.History.Basic
import SurveyGate.Survey.Basic

/-!
# `SurveyGate.History.Refire`: surveys shown again

A device that completed a survey sees it again when the refire interval is over, if the survey allows
it at all.
-/

set_option autoImplicit false

namespace SurveyGate

/-- Where a device stands with seeing a survey again. -/
inductive RefireState where
  /-- The survey was never completed. -/
  | neverCompleted
  | awaiting (eligibleAt : Instant)
  | eligible
  /-- The survey was completed and is not shown again. -/
  | suppressed
  deriving DecidableEq, Repr, Inhabited

namespace RefireState

/-- The state at an instant after the survey was completed at another one. An interval that goes past
the end of the clock never ends. -/
def afterCompletion (interval : Interval) (completed now : Instant) : RefireState :=
  match completed.after interval.seconds with
  | some eligibleAt => if eligibleAt ≤ now then .eligible else .awaiting eligibleAt
  | none => .awaiting .latest

/-- The state of a survey with the given history at an instant. -/
def compute (s : Survey) (h : Option History) (now : Instant) : RefireState :=
  match h.bind History.lastCompleted with
  | none => .neverCompleted
  | some completed =>
    if s.refireEnabled then
      match s.refireInterval with
      | some interval => afterCompletion interval completed now
      | none => .eligible
    else .suppressed

/-- Whether the survey may be shown. -/
def isEligible : RefireState → Bool
  | .neverCompleted => true
  | .eligible => true
  | .awaiting _ => false
  | .suppressed => false

end RefireState

end SurveyGate
