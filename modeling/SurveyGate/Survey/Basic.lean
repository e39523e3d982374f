import SurveyGate.Survey.Cap
import SurveyGate.Survey.Device
import SurveyGate.Time.Schedule

/-!
# `SurveyGate.Survey.Basic`: surveys

A survey holds everything about itself that bears on whether it may be shown: status, schedule, goal,
cap, refire and devices. `Survey.draft` is a new survey and `Survey.edit` changes one part of it.
`Survey.validate` refuses surveys whose parts do not fit together.
-/

set_option autoImplicit false

namespace SurveyGate

/-- Where a survey stands in its life. -/
inductive SurveyStatus where
  | draft
  | live
  | paused
  | complete
  | expired
  | archived
  deriving DecidableEq, Repr, Inhabited

namespace SurveyStatus

/-- The name of a status. -/
def name : SurveyStatus → String
  | .draft => "draft"
  | .live => "live"
  | .paused => "paused"
  | .complete => "complete"
  | .expired => "expired"
  | .archived => "archived"

/-- Every status. -/
def all : List SurveyStatus := [.draft, .live, .paused, .complete, .expired, .archived]

end SurveyStatus

/-- A survey. -/
structure Survey where
  id : SurveyId
  account : AccountId
  name : String
  status : SurveyStatus
  schedule : Schedule
  /-- The number of submissions at which the survey is no longer shown. -/
  goal : UInt64
  cap : FrequencyCap
  /-- The cap does not apply to this survey. -/
  ignoresCap : Bool
  /-- A device that completed the survey may see it again after the refire interval. -/
  refireEnabled : Bool
  refireInterval : Option Interval
  targeting : DeviceTargeting
  /-- A device that closed the survey without an answer does not see it again. -/
  stopsWhenDismissed : Bool
  inlineSelector : Option String
  deriving DecidableEq, Repr, Inhabited

/-- A change to one part of a survey. -/
inductive SurveyEdit where
  | status (value : SurveyStatus)
  | schedule (value : Schedule)
  | goal (value : UInt64)
  | cap (value : FrequencyCap)
  | ignoreCap
  | refire (interval : Interval)
  | targeting (value : DeviceTargeting)
  | stopWhenDismissed
  | inlineSelector (value : String)
  deriving DecidableEq, Repr

namespace Survey

/-- The goal of a new survey. -/
def defaultGoal : UInt64 := 5000

/-- A new survey: a draft without schedule, cap and refire, for every device. -/
def draft (id : SurveyId) (account : AccountId) (name : String) : Survey where
  id
  account
  name
  status := .draft
  schedule := .unbounded
  goal := defaultGoal
  cap := .disabled
  ignoresCap := false
  refireEnabled := false
  refireInterval := none
  targeting := .all
  stopsWhenDismissed := false
  inlineSelector := none

/-- The survey after a change. -/
def edit (s : Survey) : SurveyEdit → Survey
  | .status value => { s with status := value }
  | .schedule value => { s with schedule := value }
  | .goal value => { s with goal := value }
  | .cap value => { s with cap := value }
  | .ignoreCap => { s with ignoresCap := true }
  | .refire interval => { s with refireEnabled := true, refireInterval := some interval }
  | .targeting value => { s with targeting := value }
  | .stopWhenDismissed => { s with stopsWhenDismissed := true }
  | .inlineSelector value => { s with inlineSelector := some value }

/-- Whether the status allows the survey to be shown. -/
def isLive (s : Survey) : Bool := s.status == .live

/-- Whether the cap applies to the survey. -/
def capActive (s : Survey) : Bool := s.cap.enabled && !s.ignoresCap

/-- Whether a number of submissions has reached the goal. -/
def goalReached (s : Survey) (submissions : UInt64) : Bool := s.goal ≤ submissions

/-- Refuses refire without an interval. -/
def validateRefire (s : Survey) : Except ValidationError Unit :=
  if s.refireEnabled && s.refireInterval.isNone then .error .missingRefireInterval else .ok ()

/-- Refuses a survey whose parts do not fit together or are out of range. Of several faults the one
of the earliest check is given. -/
def validate (s : Survey) : Except ValidationError Unit := do
  s.validateRefire
  if s.cap.enabled then FrequencyCap.validateLimit s.cap.limit
  FrequencyCap.validateWindow s.refireInterval
  FrequencyCap.validateWindow s.cap.window
  s.schedule.validate

end Survey

end SurveyGate
