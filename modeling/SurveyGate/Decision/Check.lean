import SurveyGate.Decision.Finding
import SurveyGate.History.Cap
import SurveyGate.History.Refire
import SurveyGate.Store.Reads
import SurveyGate.Visitor.Basic

/-!
# `SurveyGate.Decision.Check`: conditions of the survey itself

Before its triggers a survey sets conditions of its own: status, schedule, goal, devices, cap, refire
and dismissal. `Check.finding?` is how one of them came out, and `checkFindings` lists all that the
survey sets. A store that does not answer never blocks a survey here.
-/

set_option autoImplicit false

namespace SurveyGate

/-- The conditions of the survey itself. -/
inductive Check where
  | live
  | schedule
  | goal
  | deviceType
  | cap
  | refire
  | dismissal
  deriving DecidableEq, Repr, Inhabited

namespace Check

/-- Every condition, in the order in which they are looked at. -/
def all : List Check := [.live, .schedule, .goal, .deviceType, .cap, .refire, .dismissal]

/-- The label of a condition. -/
def label : Check → String
  | .live => "Is the survey live?"
  | .schedule => "Inside target date range?"
  | .goal => "Survey goal not yet reached?"
  | .deviceType => "Is the survey enabled for this device type?"
  | .cap => "Device below frequency cap?"
  | .refire => "Device eligible for refire?"
  | .dismissal => "Survey not closed without an answer?"

/-- A decided condition that has to hold. -/
def required (c : Check) (holds : Bool) (message : String) : Finding :=
  .required c.label (.ofBool holds message)

/-- A condition on the device when there is none: it fails open. -/
def withoutDevice (c : Check) : Finding := ⟨c.label, .missingDevice c.label, .failOpen⟩

/-- A condition on the device when its history cannot be read: it holds. -/
def unreadable (c : Check) (e : StorageError) : Finding :=
  c.required true s!"device history unavailable ({e.message})"

end Check

/-- What is known of the history of a survey on the device of a visitor. -/
inductive DeviceRecord where
  /-- The visitor has no device. -/
  | anonymous
  | unavailable (e : StorageError)
  | known (history : Option History)
  deriving Repr

/-- The history of a survey on the device of a visitor. -/
def deviceRecord (r : Reads) (s : Survey) (v : Visitor) : DeviceRecord :=
  match v.device with
  | none => .anonymous
  | some device =>
    match r.history device s.id with
    | .ok history => .known history
    | .error e => .unavailable e

/-- The impressions that the cap of a survey counts for a device. -/
def capLog (r : Reads) (s : Survey) (device : DeviceId) : Except StorageError ImpressionLog :=
  match s.cap.scope with
  | .perSurvey => (r.history device s.id).map fun h => (h.map ImpressionLog.ofHistory).getD .empty
  | .perAccount => r.accountLog device s.account

/-- Whether the survey is live. -/
def liveFinding (s : Survey) : Finding :=
  Check.live.required s.isLive s!"status is {s.status.name}"

/-- Whether an instant lies in the schedule. -/
def scheduleFinding (s : Survey) (now : Instant) : Finding :=
  Check.schedule.required (s.schedule.contains now)
    (if s.schedule.isUnbounded then "no date bounds"
      else s!"{now.text} against {s.schedule.text}")

/-- Whether the goal is not yet reached. A number that cannot be read counts as too few. -/
def goalFinding (r : Reads) (s : Survey) : Finding :=
  match r.submissions s.id with
  | .ok n => Check.goal.required (!s.goalReached n) s!"{n} of {s.goal} submissions"
  | .error e => Check.goal.required true s!"submission count unavailable ({e.message})"

/-- Whether the survey is enabled for the device, if it is not enabled for all. -/
def deviceTypeFinding? (s : Survey) (v : Visitor) : Option Finding :=
  if s.targeting = .all then none
  else
    match v.deviceType with
    | some d => some (Check.deviceType.required (s.targeting.allows d) s!"device type is {d.name}")
    | none => some (Check.deviceType.required true "device type unknown")

/-- The finding for a state of the cap. -/
def capStateFinding (limit : UInt32) : CapState → Finding
  | .below => Check.cap.required true s!"below cap of {limit}"
  | .reached (some reopens) =>
    Check.cap.required false s!"cap of {limit} reached until {reopens.text}"
  | .reached none => Check.cap.required false s!"lifetime cap of {limit} reached"

/-- Whether the device is below the cap. -/
def capFinding (r : Reads) (s : Survey) (v : Visitor) : Finding :=
  if s.ignoresCap then Check.cap.required true "survey ignores the frequency cap"
  else if !s.cap.enabled then Check.cap.required true "frequency cap disabled"
  else
    match v.device with
    | none => Check.cap.withoutDevice
    | some device =>
      match capLog r s device with
      | .ok log => capStateFinding s.cap.limit (.compute s.cap log v.now)
      | .error e => Check.cap.unreadable e

/-- The finding for a state of refire. -/
def refireStateFinding : RefireState → Finding
  | .neverCompleted => Check.refire.required true "no completed response"
  | .eligible => Check.refire.required true "refire interval elapsed"
  | .awaiting eligibleAt => Check.refire.required false s!"eligible again at {eligibleAt.text}"
  | .suppressed => Check.refire.required false "completed and refire disabled"

/-- Whether the survey may be shown to the device again. -/
def refireFinding (r : Reads) (s : Survey) (v : Visitor) : Finding :=
  match deviceRecord r s v with
  | .anonymous => Check.refire.required true "no device id; no completed response"
  | .unavailable e => Check.refire.unreadable e
  | .known h => refireStateFinding (.compute s h v.now)

/-- Whether the survey was not closed without an answer, if that matters to it. -/
def dismissalFinding? (r : Reads) (s : Survey) (v : Visitor) : Option Finding :=
  if s.stopsWhenDismissed then
    match deviceRecord r s v with
    | .anonymous => some Check.dismissal.withoutDevice
    | .unavailable e => some (Check.dismissal.unreadable e)
    | .known h =>
      if h.any History.dismissedWithoutAnswer then
        some (Check.dismissal.required false "closed without an answer")
      else some (Check.dismissal.required true "not dismissed")
  else none

/-- How a condition came out, if the survey sets it. -/
def Check.finding? (r : Reads) (s : Survey) (v : Visitor) : Check → Option Finding
  | .live => some (liveFinding s)
  | .schedule => some (scheduleFinding s v.now)
  | .goal => some (goalFinding r s)
  | .deviceType => deviceTypeFinding? s v
  | .cap => some (capFinding r s v)
  | .refire => some (refireFinding r s v)
  | .dismissal => dismissalFinding? r s v

/-- How the conditions that a survey sets came out. -/
def checkFindings (r : Reads) (s : Survey) (v : Visitor) : List Finding :=
  Check.all.filterMap (Check.finding? r s v)

end SurveyGate
