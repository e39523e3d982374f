import SurveyGate.History.Basic
import SurveyGate.Survey.Basic
import SurveyGate.Table
import SurveyGate.Trigger.Row

/-!
# `SurveyGate.Store.Basic`: the store in memory

A `Store` holds surveys, their triggers and submissions, and the history of every device. Each
operation is a function to the store afterwards. A store with a retention drops impressions that lie
more than that before the one it records.
-/

set_option autoImplicit false

namespace SurveyGate

/-- The store in memory. -/
structure Store where
  surveys : Table SurveyId Survey
  /-- The account to which the impressions of a survey count. -/
  owners : Table SurveyId AccountId
  triggers : Table SurveyId (List Trigger)
  submissions : Table SurveyId UInt64
  histories : Table (DeviceId × SurveyId) History
  /-- How many nanoseconds impressions are kept; without it they all are. -/
  retention : Option Int

namespace Store

/-- The store that holds nothing and keeps impressions for a number of nanoseconds. -/
def keeping (retention : Option Int) : Store where
  surveys := .empty
  owners := .empty
  triggers := .empty
  submissions := .empty
  histories := .empty
  retention

/-- The store that holds nothing and keeps impressions for a number of seconds. -/
def empty (seconds : Option Int) : Store := keeping (seconds.map (· * nanosPerSecond))

instance : Inhabited Store := ⟨empty none⟩

/-- The survey with the given number. -/
def survey (s : Store) (id : SurveyId) : Except StorageError Survey :=
  match s.surveys.get? id with
  | some survey => .ok survey
  | none => .error (.surveyNotFound id)

/-- The triggers of a survey. -/
def triggersOf (s : Store) (id : SurveyId) : List Trigger := (s.triggers.get? id).getD []

/-- The number of submissions of a survey. -/
def submissionsOf (s : Store) (id : SurveyId) : UInt64 := (s.submissions.get? id).getD 0

/-- The history of a survey on a device, if anything happened. -/
def history (s : Store) (device : DeviceId) (id : SurveyId) : Option History :=
  s.histories.get? (device, id)

/-- The histories of the surveys of an account on a device. -/
def accountHistories (s : Store) (device : DeviceId) (account : AccountId) : List History :=
  (s.histories.entries.filter fun ((d, id), _) =>
    d == device && s.owners.get? id == some account).map Prod.snd

/-- The impressions of all surveys of an account on a device. -/
def accountLog (s : Store) (device : DeviceId) (account : AccountId) : ImpressionLog :=
  .ofHistories (s.accountHistories device account)

/-- Puts a survey in, or in place of the one with its number. Its impressions count to its account from
now on. -/
def insertSurvey (s : Store) (survey : Survey) : Store :=
  { s with
    surveys := s.surveys.put survey.id survey
    owners := s.owners.put survey.id survey.account }

/-- Attaches a trigger to a survey, behind those it has. -/
def addTrigger (s : Store) (id : SurveyId) (t : Trigger) : Store :=
  { s with triggers := s.triggers.put id (s.triggersOf id ++ [t]) }

/-- Gives a survey the triggers that rows write, in place of those it has, and tells their number. If
a row does not compile, nothing changes. -/
def loadRows (s : Store) (id : SurveyId) (rows : List TriggerRow) (limit : Nat) :
    Except ValidationError Nat × Store :=
  match rows.mapM (·.compile limit) with
  | .ok triggers => (.ok triggers.length, { s with triggers := s.triggers.put id triggers })
  | .error e => (.error e, s)

/-- Sets the number of submissions of a survey. -/
def setSubmissions (s : Store) (id : SurveyId) (count : UInt64) : Store :=
  { s with submissions := s.submissions.put id count }

/-- Counts one more submission of a survey. -/
def addSubmission (s : Store) (id : SurveyId) : Store :=
  s.setSubmissions id (addCounts (s.submissionsOf id) 1)

/-- Changes the history of a survey on a device. -/
def editHistory (s : Store) (device : DeviceId) (id : SurveyId) (edit : History → History) :
    Store :=
  { s with
    histories := s.histories.put (device, id) (edit ((s.history device id).getD .empty)) }

/-- A history without the impressions that are no longer kept at an instant. -/
def retain (s : Store) (t : Instant) (h : History) : History :=
  match s.retention.bind fun nanos => t.shiftNanos (-nanos) with
  | some cutoff => h.prune cutoff
  | none => h

/-- Records an impression. A survey that no account owns yet is owned by the given one. -/
def recordImpression (s : Store) (device : DeviceId) (account : AccountId) (id : SurveyId)
    (t : Instant) : Store :=
  let owned := match s.owners.get? id with
    | some _ => s
    | none => { s with owners := s.owners.put id account }
  owned.editHistory device id fun h => s.retain t (h.recordImpression t)

/-- Records a completion. -/
def recordCompletion (s : Store) (device : DeviceId) (id : SurveyId) (t : Instant) : Store :=
  s.editHistory device id (·.recordCompletion t)

/-- Records that a survey was closed without an answer. -/
def recordDismissal (s : Store) (device : DeviceId) (id : SurveyId) (t : Instant) : Store :=
  s.editHistory device id (·.recordDismissal t)

end Store

end SurveyGate
