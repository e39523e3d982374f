import SurveyGate.Survey.Basic
import SurveyGate.Time.Codec

/-!
# `SurveyGate.Survey.Codec`: surveys as JSON

`Survey.toJson` writes every part of a survey but the optional ones that it lacks, and
`Survey.ofJson?` reads it back. A part with a default may be left out.
-/

set_option autoImplicit false

namespace SurveyGate

/-- The number of a survey that JSON holds. -/
def SurveyId.ofJson? (x : Json) : Option SurveyId := x.toUInt64?.map SurveyId.mk

/-- The number of an account that JSON holds. -/
def AccountId.ofJson? (x : Json) : Option AccountId := x.toUInt64?.map AccountId.mk

/-- The number of an answer that JSON holds. -/
def AnswerId.ofJson? (x : Json) : Option AnswerId := x.toUInt64?.map AnswerId.mk

namespace CapScope

/-- The name of a scope. -/
def name : CapScope → String
  | .perSurvey => "per_survey"
  | .perAccount => "per_account"

/-- Every scope with its name. -/
def choices : List (String × CapScope) :=
  [.perSurvey, .perAccount].map fun s => (s.name, s)

/-- The scope that JSON names. -/
def ofJson? : Json → Option CapScope := Json.toChoice? choices

end CapScope

namespace FrequencyCap

/-- A cap as JSON. -/
def toJson (c : FrequencyCap) : Json :=
  .object ([("enabled", .bool c.enabled), ("limit", .ofNat c.limit.toNat)]
    ++ Json.optionalMember "duration" Interval.toJson c.window
    ++ [("scope", .text c.scope.name)])

/-- The cap that JSON holds. Its limit and its window may be out of range. -/
def ofJson? (x : Json) : Option FrequencyCap := do
  let f ← x.fields? ["enabled", "limit", "duration", "scope"]
  let enabled ← f.required "enabled" Json.toBool?
  let limit ← f.required "limit" Json.toUInt32?
  let window ← f.optional "duration" Interval.ofJson?
  let scope ← f.orDefault "scope" .perSurvey CapScope.ofJson?
  return ⟨enabled, limit, window, scope⟩

end FrequencyCap

/-- The class of devices that JSON names. -/
def DeviceType.ofJson? : Json → Option DeviceType :=
  Json.toChoice? (DeviceType.all.map fun d => (d.name, d))

namespace DeviceTargeting

/-- The enabled classes as JSON. -/
def toJson (t : DeviceTargeting) : Json :=
  .object [("desktop", .bool t.desktop), ("mobile", .bool t.mobile), ("tablet", .bool t.tablet),
    ("native_mobile", .bool t.nativeMobile)]

/-- The enabled classes that JSON holds. -/
def ofJson? (x : Json) : Option DeviceTargeting := do
  let f ← x.fields? ["desktop", "mobile", "tablet", "native_mobile"]
  let desktop ← f.required "desktop" Json.toBool?
  let mobile ← f.required "mobile" Json.toBool?
  let tablet ← f.required "tablet" Json.toBool?
  let nativeMobile ← f.required "native_mobile" Json.toBool?
  return ⟨desktop, mobile, tablet, nativeMobile⟩

end DeviceTargeting

/-- The status that JSON names. -/
def SurveyStatus.ofJson? : Json → Option SurveyStatus :=
  Json.toChoice? (SurveyStatus.all.map fun s => (s.name, s))

namespace Survey

/-- The names of the parts of a survey. -/
def fieldNames : List String :=
  ["id", "account_id", "name", "status", "schedule", "goal", "frequency_cap",
    "ignore_frequency_cap", "refire_enabled", "refire_interval", "device_targeting",
    "stop_showing_without_answer", "inline_target_selector"]

/-- A survey as JSON. -/
def toJson (s : Survey) : Json :=
  .object ([
    ("id", .ofNat s.id.val.toNat),
    ("account_id", .ofNat s.account.val.toNat),
    ("name", .text s.name),
    ("status", .text s.status.name),
    ("schedule", s.schedule.toJson),
    ("goal", .ofNat s.goal.toNat),
    ("frequency_cap", s.cap.toJson),
    ("ignore_frequency_cap", .bool s.ignoresCap),
    ("refire_enabled", .bool s.refireEnabled)]
    ++ Json.optionalMember "refire_interval" Interval.toJson s.refireInterval
    ++ [("device_targeting", s.targeting.toJson),
      ("stop_showing_without_answer", .bool s.stopsWhenDismissed)]
    ++ Json.optionalMember "inline_target_selector" Json.text s.inlineSelector)

/-- The survey that JSON holds. It need not be valid. -/
def ofJson? (x : Json) : Option Survey := do
  let f ← x.fields? fieldNames
  let id ← f.required "id" SurveyId.ofJson?
  let account ← f.required "account_id" AccountId.ofJson?
  let name ← f.required "name" Json.toText?
  let status ← f.required "status" SurveyStatus.ofJson?
  let schedule ← f.orDefault "schedule" .unbounded Schedule.ofJson?
  let goal ← f.required "goal" Json.toUInt64?
  let cap ← f.orDefault "frequency_cap" .disabled FrequencyCap.ofJson?
  let ignoresCap ← f.orDefault "ignore_frequency_cap" false Json.toBool?
  let refireEnabled ← f.orDefault "refire_enabled" false Json.toBool?
  let refireInterval ← f.optional "refire_interval" Interval.ofJson?
  let targeting ← f.orDefault "device_targeting" .all DeviceTargeting.ofJson?
  let stopsWhenDismissed ← f.orDefault "stop_showing_without_answer" false Json.toBool?
  let inlineSelector ← f.optional "inline_target_selector" Json.toText?
  return ⟨id, account, name, status, schedule, goal, cap, ignoresCap, refireEnabled,
    refireInterval, targeting, stopsWhenDismissed, inlineSelector⟩

end Survey

end SurveyGate
