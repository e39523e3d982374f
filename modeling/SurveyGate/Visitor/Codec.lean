import SurveyGate.Json.Parser
import SurveyGate.Survey.Codec
import SurveyGate.Visitor.Basic

/-!
# `SurveyGate.Visitor.Codec`: visitors from JSON

`Visitor.ofJson?` reads the signals of a request. Every signal may be left out.
-/

set_option autoImplicit false

namespace SurveyGate

/-- The location that JSON holds. -/
def Location.ofJson? (x : Json) : Option Location := do
  let f ← x.fields? ["country", "state", "metro_code"]
  let country ← f.orDefault "country" "" Json.toText?
  let state ← f.optional "state" Json.toText?
  let metroCode ← f.optional "metro_code" Json.toText?
  return ⟨country, state, metroCode⟩

/-- The entries of a JSON object. -/
def Json.toEntries? {κ α : Type} (key? : String → Option κ) (value? : Json → Option α) :
    Json → Option (List (κ × α))
  | .object members => members.mapM fun (k, x) => do return (← key? k, ← value? x)
  | _ => none

/-- The device data that JSON holds. -/
def Visitor.deviceDataOfJson? (x : Json) : Option (Table String DeviceValue) :=
  (x.toEntries? some DeviceValue.ofJson?).map Table.ofList

/-- The number of a survey that the key of an object writes. -/
def SurveyId.ofKey? (s : String) : Option SurveyId :=
  if s.toList.all Text.isDigit then (Json.parse? s).bind SurveyId.ofJson? else none

/-- The earlier answers that JSON holds. -/
def Visitor.previousAnswersOfJson? (x : Json) : Option (Table SurveyId AnswerId) :=
  (x.toEntries? SurveyId.ofKey? AnswerId.ofJson?).map Table.ofList

/-- The device that JSON names. -/
def DeviceId.ofJson? (x : Json) : Option DeviceId := x.toText?.map DeviceId.mk

namespace Visitor

/-- The names of the signals of a request. -/
def fieldNames : List String :=
  ["url", "device_id", "device_type", "pageview_count", "visit_count", "days_installed",
    "launch_times", "device_data", "geo", "client_key_present", "previous_answers",
    "elapsed_seconds", "scroll_percentage", "exit_intent", "mobile_view_name",
    "fired_pseudo_event", "evaluated_at"]

/-- The visitor that JSON holds. The given instant is that of the request unless another one is
supplied. -/
def ofJson? (now : Instant) (x : Json) : Option Visitor := do
  let f ← x.fields? fieldNames
  return {
    url := ← f.optional "url" Json.toText?
    device := ← f.optional "device_id" DeviceId.ofJson?
    deviceType := ← f.optional "device_type" DeviceType.ofJson?
    pageviews := ← f.optional "pageview_count" Json.toUInt32?
    visits := ← f.optional "visit_count" Json.toUInt32?
    daysInstalled := ← f.optional "days_installed" Json.toUInt32?
    launches := ← f.optional "launch_times" Json.toUInt32?
    deviceData := ← f.optional "device_data" deviceDataOfJson?
    location := ← f.optional "geo" Location.ofJson?
    clientKeyPresent := ← f.optional "client_key_present" Json.toBool?
    previousAnswers := ← f.optional "previous_answers" previousAnswersOfJson?
    secondsOnPage := ← f.optional "elapsed_seconds" Json.toUInt32?
    scrollPercent := ← f.optional "scroll_percentage" Json.toUInt8?
    exitIntent := ← f.optional "exit_intent" Json.toBool?
    view := ← f.optional "mobile_view_name" Json.toText?
    event := ← f.optional "fired_pseudo_event" Json.toText?
    page := none
    now := ← f.orDefault "evaluated_at" now Instant.ofJson? }

end Visitor

end SurveyGate
