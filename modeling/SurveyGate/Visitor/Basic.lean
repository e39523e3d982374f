import SurveyGate.Page.Basic
import SurveyGate.Survey.Device
import SurveyGate.Table
import SurveyGate.Visitor.DeviceValue
import SurveyGate.Visitor.Url

/-!
# `SurveyGate.Visitor.Basic`: what is known of a visitor

A `Visitor` holds the signals that one request supplies. Each signal may be absent, and then no
criterion guesses it. `Visitor.edit` supplies one signal.
-/

set_option autoImplicit false

namespace SurveyGate

/-- Where a visitor is. -/
structure Location where
  country : String
  state : Option String
  /-- The code of the market area. -/
  metroCode : Option String
  deriving DecidableEq, Repr, Inhabited

/-- The signals of one request. -/
structure Visitor where
  url : Option String
  device : Option DeviceId
  deviceType : Option DeviceType
  pageviews : Option UInt32
  visits : Option UInt32
  daysInstalled : Option UInt32
  launches : Option UInt32
  /-- Absent when no device data were supplied at all. -/
  deviceData : Option (Table String DeviceValue)
  location : Option Location
  clientKeyPresent : Option Bool
  /-- The answer that the device chose in each survey. -/
  previousAnswers : Option (Table SurveyId AnswerId)
  secondsOnPage : Option UInt32
  scrollPercent : Option UInt8
  exitIntent : Option Bool
  view : Option String
  event : Option String
  /-- The page the visitor is on, when it can be asked. -/
  page : Option Page
  /-- The instant of the request. -/
  now : Instant

/-- A signal that is supplied. -/
inductive VisitorEdit where
  | url (value : String)
  | device (value : DeviceId)
  | deviceType (value : DeviceType)
  | pageviews (value : UInt32)
  | visits (value : UInt32)
  | daysInstalled (value : UInt32)
  | launches (value : UInt32)
  | deviceValue (key : String) (value : DeviceValue)
  | deviceData (value : Table String DeviceValue)
  | location (value : Location)
  | clientKeyPresent (value : Bool)
  | previousAnswer (survey : SurveyId) (answer : AnswerId)
  | secondsOnPage (value : UInt32)
  | scrollPercent (value : UInt8)
  | exitIntent (value : Bool)
  | view (value : String)
  | event (value : String)
  | now (value : Instant)

namespace Visitor

/-- A visitor of whom nothing is known but the instant of the request. -/
def unknown (now : Instant) : Visitor where
  url := none
  device := none
  deviceType := none
  pageviews := none
  visits := none
  daysInstalled := none
  launches := none
  deviceData := none
  location := none
  clientKeyPresent := none
  previousAnswers := none
  secondsOnPage := none
  scrollPercent := none
  exitIntent := none
  view := none
  event := none
  page := none
  now

/-- The visitor with one signal supplied. A share of the page is the whole of it at most. -/
def edit (v : Visitor) : VisitorEdit → Visitor
  | .url value => { v with url := some value }
  | .device value => { v with device := some value }
  | .deviceType value => { v with deviceType := some value }
  | .pageviews value => { v with pageviews := some value }
  | .visits value => { v with visits := some value }
  | .daysInstalled value => { v with daysInstalled := some value }
  | .launches value => { v with launches := some value }
  | .deviceValue key value =>
    { v with deviceData := some ((v.deviceData.getD .empty).put key value) }
  | .deviceData value => { v with deviceData := some value }
  | .location value => { v with location := some value }
  | .clientKeyPresent value => { v with clientKeyPresent := some value }
  | .previousAnswer survey answer =>
    { v with previousAnswers := some ((v.previousAnswers.getD .empty).put survey answer) }
  | .secondsOnPage value => { v with secondsOnPage := some value }
  | .scrollPercent value => { v with scrollPercent := some (min value 100) }
  | .exitIntent value => { v with exitIntent := some value }
  | .view value => { v with view := some value }
  | .event value => { v with event := some value }
  | .now value => { v with now := value }

/-- The URL without its scheme, unless nothing is left of it. -/
def strippedUrl? (v : Visitor) : Option String :=
  (v.url.map Url.stripScheme).filter fun u => !u.isEmpty

/-- The URL as it was supplied, unless it is blank. -/
def usableUrl? (v : Visitor) : Option String := v.url.filter fun u => !Text.isBlankText u

/-- The location, unless its country is blank. -/
def usableLocation? (v : Visitor) : Option Location :=
  v.location.filter fun l => !Text.isBlankText l.country

end Visitor

end SurveyGate
