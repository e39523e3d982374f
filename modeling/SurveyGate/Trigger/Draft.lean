import SurveyGate.Trigger.Basic
import SurveyGate.Visitor.DeviceValue
import SurveyGate.Visitor.Url

/-!
# `SurveyGate.Trigger.Draft`: criteria before they are checked

A `Draft` is a criterion as somebody wrote it. `Draft.check` brings its texts into normal form and
refuses it when a text is blank, a value does not fit the matcher, a number is out of range or a
pattern does not compile.
-/

set_option autoImplicit false

namespace SurveyGate

/-- A criterion as it was written. -/
inductive Draft where
  | urlContains (url : String)
  | urlEquals (url : String)
  | regexMatches (pattern : String)
  | deviceData (key : String) (matcher : Matcher) (value : Option String) (mandatory : Bool)
  | geo (country : String) (region : Option String)
  | pseudoEvent (event : String)
  | previousAnswer (survey : SurveyId) (answer : AnswerId)
  | mobilePageview (view : String)
  | mobileRegexp (pattern : String)
  | mobileInstall (days : UInt32)
  | mobileLaunch (times : UInt32)
  | pageScroll (percent : Int)
  | pageAfterSeconds (seconds : UInt32)
  | pageIntentExit
  | pageElementVisible (selector : String)
  | pageElementClicked (selector : String)
  | textOnPage (selector text : String) (presence : Bool)
  | clientKeyPresence (present : Bool)
  | visit (audience : Audience) (visits : UInt32)
  | pageview (count : UInt32)
  deriving Repr, Inhabited

namespace Draft

/-- The trimmed text of a column, which must not be blank. -/
def required (kind : Kind) (column : Column) (s : String) : Except ValidationError String :=
  match Text.nonBlank? s with
  | some s => .ok s
  | none => .error (.missingColumn kind column)

/-- Refuses a value that the matcher does not take, the lack of one that it takes, and a value that is
no finite number where numbers are compared. -/
def checkValue (matcher : Matcher) (value : Option String) : Except ValidationError Unit :=
  match matcher.takesValue, value with
  | true, none => .error (.missingColumn .deviceData .deviceDataValue)
  | false, some _ => .error (.foreignColumn .deviceData .deviceDataValue)
  | true, some v =>
    if matcher.isNumeric && (finiteNumber? v).isNone then .error (.notNumeric v) else .ok ()
  | false, none => .ok ()

/-- The share of a page in percent, which must not be more than the whole. -/
def percentOf (percent : Int) : Except ValidationError UInt8 :=
  if 0 ≤ percent ∧ percent ≤ 100 then .ok (.ofNat percent.toNat)
  else .error (.outOfRange "render_after_x_percent_scroll" percent 0 100)

/-- The criterion in normal form. Patterns must keep within the given limit. -/
def check (limit : Nat) : Draft → Except ValidationError Criterion
  | .urlContains url => do
    return .urlContains (← required .urlContains .url (Url.fragmentForm url))
  | .urlEquals url => do
    return .urlEquals (← required .urlEquals .urlMatches (Url.exactForm url))
  | .regexMatches pattern => do return .regexMatches (← Pattern.compile pattern limit)
  | .deviceData key matcher value mandatory => do
    let key ← required .deviceData .deviceDataKey key
    let value := value.bind Text.nonBlank?
    checkValue matcher value
    return .deviceData key matcher value mandatory
  | .geo country region => do
    return .geo (← required .geo .geoCountry country) (region.bind Text.nonBlank?)
  | .pseudoEvent event => do
    return .pseudoEvent (← required .pseudoEvent .pseudoEvent event)
  | .previousAnswer survey answer => .ok (.previousAnswer survey answer)
  | .mobilePageview view => do
    return .mobilePageview (← required .mobilePageview .mobilePageview view)
  | .mobileRegexp pattern => do return .mobileRegexp (← Pattern.compile pattern limit)
  | .mobileInstall days => .ok (.mobileInstall days)
  | .mobileLaunch times => .ok (.mobileLaunch times)
  | .pageScroll percent => do return .pageScroll (← percentOf percent)
  | .pageAfterSeconds seconds => .ok (.pageAfterSeconds seconds)
  | .pageIntentExit => .ok .pageIntentExit
  | .pageElementVisible selector => do
    return .pageElementVisible (← required .pageElementVisible .renderAfterElementVisible selector)
  | .pageElementClicked selector => do
    return .pageElementClicked (← required .pageElementClicked .renderAfterElementClicked selector)
  | .textOnPage selector text presence => do
    let selector ← required .textOnPage .textOnPageSelector selector
    let text ← required .textOnPage .textOnPageValue text
    return .textOnPage selector text presence
  | .clientKeyPresence present => .ok (.clientKeyPresence present)
  | .visit audience visits => .ok (.visit audience visits)
  | .pageview count => .ok (.pageview count)

/-- The trigger that asks for the criterion, with the usual limit for patterns. -/
def trigger (d : Draft) : Except ValidationError Trigger :=
  (d.check Pattern.defaultLimit).map Trigger.including

end Draft

end SurveyGate
