import SurveyGate.Pattern.Basic
import SurveyGate.Trigger.Audience
import SurveyGate.Trigger.Matcher

/-!
# `SurveyGate.Trigger.Basic`: triggers

A `Criterion` is a condition on a visitor, of one of the kinds that `Kind` lists. A `Trigger` is a
criterion attached to a survey: the survey is shown where it holds or, when the trigger is excluded,
where it does not.
-/

set_option autoImplicit false

namespace SurveyGate

/-- A condition on a visitor. -/
inductive Criterion where
  | urlContains (url : String)
  | urlEquals (url : String)
  | regexMatches (pattern : Pattern)
  | deviceData (key : String) (matcher : Matcher) (value : Option String) (mandatory : Bool)
  | geo (country : String) (region : Option String)
  | pseudoEvent (event : String)
  | previousAnswer (survey : SurveyId) (answer : AnswerId)
  | mobilePageview (view : String)
  | mobileRegexp (pattern : Pattern)
  | mobileInstall (days : UInt32)
  | mobileLaunch (times : UInt32)
  | pageScroll (percent : UInt8)
  | pageAfterSeconds (seconds : UInt32)
  | pageIntentExit
  | pageElementVisible (selector : String)
  | pageElementClicked (selector : String)
  | textOnPage (selector text : String) (presence : Bool)
  | clientKeyPresence (present : Bool)
  | visit (audience : Audience) (visits : UInt32)
  | pageview (count : UInt32)
  deriving Repr, Inhabited

namespace Criterion

/-- The kind of a criterion. -/
def kind : Criterion → Kind
  | .urlContains _ => .urlContains
  | .urlEquals _ => .urlEquals
  | .regexMatches _ => .regexMatches
  | .deviceData .. => .deviceData
  | .geo .. => .geo
  | .pseudoEvent _ => .pseudoEvent
  | .previousAnswer .. => .previousAnswer
  | .mobilePageview _ => .mobilePageview
  | .mobileRegexp _ => .mobileRegexp
  | .mobileInstall _ => .mobileInstall
  | .mobileLaunch _ => .mobileLaunch
  | .pageScroll _ => .pageScroll
  | .pageAfterSeconds _ => .pageAfterSeconds
  | .pageIntentExit => .pageIntentExit
  | .pageElementVisible _ => .pageElementVisible
  | .pageElementClicked _ => .pageElementClicked
  | .textOnPage .. => .textOnPage
  | .clientKeyPresence _ => .clientKeyPresence
  | .visit .. => .visit
  | .pageview _ => .pageview

/-- A criterion in words. -/
def text : Criterion → String
  | .urlContains url => s!"URL contains target ({url})"
  | .urlEquals url => s!"URL same as target ({url})"
  | .regexMatches pattern => s!"URL matches regular expression ({pattern.source})"
  | .deviceData key matcher (some value) _ => s!"Device data key '{key}' {matcher.name} '{value}'"
  | .deviceData key matcher none _ => s!"Device data key '{key}' {matcher.name}"
  | .geo country (some region) => s!"Visitor located in {country} {region}"
  | .geo country none => s!"Visitor located in {country}"
  | .pseudoEvent event => s!"Present alias (pseudo event) {event} fired"
  | .previousAnswer survey answer =>
    s!"Answered possible answer {answer.text} on survey {survey.text}"
  | .mobilePageview view => s!"Mobile view name contains {view}"
  | .mobileRegexp pattern => s!"Mobile view name matches ({pattern.source})"
  | .mobileInstall days => s!"App installed for at least {days} days"
  | .mobileLaunch times => s!"App launched at least {times} times"
  | .pageScroll percent => s!"Scrolled {percent}% of page"
  | .pageAfterSeconds seconds => s!"On page for {seconds} seconds"
  | .pageIntentExit => "Exit intent detected"
  | .pageElementVisible selector => s!"Page element visible ({selector})"
  | .pageElementClicked selector => s!"Page element clicked ({selector})"
  | .textOnPage selector text true => s!"Element {selector} contains text '{text}'"
  | .textOnPage selector text false => s!"Element {selector} does not contain text '{text}'"
  | .clientKeyPresence true => "Client key present"
  | .clientKeyPresence false => "Client key absent"
  | .visit .returning visits => s!"Returning visitor with at least {visits} visits"
  | .visit audience _ => s!"Visit from {audience.text}"
  | .pageview count => s!"At least {count} pageviews"

/-- The criterion as one of several of which one is enough, if it is on device data. -/
def asOptional : Criterion → Criterion
  | .deviceData key matcher value _ => .deviceData key matcher value false
  | other => other

end Criterion

/-- A criterion attached to a survey. -/
structure Trigger where
  /-- The number of the stored row that the trigger was made of. -/
  id : Option TriggerId
  criterion : Criterion
  /-- Where the criterion holds, the survey is not shown. -/
  excluded : Bool
  deriving Repr, Inhabited

/-- A change to a trigger. -/
inductive TriggerEdit where
  | exclude
  | setExcluded (value : Bool)
  | setId (id : TriggerId)
  | makeOptional
  deriving DecidableEq, Repr

namespace Trigger

/-- The trigger that asks for a criterion. -/
def including (c : Criterion) : Trigger := ⟨none, c, false⟩

/-- The trigger after a change. -/
def edit (t : Trigger) : TriggerEdit → Trigger
  | .exclude => { t with excluded := true }
  | .setExcluded value => { t with excluded := value }
  | .setId id => { t with id := some id }
  | .makeOptional => { t with criterion := t.criterion.asOptional }

/-- A trigger in words. -/
def summary (t : Trigger) : String :=
  if t.excluded then s!"Suppress if: {t.criterion.text}" else t.criterion.text

end Trigger

end SurveyGate
