import SurveyGate.Evaluation.DeviceData
import SurveyGate.Trigger.Basic

/-!
# `SurveyGate.Evaluation.Signal`: criteria on what a visitor supplies

`Criterion.outcome` is what the signals of a visitor alone say about a criterion. A missing signal
leaves the outcome open. Criteria that only a live page can decide stay open in any case.
-/

set_option autoImplicit false

namespace SurveyGate

/-- The outcome for a signal that may be missing. -/
def Outcome.ofSignal {α : Type} (signal : Option α) (missing : String) (judge : α → Outcome) :
    Outcome :=
  match signal with
  | some a => judge a
  | none => .indeterminate missing

/-- The outcome for a counter that has to reach a threshold. -/
def Outcome.atLeast (signal : String) (observed : Option UInt32) (threshold : UInt32) : Outcome :=
  .ofSignal observed s!"{signal} not supplied" fun n =>
    .ofBool (threshold ≤ n) s!"{signal} {n}, threshold {threshold}"

/-- The outcome for a URL, looked at in one of its forms, that may be missing. -/
def Outcome.ofUrl (url : Option String) (label : String) (judge : String → Outcome) : Outcome :=
  match url with
  | some url => judge url
  | none => .missingUrl label

/-- The outcome for two texts in a relation that has a name and whose opposite has one. -/
def Outcome.related (holds : Bool) (left name opposite right : String) : Outcome :=
  let verb := if holds then name else opposite
  .ofBool holds s!"{left} {verb} {right}"

namespace Location

/-- Whether a text names a region, in any case. -/
def isRegion (region : String) (named : Option String) : Bool :=
  named.any fun name => Text.equalsIgnoringCase (Text.trim name) region

/-- Whether a location lies in a country and, if one is asked for, in a region of it. The region may
be a state or a market area. -/
def outcome (l : Location) (country : String) (region : Option String) : Outcome :=
  if Text.equalsIgnoringCase (Text.trim l.country) country then
    match region with
    | none => .ofBool true s!"visitor located in {country}"
    | some region =>
      if isRegion region l.state || isRegion region l.metroCode then
        .ofBool true s!"visitor located in {country} {region}"
      else if l.state.isNone && l.metroCode.isNone then
        .indeterminate s!"visitor region unknown, expected {region}"
      else .ofBool false s!"visitor not located in {country} {region}"
  else .ofBool false s!"visitor country {l.country} is not {country}"

end Location

/-- Whether an answer chosen in an earlier survey is the expected one. -/
def AnswerId.outcome (survey : SurveyId) (expected : AnswerId) : Option AnswerId → Outcome
  | none => .ofBool false s!"no answer recorded for survey {survey.text}"
  | some chosen =>
    if chosen = expected then
      .ofBool true s!"answered possible answer {expected.text} on survey {survey.text}"
    else
      let found := s!"answered possible answer {chosen.text} on survey {survey.text}"
      .ofBool false s!"{found}, expected {expected.text}"

/-- Whether an event that fired is the expected one. -/
def eventOutcome (expected fired : String) : Outcome :=
  if fired = expected then .ofBool true s!"pseudo event {expected} fired"
  else .ofBool false s!"fired pseudo event {fired}, expected {expected}"

/-- Whether a visitor belongs to an audience. -/
def Audience.outcome (visits : UInt32) (v : Visitor) : Audience → Outcome
  | .all => .ofBool true "all visitors admitted"
  | .new => .ofSignal v.visits "visit count not supplied" fun n =>
    .ofBool (n ≤ 1) s!"visit count {n}, new visitors only"
  | .returning => .ofSignal v.visits "visit count not supplied" fun n =>
    .ofBool (visits ≤ n) s!"visit count {n}, returning after {visits}"

namespace Criterion

/-- The question that a criterion on a page answers, without its question mark. -/
def pageLabel : Criterion → String
  | .pageElementVisible _ => "Is the page element visible"
  | .pageElementClicked _ => "Can the page element be clicked"
  | .textOnPage .. => "Is the text on page trigger satisfied"
  | other => other.text

/-- What can be said of a criterion on a page without asking the page. -/
def withoutPage (c : Criterion) (v : Visitor) : Outcome :=
  .ofUrl v.usableUrl? c.pageLabel fun _ =>
    .indeterminate s!"{c.pageLabel}: requires a live page fetch; no DOM query available"

/-- What the signals of a visitor say about a criterion. -/
def outcome (c : Criterion) (v : Visitor) : Outcome :=
  match c with
  | .urlContains target => .ofUrl v.strippedUrl? "URL contains target" fun url =>
    .related (Text.occursIn target url) s!"'{url}'" "contains" "does not contain" s!"'{target}'"
  | .urlEquals target => .ofUrl v.usableUrl? "URL same as target" fun url =>
    let url := Url.exactForm url
    .related (url == target) s!"'{url}'" "equals" "differs from" s!"'{target}'"
  | .regexMatches pattern => .ofUrl v.strippedUrl? "URL matches regular expression" fun url =>
    .related (pattern.occursIn url) s!"'{url}'" "matches" "does not match" s!"/{pattern.source}/"
  | .deviceData key matcher value _ => matcher.outcome key value v
  | .geo country region => .ofSignal v.usableLocation? "visitor location unknown" fun l =>
    l.outcome country region
  | .pseudoEvent event => .ofSignal v.event "no pseudo event fired" (eventOutcome event)
  | .previousAnswer survey answer =>
    .ofSignal v.previousAnswers "previous answers not supplied" fun answers =>
      answer.outcome survey (answers.get? survey)
  | .mobilePageview view => .ofSignal v.view "mobile view name not supplied" fun current =>
    .related (Text.occursIn view current) s!"view '{current}'" "contains" "does not contain"
      s!"'{view}'"
  | .mobileRegexp pattern => .ofSignal v.view "mobile view name not supplied" fun current =>
    .related (pattern.occursIn current) s!"view '{current}'" "matches" "does not match"
      s!"/{pattern.source}/"
  | .mobileInstall days => .atLeast "days installed" v.daysInstalled days
  | .mobileLaunch times => .atLeast "launch count" v.launches times
  | .pageScroll percent =>
    .atLeast "scroll percentage" (v.scrollPercent.map UInt8.toUInt32) percent.toUInt32
  | .pageAfterSeconds seconds => .atLeast "seconds on page" v.secondsOnPage seconds
  | .pageIntentExit => .ofSignal v.exitIntent "exit intent not observed" fun detected =>
    .ofBool detected (if detected then "exit intent detected" else "no exit intent")
  | .clientKeyPresence expected =>
    .ofSignal v.clientKeyPresent "client key presence not supplied" fun present =>
      .ofBool (present == expected) (if present then "client key present" else "client key absent")
  | .visit audience visits => audience.outcome visits v
  | .pageview count => .atLeast "pageview count" v.pageviews count
  | .pageElementVisible _ => c.withoutPage v
  | .pageElementClicked _ => c.withoutPage v
  | .textOnPage .. => c.withoutPage v

end Criterion

end SurveyGate
