import SurveyGate.Outcome
import SurveyGate.Trigger.Matcher
import SurveyGate.Visitor.Basic

/-!
# `SurveyGate.Evaluation.DeviceData`: criteria on device data

Values recorded for a device are compared as texts, as numbers or as truth values, as the matcher
asks. A key that was never recorded fails, or passes where the matcher is negative. Only device data
that were not supplied at all leave the outcome open.
-/

set_option autoImplicit false

namespace SurveyGate

open SurveyGate.Number

/-- Whether a recorded value equals an expected text. A number equals every text that writes it. -/
def DeviceValue.equalsText (actual : DeviceValue) (expected : String) : Bool :=
  match actual with
  | .number x => (readDouble? (Text.trim expected)).any fun y => y.equals x
  | other => other.asText == expected

namespace Matcher

/-- Whether two numbers compare as a matcher of numbers asks. -/
def compares (m : Matcher) (observed threshold : Double) : Bool :=
  match m with
  | .isMoreThan => threshold.less observed
  | .isEqualOrMoreThan => threshold.lessOrEqual observed
  | .isEqualOrLessThan => observed.lessOrEqual threshold
  | .isLessThan => observed.less threshold
  | _ => false

/-- Whether a recorded value is what a matcher of texts or truth values asks for. -/
def accepts (m : Matcher) (actual : DeviceValue) (expected : String) : Bool :=
  match m with
  | .isTrue => actual.isTruthy
  | .isNotTrue => !actual.isTruthy
  | .is => actual.equalsText expected
  | .isNot => !actual.equalsText expected
  | .contains => Text.occursIn expected actual.asText
  | .doesNotContain => !Text.occursIn expected actual.asText
  | _ => false

/-- The comparison in a message. -/
def comparison (m : Matcher) (key : String) (actual : DeviceValue) (expected : String) : String :=
  let start := s!"device data '{key}' = {actual.display}, {m.name}"
  if m.takesValue then s!"{start} '{expected}'" else start

/-- How the value recorded under a key compares with the expected one. -/
def judge (m : Matcher) (key : String) (actual : DeviceValue) (expected : String) : Outcome :=
  if m.isNumeric then
    match readDouble? (Text.trim expected), actual.number? with
    | none, _ => .ofBool false s!"'{expected}' is not numeric"
    | some _, none =>
      .ofBool false s!"device data key '{key}' holds non-numeric {actual.display}"
    | some threshold, some observed =>
      .ofBool (m.compares observed threshold) (m.comparison key actual expected)
  else .ofBool (m.accepts actual expected) (m.comparison key actual expected)

/-- How the device data of a visitor compare with the value expected under a key. -/
def outcome (m : Matcher) (key : String) (expected : Option String) (v : Visitor) : Outcome :=
  match v.deviceData with
  | none => .indeterminate "device data not supplied"
  | some data =>
    match data.get? key with
    | none => .ofBool m.isNegative s!"device data key '{key}' not present"
    | some actual => m.judge key actual (expected.getD "")

end Matcher

end SurveyGate
