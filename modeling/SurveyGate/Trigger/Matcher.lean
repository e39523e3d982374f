import SurveyGate.Error

/-!
# `SurveyGate.Trigger.Matcher`: comparisons of device data

A matcher says how a value recorded for a device is compared with the value that a trigger gives. Two
of them look at the recorded value alone, and four compare numbers.
-/

set_option autoImplicit false

namespace SurveyGate

/-- The comparisons of device data. -/
inductive Matcher where
  | is
  | isNot
  | contains
  | doesNotContain
  | isTrue
  | isNotTrue
  | isMoreThan
  | isEqualOrMoreThan
  | isEqualOrLessThan
  | isLessThan
  deriving DecidableEq, Repr, Inhabited

namespace Matcher

/-- The name of a matcher. -/
def name : Matcher → String
  | .is => "is"
  | .isNot => "is_not"
  | .contains => "contains"
  | .doesNotContain => "does_not_contain"
  | .isTrue => "is_true"
  | .isNotTrue => "is_not_true"
  | .isMoreThan => "is_more_than"
  | .isEqualOrMoreThan => "is_equal_or_more_than"
  | .isEqualOrLessThan => "is_equal_or_less_than"
  | .isLessThan => "is_less_than"

/-- Every matcher. -/
def all : List Matcher := [
  .is, .isNot, .contains, .doesNotContain, .isTrue, .isNotTrue, .isMoreThan, .isEqualOrMoreThan,
  .isEqualOrLessThan, .isLessThan]

/-- Whether the recorded value is compared with one that the trigger gives. -/
def takesValue : Matcher → Bool
  | .isTrue => false
  | .isNotTrue => false
  | _ => true

/-- Whether the values are compared as numbers. -/
def isNumeric : Matcher → Bool
  | .isMoreThan => true
  | .isEqualOrMoreThan => true
  | .isEqualOrLessThan => true
  | .isLessThan => true
  | _ => false

/-- Whether a matcher asks that something does not hold, so that it accepts a value never
recorded. -/
def isNegative : Matcher → Bool
  | .isNot => true
  | .doesNotContain => true
  | .isNotTrue => true
  | _ => false

/-- The matcher that a text names, blanks around it left out. -/
def parse (s : String) : Except ValidationError Matcher :=
  match all.find? (·.name == Text.trim s) with
  | some m => .ok m
  | none => .error (.unknownMatcher s)

/-- A matcher that compares numbers takes a value. -/
theorem takesValue_of_isNumeric {m : Matcher} (h : m.isNumeric = true) : m.takesValue = true := by
  cases m <;> simp_all [isNumeric, takesValue]

end Matcher

end SurveyGate
