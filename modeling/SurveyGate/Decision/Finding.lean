import SurveyGate.Outcome

/-!
# `SurveyGate.Decision.Finding`: single conditions of a decision

A `Finding` is how one condition came out, with its label and the part it plays: a required condition
has to hold, one that fails open must not be known to fail, and an informational one decides nothing.
-/

set_option autoImplicit false

namespace SurveyGate

/-- The part that a condition plays. -/
inductive Role where
  | required
  | failOpen
  | informational
  deriving DecidableEq, Repr, Inhabited

namespace Role

/-- The name of a part. -/
def name : Role → String
  | .required => "required"
  | .failOpen => "fail_open"
  | .informational => "informational"

/-- Whether a condition of the given truth lets the survey be shown. -/
def accepts : Role → Kleene → Bool
  | .required, k => k.isTrue
  | .failOpen, k => !k.isFalse
  | .informational, _ => true

end Role

/-- How one condition came out. -/
structure Finding where
  label : String
  outcome : Outcome
  role : Role
  deriving DecidableEq, Repr, Inhabited

namespace Finding

/-- A condition that has to hold. -/
def required (label : String) (outcome : Outcome) : Finding := ⟨label, outcome, .required⟩

/-- Whether the condition lets the survey be shown. -/
def passes (f : Finding) : Bool := f.role.accepts f.outcome.satisfied

end Finding

end SurveyGate
