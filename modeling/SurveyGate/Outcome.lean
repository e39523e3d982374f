import SurveyGate.Kleene

/-!
# `SurveyGate.Outcome`: outcomes of conditions

An outcome is a truth value together with the reason an operator is given for it.
-/

set_option autoImplicit false

namespace SurveyGate

/-- How a condition came out, and why. -/
structure Outcome where
  satisfied : Kleene
  message : String
  deriving DecidableEq, Repr, Inhabited

namespace Outcome

/-- A decided outcome. -/
def ofBool (satisfied : Bool) (message : String) : Outcome := ⟨.ofBool satisfied, message⟩

/-- An outcome that is not decided. -/
def indeterminate (message : String) : Outcome := ⟨.indeterminate, message⟩

/-- Not decided because the URL of the visitor is missing. -/
def missingUrl (label : String) : Outcome :=
  indeterminate s!"PROVIDE URL TO CHECK -- {label}?"

/-- Not decided because the device of the visitor is missing. -/
def missingDevice (label : String) : Outcome :=
  indeterminate s!"PROVIDE DEVICE UDID TO CHECK -- {label}"

/-- The truth value of a decided outcome. -/
@[simp] theorem satisfied_ofBool (b : Bool) (m : String) :
    (ofBool b m).satisfied = .ofBool b := rfl

/-- The truth value of an open outcome. -/
@[simp] theorem satisfied_indeterminate (m : String) :
    (indeterminate m).satisfied = .indeterminate := rfl

end Outcome

end SurveyGate
