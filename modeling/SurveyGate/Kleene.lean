/-!
# `SurveyGate.Kleene`: truth values of three kinds

A condition that the known facts do not settle is indeterminate. `and`, `or` and `negate` give a
definite answer whenever every way of settling their operands gives that answer.
-/

set_option autoImplicit false

namespace SurveyGate

/-- True, false, or not decided by what is known. -/
inductive Kleene where
  | yes
  | no
  | indeterminate
  deriving DecidableEq, Repr, Inhabited

namespace Kleene

/-- The decided value of a truth value. -/
def ofBool (b : Bool) : Kleene := if b then .yes else .no

/-- Whether the value is true. -/
def isTrue : Kleene → Bool
  | .yes => true
  | _ => false

/-- Whether the value is false. -/
def isFalse : Kleene → Bool
  | .no => true
  | _ => false

/-- Whether the value is not decided. -/
def isIndeterminate : Kleene → Bool
  | .indeterminate => true
  | _ => false

/-- The value as a yes or no, in which what is not decided counts as no. -/
def coerce (k : Kleene) : Bool := k.isTrue

/-- The opposite; what is not decided stays so. -/
def negate : Kleene → Kleene
  | .yes => .no
  | .no => .yes
  | .indeterminate => .indeterminate

/-- True when both are true, false when one is false. -/
def and : Kleene → Kleene → Kleene
  | .no, _ => .no
  | _, .no => .no
  | .yes, .yes => .yes
  | _, _ => .indeterminate

/-- True when one is true, false when both are false. -/
def or : Kleene → Kleene → Kleene
  | .yes, _ => .yes
  | _, .yes => .yes
  | .no, .no => .no
  | _, _ => .indeterminate

/-- The name of a value. -/
def text : Kleene → String
  | .yes => "true"
  | .no => "false"
  | .indeterminate => "indeterminate"

/-- The value with the given name. -/
def ofText? : String → Option Kleene
  | "true" => some .yes
  | "false" => some .no
  | "indeterminate" => some .indeterminate
  | _ => none

/-- The negation of a known value is known. -/
@[simp] theorem negate_ofBool (b : Bool) : (ofBool b).negate = ofBool (!b) := by cases b <;> rfl

/-- A known value is yes when it is true. -/
@[simp] theorem coerce_ofBool (b : Bool) : (ofBool b).coerce = b := by cases b <;> rfl

/-- Negating twice gives the value back. -/
@[simp] theorem negate_negate (k : Kleene) : k.negate.negate = k := by cases k <;> rfl

/-- The order of two values does not matter. -/
theorem or_comm (a b : Kleene) : a.or b = b.or a := by cases a <;> cases b <;> rfl

/-- The grouping of three values does not matter. -/
theorem or_assoc (a b c : Kleene) : (a.or b).or c = a.or (b.or c) := by
  cases a <;> cases b <;> cases c <;> rfl

/-- De Morgan's law for `or`. -/
theorem negate_or (a b : Kleene) : (a.or b).negate = a.negate.and b.negate := by
  cases a <;> cases b <;> rfl

/-- A value that is no adds nothing to `or`. -/
@[simp] theorem no_or (k : Kleene) : no.or k = k := by cases k <;> rfl

/-- One of two values is yes when their `or` is. -/
@[simp] theorem coerce_or (a b : Kleene) : (a.or b).coerce = (a.coerce || b.coerce) := by
  cases a <;> cases b <;> rfl

end Kleene

end SurveyGate
