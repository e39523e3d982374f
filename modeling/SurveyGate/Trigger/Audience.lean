import SurveyGate.Error

/-!
# `SurveyGate.Trigger.Audience`: new and returning visitors

An audience is the part of all visitors that a trigger on visits admits.
-/

set_option autoImplicit false

namespace SurveyGate

/-- The visitors that a trigger on visits admits. -/
inductive Audience where
  /-- Every visitor. -/
  | all
  /-- Visitors on their first visit. -/
  | new
  /-- Visitors with some visits behind them. -/
  | returning
  deriving DecidableEq, Repr, Inhabited

namespace Audience

/-- The name of an audience. -/
def name : Audience → String
  | .all => "all"
  | .new => "new"
  | .returning => "returning"

/-- An audience in a message. -/
def text (a : Audience) : String := a.name ++ " visitors"

/-- Every audience with its name. -/
def choices : List (String × Audience) := [.all, .new, .returning].map fun a => (a.name, a)

/-- The audience with the given number. -/
def ofCode (code : Int) : Except ValidationError Audience :=
  match code with
  | 0 => .ok .all
  | 1 => .ok .new
  | 2 => .ok .returning
  | code => .error (.outOfRange "visitor_type" code 0 2)

end Audience

end SurveyGate
