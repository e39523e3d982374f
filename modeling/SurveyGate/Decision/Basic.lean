import SurveyGate.Decision.Check
import SurveyGate.Decision.Term
import SurveyGate.Evaluation.Basic

/-!
# `SurveyGate.Decision.Basic`: whether to show a survey

`decide` says whether a survey is shown to a visitor. It looks at one condition after the other and
stops at the first that does not pass. A survey that cannot be read is not shown.
-/

set_option autoImplicit false

namespace SurveyGate

/-- Labels of entries that stand for a survey that cannot be read. -/
def surveyExistsLabel : String := "Does the survey exist?"

/-- The label of the entry for triggers that cannot be read. -/
def triggersLoadedLabel : String := "Can the survey's triggers be loaded?"

/-- A survey and its triggers, or the label and the error of what cannot be read. -/
def load (r : Reads) (id : SurveyId) : Except (String × StorageError) (Survey × List Trigger) :=
  match r.survey id with
  | .error e => .error (surveyExistsLabel, e)
  | .ok survey =>
    match r.triggers id with
    | .error e => .error (triggersLoadedLabel, e)
    | .ok triggers => .ok (survey, triggers)

/-- Whether all terms pass. No criterion behind the first term that does not pass is decided. -/
def allPass {m : Type → Type} [Monad m] (decide : Criterion → m Outcome) : List Term → m Bool
  | [] => return true
  | term :: rest => do
    let f ← term.resolve decide
    if f.passes then allPass decide rest else return false

/-- Whether a survey is shown to a visitor. -/
def decide (r : Reads) (id : SurveyId) (v : Visitor) : Asking Bool :=
  match load r id with
  | .error _ => return false
  | .ok (survey, triggers) =>
    if (checkFindings r survey v).all Finding.passes then
      allPass (·.evaluate v) (plan triggers)
    else return false

end SurveyGate
