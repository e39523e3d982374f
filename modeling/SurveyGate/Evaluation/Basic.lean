import SurveyGate.Evaluation.Signal

/-!
# `SurveyGate.Evaluation.Basic`: evaluation of criteria

`Criterion.evaluate` decides a criterion for a visitor. A criterion on a page asks the page once,
where there is a page to ask and a URL to ask it at; no other criterion asks anything. `Trigger.admits`
says whether a trigger on its own lets the survey be shown.
-/

set_option autoImplicit false

namespace SurveyGate

namespace ExecutionError

/-- The error of a call that ended without an answer. -/
def unanswered : ExecutionError := .page "probe thread exited without an answer"

end ExecutionError

namespace Criterion

/-- The question that a criterion puts to a page. -/
def probe? : Criterion → Option Probe
  | .pageElementVisible selector => some (.visible selector)
  | .pageElementClicked selector => some (.clicked selector)
  | .textOnPage selector text _ => some (.text selector text)
  | _ => none

/-- What the answer of a page means for a criterion. -/
def ofAnswer (c : Criterion) (found : Bool) : Outcome :=
  match c with
  | .textOnPage selector text presence =>
    let state := if found then "found" else "not found"
    .ofBool (found == presence) s!"text '{text}' {state} in {selector}"
  | .pageElementVisible selector =>
    let state := if found then "visible" else "not visible"
    .ofBool found s!"element {selector} {state}"
  | .pageElementClicked selector =>
    let state := if found then "clickable" else "not clickable"
    .ofBool found s!"element {selector} {state}"
  | other => .ofBool found other.text

/-- What a failed call means for a criterion: nothing is decided. -/
def ofFailure (c : Criterion) (e : ExecutionError) : Outcome :=
  .indeterminate s!"{c.pageLabel}: {e.message}"

/-- What the end of a single call means for a criterion. A decision waits for its calls, whatever time
they take, and nothing cancels it. So only a page whose calls are answered lets it come to an end: a
call that hangs or dies leaves no outcome. The outcome that such a call is given here, that of a call
without an answer, only makes the function total. -/
def ofReply (c : Criterion) : Reply → Outcome
  | .answered (.ok (.found value)) => c.ofAnswer value
  | .answered (.ok .pending) => .indeterminate s!"{c.pageLabel}: page has not settled"
  | .answered (.error e) => c.ofFailure e
  | _ => c.ofFailure .unanswered

/-- Decides a criterion for a visitor. -/
def evaluate (c : Criterion) (v : Visitor) : Asking Outcome :=
  match c.probe?, v.usableUrl?, v.page with
  | some probe, some url, some page => do return c.ofReply (← page.ask ⟨url, probe⟩)
  | _, _, _ => return c.outcome v

end Criterion

/-- Whether a trigger on its own lets the survey be shown. An excluded trigger does so unless its
criterion is known to hold. -/
def Trigger.admits (t : Trigger) (v : Visitor) : Asking Bool := do
  let holds := (← t.criterion.evaluate v).satisfied.coerce
  return if t.excluded then !holds else holds

end SurveyGate
