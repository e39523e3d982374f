import SurveyGate.Decision.Basic
import SurveyGate.Decision.Probing

/-!
# `SurveyGate.Decision.Report`: why a survey is shown or not

`diagnose` reports every condition that `decide` looks at, without stopping at the first that does
not pass. It asks the page with patience and adds what else helps to find a fault: whether the tag is
on the page and whether the place for an inline survey is.
-/

set_option autoImplicit false

namespace SurveyGate

/-- The conditions of one survey for one visitor. -/
structure Report where
  survey : SurveyId
  findings : List Finding
  deriving Repr, Inhabited

namespace Report

/-- Whether the survey is shown. -/
def eligible (r : Report) : Bool := r.findings.all Finding.passes

/-- How many conditions are true, false and not decided. -/
def counts (r : Report) : Nat × Nat × Nat :=
  let count (k : Kleene) := r.findings.countP fun f => f.outcome.satisfied = k
  (count .yes, count .no, count .indeterminate)

/-- The conditions that are not decided. -/
def undecided (r : Report) : List Finding :=
  r.findings.filter fun f => f.outcome.satisfied.isIndeterminate

/-- The first condition with a label. -/
def find? (r : Report) (label : String) : Option Finding :=
  r.findings.find? fun f => f.label == label

end Report

/-- The label of the entry on the tag. -/
def tagLabel : String := "Is the tag on the page?"

/-- The question of the entry on the inline survey, without its question mark. -/
def inlineQuestion : String := "Is the inline target on the page"

/-- The label of the entry on the inline survey. -/
def inlineLabel : String := inlineQuestion ++ "?"

/-- What the end of a question means for a criterion. -/
def Criterion.ofResult (c : Criterion) : Except ExecutionError Bool → Outcome
  | .ok found => c.ofAnswer found
  | .error e => c.ofFailure e

/-- Decides a criterion for a visitor, asking the page with patience. -/
def Criterion.examine (c : Criterion) (p : ProbePolicy) (v : Visitor) : Running Outcome :=
  match c.probe?, v.usableUrl?, v.page with
  | some probe, some url, some page => do return c.ofResult (← p.ask page ⟨url, probe⟩)
  | _, _, _ => return c.outcome v

/-- The outcome of a question that decides nothing. -/
def Probe.outcome (probe : Probe) : Except ExecutionError Bool → Outcome
  | .ok found => .ofBool found s!"{probe.display}: {found}"
  | .error e => .indeterminate s!"{probe.display}: {e.message}"

/-- The finding of a question that decides nothing. -/
def examineProbe (p : ProbePolicy) (page : Page) (url label : String) (probe : Probe) :
    Running Finding := do
  return ⟨label, probe.outcome (← p.ask page ⟨url, probe⟩), .informational⟩

/-- What is asked of the page beside the conditions: the label and the question of each entry. -/
def extraProbes (s : Survey) : List (String × Probe) :=
  (tagLabel, .tag) :: (s.inlineSelector.map fun selector => (inlineLabel, .present selector)).toList

/-- The entries beside the conditions. They need a page to ask and a URL to ask it at. -/
def extraFindings (p : ProbePolicy) (s : Survey) (v : Visitor) : Running (List Finding) :=
  match v.page, v.usableUrl? with
  | some page, some url =>
    (extraProbes s).mapM fun (label, probe) => examineProbe p page url label probe
  | some _, none => return s.inlineSelector.toList.map fun _ =>
    ⟨inlineLabel, .missingUrl inlineQuestion, .informational⟩
  | none, _ => return []

/-- The entry for what cannot be read. -/
def unreadFinding (label : String) (e : StorageError) : Finding :=
  .required label (.ofBool false e.message)

/-- The conditions of a survey for a visitor. -/
def diagnose (r : Reads) (p : ProbePolicy) (id : SurveyId) (v : Visitor) : Running Report :=
  match load r id with
  | .error (label, e) => return ⟨id, [unreadFinding label e]⟩
  | .ok (survey, triggers) => do
    let terms ← (plan triggers).mapM (·.resolve (·.examine p v))
    let extras ← extraFindings p survey v
    return ⟨id, checkFindings r survey v ++ terms ++ extras⟩

end SurveyGate
