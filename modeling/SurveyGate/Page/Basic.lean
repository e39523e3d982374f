import SurveyGate.Error
import SurveyGate.Text.Quoted

/-!
# `SurveyGate.Page.Basic`: questions to a live page

A `Probe` asks something of the page at a URL. A `Page` answers calls, each in the light of the calls
before it, so its answers may change from call to call; `Page.fixed` is a page whose answers do not.
`Page.ask` puts one call to a page and adds it to the calls made so far.
-/

set_option autoImplicit false

namespace SurveyGate

/-- A question about a page. -/
inductive Probe where
  /-- Whether an element is visible. -/
  | visible (selector : String)
  /-- Whether an element can be clicked. -/
  | clicked (selector : String)
  /-- Whether an element holds a text. -/
  | text (selector wanted : String)
  /-- Whether an element is on the page. -/
  | present (selector : String)
  /-- Whether the tag of the surveys is on the page. -/
  | tag
  deriving DecidableEq, Repr, Inhabited

namespace Probe

/-- A question in a message. -/
def display : Probe → String
  | .visible selector => s!"visible({selector})"
  | .clicked selector => s!"clicked({selector})"
  | .text selector wanted => s!"text({selector}, {Text.quote wanted})"
  | .present selector => s!"present({selector})"
  | .tag => "tag"

/-- Whether the question is put again while the page has not settled. -/
def isRepeated : Probe → Bool
  | .visible _ => true
  | _ => false

end Probe

/-- What a page answers when it can be looked at. -/
inductive Observation where
  | found (value : Bool)
  /-- The page has not settled, and a later call may find out. -/
  | pending
  deriving DecidableEq, Repr, Inhabited

/-- How a call to a page ends. The caller of a run may cancel it while a call is in flight; a call that
ends all the same ends with `answered` or `died`. -/
inductive Reply where
  | answered (answer : Except ExecutionError Observation)
  /-- The call ended without an answer. -/
  | died
  /-- The call did not end within the time of the run. -/
  | hung
  /-- The run was cancelled during the call, which was given up. -/
  | cancelled
  deriving Repr

/-- A question to the page at a URL. -/
structure PageCall where
  url : String
  probe : Probe
  deriving DecidableEq, Repr, Inhabited

/-- A page that answers calls. It is given the calls before, first one first. -/
abbrev Page := List PageCall → PageCall → Reply

/-- The page that always answers a call in the same way. -/
def Page.fixed (answer : PageCall → Except ExecutionError Observation) : Page :=
  fun _ call => .answered (answer call)

/-- What is done while calls to a page are counted. -/
abbrev Asking := StateM (List PageCall)

/-- Puts a call to a page. -/
def Page.ask (p : Page) (call : PageCall) : Asking Reply := fun calls =>
  (p calls call, calls ++ [call])

end SurveyGate
