import SurveyGate.History.Basic
import SurveyGate.Survey.Cap

/-!
# `SurveyGate.History.Cap`: where a device stands with a cap

A device is below a cap or has reached it. A cap with a window counts the impressions that are younger
than the window is long, so it is open again once enough of them have left the window. A cap without
one counts all impressions and stays reached.
-/

set_option autoImplicit false

namespace SurveyGate

/-- Where a device stands with a cap. -/
inductive CapState where
  | below
  /-- The cap is reached until an instant, or for ever. -/
  | reached (reopens : Option Instant)
  deriving DecidableEq, Repr, Inhabited

namespace CapState

/-- Whether the cap lets another impression pass. -/
def isBelow : CapState → Bool
  | .below => true
  | .reached _ => false

/-- The impressions in the window that ends at an instant. A window that begins before the clock does
holds all of them. -/
def inWindow (window : Nat) (now : Instant) (instants : List Instant) : List Instant :=
  match now.before window with
  | some start => instants.drop (bisect (· ≤ start) instants)
  | none => instants

/-- The state of a cap whose limit counts within a window. It ends when all but one less than the
limit of the counted impressions have left the window. -/
def windowed (limit window : Nat) (now : Instant) (instants : List Instant) : CapState :=
  let counted := inWindow window now instants
  if counted.length < limit then .below
  else .reached (counted[counted.length - limit]?.bind (·.after window))

/-- The state of a cap whose limit counts all impressions. -/
def lifelong (limit : Nat) (log : ImpressionLog) : CapState :=
  if max log.count.toNat log.instants.length < limit then .below else .reached none

/-- The state of a cap at an instant. -/
def compute (cap : FrequencyCap) (log : ImpressionLog) (now : Instant) : CapState :=
  if !cap.enabled || cap.limit == 0 then .below
  else
    match cap.window with
    | some window => windowed cap.limit.toNat window.seconds now log.instants
    | none => lifelong cap.limit.toNat log

end CapState

end SurveyGate
