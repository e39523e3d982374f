import SurveyGate.Decision.Finding
import SurveyGate.Trigger.Basic

/-!
# `SurveyGate.Decision.Term`: conditions of the triggers

Every term of a decision has to hold. Most triggers are a term of their own; the included triggers on
regions together make one term, of which one is enough, and so do those on optional device data.
`plan` makes terms of triggers, and `Term.resolve` finds out how a term comes out.
-/

set_option autoImplicit false

namespace SurveyGate

/-- The triggers of which one is enough. -/
inductive Group where
  | geo
  | optionalDeviceData
  deriving DecidableEq, Repr, Inhabited

namespace Group

/-- The label of a group. -/
def label : Group → String
  | .geo => "Is the visitor inside a targeted region?"
  | .optionalDeviceData => "Is any optional device data trigger satisfied?"

/-- The group of a trigger, if it belongs to one. An excluded trigger never does. -/
def of? (t : Trigger) : Option Group :=
  if t.excluded then none
  else
    match t.criterion with
    | .geo .. => some .geo
    | .deviceData _ _ _ false => some .optionalDeviceData
    | _ => none

end Group

/-- A condition that triggers make. -/
inductive Term where
  | single (t : Trigger)
  | anyOf (g : Group) (members : List Trigger)
  deriving Repr, Inhabited

namespace Term

/-- Whether a term is that of a group. -/
def isOf (g : Group) : Term → Bool
  | .single _ => false
  | .anyOf h _ => h = g

/-- The triggers of a term. -/
def triggers : Term → List Trigger
  | .single t => [t]
  | .anyOf _ members => members

end Term

/-- The terms with a trigger joined to its group, whose term is the last one if it is new. -/
def join (g : Group) (t : Trigger) : List Term → List Term
  | [] => [.anyOf g [t]]
  | .anyOf h members :: rest =>
    if h = g then .anyOf h (members ++ [t]) :: rest else .anyOf h members :: join g t rest
  | .single u :: rest => .single u :: join g t rest

/-- The terms with one more trigger. -/
def place (terms : List Term) (t : Trigger) : List Term :=
  match Group.of? t with
  | some g => join g t terms
  | none => terms ++ [.single t]

/-- The terms that triggers make. A group stands where its first member stood. -/
def plan (ts : List Trigger) : List Term := ts.foldl place []

/-- The finding of a trigger on its own. One that is excluded fails open. -/
def Trigger.finding (t : Trigger) (o : Outcome) : Finding :=
  if t.excluded then ⟨t.summary, ⟨o.satisfied.negate, o.message⟩, .failOpen⟩
  else .required (t.summary ++ "?") o

/-- The finding of a group from those of its members. -/
def Group.finding (g : Group) (members : List (Trigger × Outcome)) : Finding :=
  let satisfied := members.foldl (fun k m => k.or m.2.satisfied) .no
  let parts := members.map fun (t, o) => s!"{t.criterion.text}: {o.satisfied.text}"
  .required g.label ⟨satisfied, "; ".intercalate parts⟩

/-- How a term comes out when triggers are decided in the given way, each member once and in order. -/
def Term.resolveBy {m : Type → Type} [Monad m] (decide : Trigger → m Outcome) : Term → m Finding
  | .single t => do return t.finding (← decide t)
  | .anyOf g members => do
    let outcomes ← members.mapM fun t => do return (t, ← decide t)
    return g.finding outcomes

/-- How a term comes out when a trigger is decided by its criterion, in the given way. -/
def Term.resolve {m : Type → Type} [Monad m] (decide : Criterion → m Outcome) (term : Term) :
    m Finding :=
  term.resolveBy fun t => decide t.criterion

end SurveyGate
