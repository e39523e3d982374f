import SurveyGate.Error
import SurveyGate.Pattern.Marked
import SurveyGate.Pattern.Meaning
import SurveyGate.Pattern.Parser

/-!
# `SurveyGate.Pattern.Basic`: patterns for URLs and views

`Pattern.compile` makes a pattern of its text, unless its compiled form is too large by the estimate
of `Pattern.meaning?`, and `Pattern.occursIn` says whether some part of a text
matches it. Two patterns are equal when their texts are.
-/

set_option autoImplicit false

namespace SurveyGate

open SurveyGate.Pattern

/-- A pattern that compiled: its text and what it means. -/
structure Pattern where
  source : String
  regex : Regex
  deriving Repr, Inhabited

instance : BEq Pattern := ⟨fun p q => p.source == q.source⟩

namespace Pattern

/-- The limit on the compiled form of a pattern in bytes, unless another one is set. -/
def defaultLimit : Nat := 1048576

/-- An estimate of the bytes that the compiled form of the smallest pattern takes. -/
def fixedWeight : Nat := 200

/-- Whether a pattern is a single character. -/
def isLiteral : Tree → Bool
  | .literal _ => true
  | _ => false

/-- Whether a pattern is a plain text. It is then looked for as it stands and not compiled, so no
limit is too small for it. -/
def isPlain : Tree → Bool
  | .concat parts => parts.all isLiteral
  | part => isLiteral part

/-- What the text of a pattern means, if it is well formed and its compiled form is not too large.
Whether it is too large is told by an estimate: a plain text passes under any limit, and any other
pattern if `fixedWeight` and `Regex.weight` together keep to the limit. Close to its limit a pattern
may be told wrong. What is proved of triggers and rows holds for every outcome of `compile`: none of
it depends on which patterns are too large. -/
def meaning? (limit : Nat) (source : String) : Option Regex := do
  let tree ← Tree.parse? source
  let regex ← tree.meaning?
  if isPlain tree || fixedWeight + regex.weight ≤ limit then some regex else none

/-- The pattern that a text without the blanks around it writes. -/
def compile (source : String) (limit : Nat) : Except ValidationError Pattern :=
  match Text.nonBlank? source with
  | none => .error .emptyPattern
  | some source =>
    match meaning? limit source with
    | some regex => .ok ⟨source, regex⟩
    | none => .error (.invalidPattern source)

/-- Whether some part of a text matches. -/
def occursIn (p : Pattern) (s : String) : Bool := p.regex.occursIn s

end Pattern

end SurveyGate
