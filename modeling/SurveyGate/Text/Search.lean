/-!
# `SurveyGate.Text.Search`: parts of a text and comparison of texts

`occursIn` says whether one text is part of another, `equalsIgnoringCase` whether two texts differ
in the case of ASCII letters at most.
-/

set_option autoImplicit false

namespace SurveyGate.Text

/-- Whether the first list stands somewhere in the second without a gap. -/
def isPart (part : List Char) : List Char → Bool
  | [] => part.isEmpty
  | c :: cs => part.isPrefixOf (c :: cs) || isPart part cs

/-- Whether the first text is part of the second. -/
def occursIn (part whole : String) : Bool := isPart part.toList whole.toList

/-- Whether two texts are equal once ASCII letters are written in lower case. -/
def equalsIgnoringCase (a b : String) : Bool :=
  a.toList.map Char.toLower == b.toList.map Char.toLower

/-- The search finds just the lists that stand somewhere without a gap. -/
theorem isPart_iff_isInfix {part cs : List Char} : isPart part cs = true ↔ part <:+: cs := by
  induction cs with
  | nil => simp [isPart, List.infix_nil]
  | cons c cs ih =>
    rw [isPart, Bool.or_eq_true, List.isPrefixOf_iff_prefix, ih, List.infix_cons_iff]

/-- The search finds just the texts that stand somewhere without a gap. -/
theorem occursIn_iff_isInfix {part whole : String} :
    occursIn part whole = true ↔ part.toList <:+: whole.toList := isPart_iff_isInfix

end SurveyGate.Text
