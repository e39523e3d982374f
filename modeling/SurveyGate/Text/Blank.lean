/-!
# `SurveyGate.Text.Blank`: white space at the ends of a text

`trim` drops the white space at both ends of a text. What is left has none at either end, and a
text without white space at its ends stays as it is. `nonBlank?` is `trim` for texts that must not
be blank.
-/

set_option autoImplicit false

namespace SurveyGate.Text

/-- White space of any script: the ASCII blanks and line breaks, the next-line and no-break
controls, and the wide, narrow and separating spaces. -/
def isBlank (c : Char) : Bool :=
  let n := c.toNat
  (9 ≤ n && n ≤ 13) || n == 0x20 || n == 0x85 || n == 0xA0 || n == 0x1680
    || (0x2000 ≤ n && n ≤ 0x200A) || n == 0x2028 || n == 0x2029 || n == 0x202F || n == 0x205F
    || n == 0x3000

/-- The characters without the white space in front. -/
def trimLeft (cs : List Char) : List Char := cs.dropWhile isBlank

/-- The characters without the white space at the end. -/
def trimRight (cs : List Char) : List Char := (cs.reverse.dropWhile isBlank).reverse

/-- The characters without the white space at both ends. -/
def trimChars (cs : List Char) : List Char := trimRight (trimLeft cs)

/-- The text without the white space at both ends. -/
def trim (s : String) : String := .ofList (trimChars s.toList)

/-- The trimmed text, unless nothing is left of it. -/
def nonBlank? (s : String) : Option String :=
  if (trim s).isEmpty then none else some (trim s)

/-- Whether a text holds white space alone. -/
def isBlankText (s : String) : Bool := (trim s).isEmpty

end SurveyGate.Text
