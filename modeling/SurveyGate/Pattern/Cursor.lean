import SurveyGate.Text.Blank

/-!
# `SurveyGate.Pattern.Cursor`: reading a pattern from left to right

A `Scan` reads some of the characters of a pattern, or fails. In verbose mode blanks and comments
between the parts of a pattern mean nothing; `spaces` passes over them, and `step` passes over one
character and over them.
-/

set_option autoImplicit false

namespace SurveyGate.Pattern

/-- The characters still to be read, whether blanks mean nothing, and the names of groups so far. -/
structure Cursor where
  rest : List Char
  verbose : Bool
  names : List String

/-- A reading that may fail. -/
abbrev Scan := StateT Cursor Option

/-- The characters after blanks and comments. A comment goes from a hash to the end of the line. -/
def dropBlanks : Bool → List Char → List Char
  | _, [] => []
  | true, c :: cs => dropBlanks (c != '\n') cs
  | false, c :: cs =>
    if Text.isBlank c then dropBlanks false cs
    else if c == '#' then dropBlanks true cs
    else c :: cs

namespace Scan

/-- The characters still to be read. -/
def rest : Scan (List Char) := return (← get).rest

/-- The next character. -/
def peek : Scan (Option Char) := return (← get).rest.head?

/-- Goes on with other characters. -/
def goOn (cs : List Char) : Scan Unit := modify fun c => { c with rest := cs }

/-- Passes over one character. -/
def advance : Scan Unit := do goOn ((← rest).drop 1)

/-- Passes over blanks and comments where they mean nothing. -/
def spaces : Scan Unit := do
  if (← get).verbose then goOn (dropBlanks false (← rest))

/-- Passes over one character, and over blanks and comments after it where they mean nothing. -/
def step : Scan Unit := do advance; spaces

/-- Passes over the given character or fails. -/
def expect (c : Char) : Scan Unit := do
  if (← peek) == some c then advance else failure

/-- Passes over a character if it comes next. -/
def skip (c : Char) : Scan Unit := do
  if (← peek) == some c then advance

/-- The accepted characters that come next, at most as many as given, and passes over each of them
with `step`. -/
def collect (accept : Char → Bool) : Nat → Scan (List Char)
  | 0 => return []
  | limit + 1 => do
    match ← peek with
    | some c =>
      if accept c then
        step
        return c :: (← collect accept limit)
      else return []
    | none => return []

/-- All the accepted characters that come next. -/
def collectAll (accept : Char → Bool) : Scan (List Char) := do
  collect accept (← rest).length

/-- Passes over the given characters if they come next, and tells whether they did. -/
def skipText (cs : List Char) : Scan Bool := do
  let r ← rest
  if cs.isPrefixOf r then
    goOn (r.drop cs.length)
    return true
  else return false

/-- The character after the next one. In verbose mode blanks between them mean nothing, and neither
does one hash. -/
def peekSecond : Scan (Option Char) := do
  let r := (← rest).drop 1
  if (← get).verbose then
    let after := match r.dropWhile Text.isBlank with
      | '#' :: more => more.dropWhile Text.isBlank
      | more => more
    return after.head?.or r.head?
  else return r.head?

end Scan

end SurveyGate.Pattern
