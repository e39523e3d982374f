import SurveyGate.Pattern.Tree
import SurveyGate.Unicode.Class

/-!
# `SurveyGate.Pattern.Regex`: regular expressions over characters

A `Regex` is built from sets of characters and conditions on places. `Regex.weight` is an estimate of
the memory that a compiled form takes; there is no compiled form here that it could be measured by.
`Regex.repeated` limits the repetition of what is never longer than nothing.
-/

set_option autoImplicit false

namespace SurveyGate.Pattern

open SurveyGate.Unicode

/-- A condition on a place in a text. With `crlf` a carriage return ends a line as well, and together
with a line feed it ends it once. -/
inductive Look where
  | textStart
  | textEnd
  | lineStart (crlf : Bool)
  | lineEnd (crlf : Bool)
  | word (edge : WordEdge) (ascii : Bool)
  deriving DecidableEq, Repr

/-- A place in a text: the characters on its two sides. -/
structure Place where
  before : Option Char
  after : Option Char
  deriving Repr

/-- The ASCII characters of words. -/
def asciiWord : CharSet := .ofText "30-39 41-5A 5F 61-7A"

/-- Whether there is a character and it belongs to words. -/
def isWordChar (ascii : Bool) (c : Option Char) : Bool :=
  c.any fun c => if ascii || c.toNat < 128 then asciiWord.contains c else wordCharacters.contains c

/-- Whether a place is the given edge of a word, from whether the characters on its sides belong to
words. -/
def WordEdge.holds (before after : Bool) : WordEdge → Bool
  | .boundary => before != after
  | .noBoundary => before == after
  | .start => !before && after
  | .stop => before && !after
  | .startHalf => !before
  | .stopHalf => !after

/-- Whether a place satisfies a condition. -/
def Look.holds (p : Place) : Look → Bool
  | .textStart => p.before.isNone
  | .textEnd => p.after.isNone
  | .lineStart false => p.before.all (· == '\n')
  | .lineEnd false => p.after.all (· == '\n')
  | .lineStart true => p.before.all fun c => c == '\n' || (c == '\r' && p.after != some '\n')
  | .lineEnd true => p.after.all fun c => c == '\r' || (c == '\n' && p.before != some '\r')
  | .word edge ascii => edge.holds (isWordChar ascii p.before) (isWordChar ascii p.after)

/-- A regular expression. -/
inductive Regex where
  | empty
  | set (members : CharSet)
  | look (condition : Look)
  | seq (first second : Regex)
  | alt (left right : Regex)
  | iterate (least : Nat) (most : Option Nat) (body : Regex)
  deriving Repr, Inhabited

namespace Regex

/-- Whether every match is empty. -/
def isWidthless : Regex → Bool
  | .empty => true
  | .set _ => false
  | .look _ => true
  | .seq first second => first.isWidthless && second.isWidthless
  | .alt left right => left.isWidthless && right.isWidthless
  | .iterate _ most body => most == some 0 || body.isWidthless

/-- A repetition. What matches nothing but the empty text is taken once at most, since more makes no
difference. -/
def repeated (least : Nat) (most : Option Nat) (body : Regex) : Regex :=
  if body.isWidthless then .iterate (min least 1) (some (min (most.getD 1) 1)) body
  else .iterate least most body

/-- An estimate of the bytes that the compiled form of a range takes: a wide range needs several
steps. -/
def rangeWeight (r : Nat × Nat) : Nat :=
  if r.2 < 128 then 8 else if r.2 - r.1 < 2048 then 20 else 220

/-- An estimate of the bytes that the compiled form of an expression takes. It grows with the sets of
characters and the repetitions, as the compiled form does, but it is not its exact size. -/
def weight : Regex → Nat
  | .empty => 0
  | .set members => 32 + (members.ranges.map rangeWeight).sum
  | .look _ => 32
  | .seq first second => first.weight + second.weight
  | .alt left right => left.weight + right.weight + 32
  | .iterate least none body => max least 1 * body.weight + 32
  | .iterate least (some most) body => most * body.weight + (most - least) * 32

end Regex

end SurveyGate.Pattern
