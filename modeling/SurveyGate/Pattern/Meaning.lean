import SurveyGate.Pattern.Regex
import SurveyGate.Unicode.Casing

/-!
# `SurveyGate.Pattern.Meaning`: from the structure of a pattern to a regular expression

`Tree.meaning?` applies the switches of a pattern and looks up its classes. A pattern ignores case
and knows all characters of Unicode unless a switch says otherwise. Without Unicode classes hold ASCII
characters alone, and what could match part of a character is refused.
-/

set_option autoImplicit false

namespace SurveyGate.Pattern

open SurveyGate.Unicode

/-- The switches that bear on what a pattern matches. -/
structure Switches where
  ignoreCase : Bool
  multiLine : Bool
  dotAll : Bool
  unicode : Bool
  crlf : Bool
  deriving DecidableEq, Repr

namespace Switches

/-- The switches at the start of a pattern. -/
def start : Switches := ⟨true, false, false, true, false⟩

/-- The switches after settings. -/
def apply (s : Switches) (settings : FlagSettings) : Switches where
  ignoreCase := (settings.lookup .ignoreCase).getD s.ignoreCase
  multiLine := (settings.lookup .multiLine).getD s.multiLine
  dotAll := (settings.lookup .dotAll).getD s.dotAll
  unicode := (settings.lookup .unicode).getD s.unicode
  crlf := (settings.lookup .crlf).getD s.crlf

/-- A set with the case variants of its members, where case is ignored. -/
def fold (s : Switches) (members : CharSet) : CharSet :=
  if s.ignoreCase then
    if s.unicode then members.foldCase
    else members.foldCase.inter ⟨[(0, 127)]⟩
  else members

/-- A set or its complement. Without Unicode a complement would hold parts of characters. -/
def negate? (s : Switches) (negated : Bool) (members : CharSet) : Option CharSet :=
  if negated then (if s.unicode then some members.complement else none) else some members

/-- The code point of a character in a class. -/
def classCode? (s : Switches) (l : Literal) : Option Nat :=
  if s.unicode || l.char.toNat < 128 then some l.char.toNat else none

end Switches

/-- The classes of ASCII characters by name. -/
def asciiClasses : List (String × CharSet) :=
  [("alnum", .ofText "30-39 41-5A 61-7A"), ("alpha", .ofText "41-5A 61-7A"),
    ("ascii", .ofText "0-7F"), ("blank", .ofText "9 20"), ("cntrl", .ofText "0-1F 7F"),
    ("digit", .ofText "30-39"), ("graph", .ofText "21-7E"), ("lower", .ofText "61-7A"),
    ("print", .ofText "20-7E"), ("punct", .ofText "21-2F 3A-40 5B-60 7B-7E"),
    ("space", .ofText "9-D 20"), ("upper", .ofText "41-5A"), ("word", asciiWord),
    ("xdigit", .ofText "30-39 41-46 61-66")]

/-- The members of a family. -/
def Family.members (unicode : Bool) : Family → CharSet
  | .digit => if unicode then decimalDigits else .ofText "30-39"
  | .space => if unicode then whiteSpace else .ofText "9-D 20"
  | .word => if unicode then wordCharacters else asciiWord

/-- The set that an operator makes of two sets. -/
def SetOperator.apply : SetOperator → CharSet → CharSet → CharSet
  | .intersection, a, b => a.inter b
  | .difference, a, b => a.difference b
  | .symmetricDifference, a, b => a.symmetricDifference b

mutual

/-- The characters that a class holds. Case variants join at brackets, operators and named classes,
before a complement is taken. -/
def ClassTree.members? (s : Switches) : ClassTree → Option CharSet
  | .empty => some .empty
  | .literal l => (s.classCode? l).map fun n => ⟨[(n, n)]⟩
  | .range first last => do return ⟨[(← s.classCode? first, ← s.classCode? last)]⟩
  | .family negated f => s.negate? negated (f.members s.unicode)
  | .ascii negated name => do s.negate? negated (s.fold (← asciiClasses.lookup name))
  | .property negated name value =>
    if s.unicode then do
      let found ← match value with
        | some value => valued? name value
        | none => named? name
      s.negate? negated (s.fold found)
    else none
  | .union items => unionMembers? s items
  | .combined operator left right => do
    let a ← left.members? s
    let b ← right.members? s
    return operator.apply (s.fold a) (s.fold b)
  | .bracketed negated content => do s.negate? negated (s.fold (← content.members? s))

/-- The characters that one of several classes holds. -/
def ClassTree.unionMembers? (s : Switches) : List ClassTree → Option CharSet
  | [] => some .empty
  | item :: rest => do
    let a ← item.members? s
    let b ← unionMembers? s rest
    return a.union b

end

/-- The characters that a literal matches. -/
def Literal.members? (s : Switches) (l : Literal) : Option CharSet :=
  let n := l.char.toNat
  if s.unicode then
    some (if s.ignoreCase then .ofRanges ((caseVariants n).map fun v => (v, v)) else ⟨[(n, n)]⟩)
  else if n < 128 then some (s.fold ⟨[(n, n)]⟩)
  else if l.isByte then none
  else some ⟨[(n, n)]⟩

/-- The characters that a dot matches: all, or all that do not end a line. -/
def dotMembers? (s : Switches) : Option CharSet :=
  if !s.unicode then none
  else if s.dotAll then some anyCharacter
  else if s.crlf then some (CharSet.complement ⟨[(10, 10), (13, 13)]⟩)
  else some (CharSet.complement ⟨[(10, 10)]⟩)

/-- The condition that an anchor sets. -/
def Anchor.condition (s : Switches) : Anchor → Look
  | .lineStart => if s.multiLine then .lineStart s.crlf else .textStart
  | .lineEnd => if s.multiLine then .lineEnd s.crlf else .textEnd
  | .textStart => .textStart
  | .textEnd => .textEnd
  | .word edge => .word edge (!s.unicode)

mutual

/-- The expression that a pattern means under the given switches, and the switches for what follows
it. -/
def Tree.meaningWith? (s : Switches) : Tree → Option (Regex × Switches)
  | .empty => some (.empty, s)
  | .flags settings => some (.empty, s.apply settings)
  | .literal l => (l.members? s).map fun m => (.set m, s)
  | .dot => (dotMembers? s).map fun m => (.set m, s)
  | .anchor a => some (.look (a.condition s), s)
  | .charClass c => (c.members? s).map fun m => (.set m, s)
  | .repetition least most body => do
    let (r, s) ← body.meaningWith? s
    return (.repeated least most r, s)
  | .group settings body => do
    let (r, _) ← body.meaningWith? (s.apply settings)
    return (r, s)
  | .concat parts => concatMeaning? s parts
  | .alternation branches => alternationMeaning? s branches

/-- The expression that parts mean one after the other. -/
def Tree.concatMeaning? (s : Switches) : List Tree → Option (Regex × Switches)
  | [] => some (.empty, s)
  | part :: rest => do
    let (a, s) ← part.meaningWith? s
    let (b, s) ← concatMeaning? s rest
    return (.seq a b, s)

/-- The expression that branches mean. Switches set in a branch hold for the branches after it. -/
def Tree.alternationMeaning? (s : Switches) : List Tree → Option (Regex × Switches)
  | [] => some (.set .empty, s)
  | branch :: rest => do
    let (a, s) ← branch.meaningWith? s
    let (b, s) ← alternationMeaning? s rest
    return (.alt a b, s)

end

/-- The expression that a whole pattern means. -/
def Tree.meaning? (t : Tree) : Option Regex := (t.meaningWith? .start).map Prod.fst

end SurveyGate.Pattern
