import SurveyGate.Pattern.Cursor
import SurveyGate.Pattern.Tree
import SurveyGate.Text.Digits
import SurveyGate.Unicode.Class

/-!
# `SurveyGate.Pattern.Parser`: the structure of a pattern

`Tree.parse?` makes out the structure of a pattern: alternatives, repetitions, groups, classes,
anchors and escapes. Looking around and references back to a group are not part of the language.
Parts may be nested 250 deep.
-/

set_option autoImplicit false

namespace SurveyGate.Pattern

open SurveyGate.Text SurveyGate.Unicode
open Scan

/-- A character that hexadecimal digits name. -/
def charOfHex (digits : List Char) : Scan Char :=
  match readHex? digits with
  | some n => if n.isValidChar then return Char.ofNat n else failure
  | none => failure

/-- Whether a character is a hexadecimal digit. -/
def isHexDigit (c : Char) : Bool := (hexDigit? c).isSome

/-- The character named by hexadecimal digits, in braces or of the given count. -/
def hexLiteral (count : Nat) : Scan Literal := do
  step
  if (← peek) == some '\x7b' then
    step
    let digits ← collectAll isHexDigit
    if (← peek) != some '\x7d' then failure
    step
    return ⟨← charOfHex digits, false⟩
  else
    let digits ← collect isHexDigit count
    if digits.length < count then failure
    return ⟨← charOfHex digits, count == 2⟩

/-- The parts before and after the first place where a separator stands. -/
def splitOnce? (separator : List Char) : List Char → Option (List Char × List Char)
  | [] => none
  | c :: cs =>
    if separator.isPrefixOf (c :: cs) then some ([], (c :: cs).drop separator.length)
    else (splitOnce? separator cs).map fun (before, after) => (c :: before, after)

/-- The class of the characters with a property, as its name in braces says. The property may be
given a value after a colon or an equals sign; after `!=` the class is that of the characters with
any other value. -/
def propertyOfName (negated : Bool) (cs : List Char) : ClassTree :=
  match splitOnce? ['!', '='] cs with
  | some (name, value) => .property (!negated) (.ofList name) (some (.ofList value))
  | none =>
    match (splitOnce? [':'] cs).or (splitOnce? ['='] cs) with
    | some (name, value) => .property negated (.ofList name) (some (.ofList value))
    | none => .property negated (.ofList cs) none

/-- A class of characters with a property, after its letter. -/
def property (negated : Bool) : Scan ClassTree := do
  step
  match ← peek with
  | none => failure
  | some '\x7b' =>
    step
    let name ← collectAll (· != '\x7d')
    expect '\x7d'
    return propertyOfName negated name
  | some '\\' => failure
  | some c =>
    step
    return .property negated c.toString none

/-- The edge of a word with the given name. -/
def edgeNamed? (name : List Char) : Option WordEdge :=
  if name == "start".toList then some .start
  else if name == "end".toList then some .stop
  else if name == "start-half".toList then some .startHalf
  else if name == "end-half".toList then some .stopHalf
  else none

/-- Whether a character may stand in the name of an edge. -/
def isEdgeNameChar (c : Char) : Bool := ('a' ≤ c && c ≤ 'z') || ('A' ≤ c && c ≤ 'Z') || c == '-'

/-- The edge of a word after `\b`: with a name in braces, or without one. Braces with anything but a
letter or hyphen in front are a count. -/
def wordEdge : Scan WordEdge := do
  let before ← get
  if (← peek) != some '\x7b' then return .boundary
  step
  match ← peek with
  | none => failure
  | some c =>
    if isEdgeNameChar c then
      let name ← collectAll isEdgeNameChar
      expect '\x7d'
      match edgeNamed? name with
      | some edge => return edge
      | none => failure
    else
      set before
      return .boundary

/-- The punctuation that has a meaning somewhere in a pattern or may be escaped without one: all of
ASCII but letters, digits and angle brackets. -/
def isEscapable (c : Char) : Bool :=
  c.toNat < 128 && !(c.isAlphanum || c == '<' || c == '>')

/-- A character that stands for itself. -/
def plain (c : Char) : Tree := .literal ⟨c, false⟩

/-- What a backslash and the character after it mean. -/
def escape : Scan Tree := do
  advance
  match ← peek with
  | none => failure
  | some 'x' => return .literal (← hexLiteral 2)
  | some 'u' => return .literal (← hexLiteral 4)
  | some 'U' => return .literal (← hexLiteral 8)
  | some 'p' => return .charClass (← property false)
  | some 'P' => return .charClass (← property true)
  | some c =>
    advance
    if isEscapable c then return plain c
    match c with
    | 'd' => return .charClass (.family false .digit)
    | 'D' => return .charClass (.family true .digit)
    | 's' => return .charClass (.family false .space)
    | 'S' => return .charClass (.family true .space)
    | 'w' => return .charClass (.family false .word)
    | 'W' => return .charClass (.family true .word)
    | 'a' => return plain '\x07'
    | 'f' => return plain '\x0c'
    | 't' => return plain '\t'
    | 'n' => return plain '\n'
    | 'r' => return plain '\r'
    | 'v' => return plain '\x0b'
    | 'A' => return .anchor .textStart
    | 'z' => return .anchor .textEnd
    | 'b' => return .anchor (.word (← wordEdge))
    | 'B' => return .anchor (.word .noBoundary)
    | '<' => return .anchor (.word .start)
    | '>' => return .anchor (.word .stop)
    | _ => failure

/-- One character of a pattern, or what an escape means. -/
def single : Scan Tree := do
  match ← peek with
  | none => failure
  | some '\\' => escape
  | some c =>
    advance
    match c with
    | '.' => return .dot
    | '^' => return .anchor .lineStart
    | '$' => return .anchor .lineEnd
    | c => return plain c

/-- One character of a class, or what an escape means there. -/
def classSingle : Scan Tree := do
  match ← peek with
  | none => failure
  | some '\\' => escape
  | some c =>
    advance
    return plain c

/-- A character or a range of characters of a class, or a class with an escape of its own. A hyphen
makes no range when a bracket or another hyphen follows it. -/
def classRange : Scan ClassTree := do
  let first ← classSingle
  spaces
  let ending ← peekSecond
  if (← peek) == some '-' && ending != some ']' && ending != some '-' then
    step
    match first, ← classSingle with
    | .literal a, .literal b => if a.char ≤ b.char then return .range a b else failure
    | _, _ => failure
  else
    match first with
    | .literal a => return .literal a
    | .charClass c => return c
    | _ => failure

/-- The names of the classes of ASCII characters. -/
def asciiNames : List String :=
  ["alnum", "alpha", "ascii", "blank", "cntrl", "digit", "graph", "lower", "print", "punct",
    "space", "upper", "word", "xdigit"]

/-- The class of ASCII characters that stands in front between brackets and colons, and the rest. -/
def asciiClass? : List Char → Option (ClassTree × List Char)
  | '[' :: ':' :: cs =>
    let (negated, cs) := match cs with
      | '^' :: more => (true, more)
      | _ => (false, cs)
    let name := String.ofList (cs.takeWhile (· != ':'))
    match cs.dropWhile (· != ':') with
    | ':' :: ']' :: more =>
      if asciiNames.contains name then some (.ascii negated name, more) else none
    | _ => none
  | _ => none

/-- The opening bracket of a class: whether the class is negated, and its first items, last one
first. Hyphens that come first stand for themselves, and so does a bracket. -/
def classOpen : Scan (Bool × List ClassTree) := do
  expect '['
  spaces
  let negated := (← peek) == some '^'
  if negated then step
  let hyphens ← collectAll (· == '-')
  if hyphens.isEmpty && (← peek) == some ']' then
    step
    return (negated, [.literal ⟨']', false⟩])
  else return (negated, hyphens.map fun c => .literal ⟨c, false⟩)

/-- The class of the items since the last operator, with that operator applied. The items come last
one first. -/
def closeItems (pending : Option (SetOperator × ClassTree)) (items : List ClassTree) : ClassTree :=
  let right := ClassTree.ofItems items.reverse
  match pending with
  | some (operator, left) => .combined operator left right
  | none => right

/-- The operator that comes next in a class. -/
def operator? : List Char → Option (SetOperator × List Char)
  | '&' :: '&' :: rest => some (.intersection, rest)
  | '-' :: '-' :: rest => some (.difference, rest)
  | '~' :: '~' :: rest => some (.symmetricDifference, rest)
  | _ => none

/-- The items of a class up to its closing bracket. Operators have equal rank and are applied from
left to right. -/
def classItems : Nat → Option (SetOperator × ClassTree) → List ClassTree → Scan ClassTree
  | 0, _, _ => failure
  | fuel + 1, pending, items => do
    spaces
    let cs ← rest
    match cs with
    | [] => failure
    | ']' :: _ =>
      advance
      return closeItems pending items
    | '[' :: _ =>
      match asciiClass? cs with
      | some (item, more) =>
        goOn more
        classItems fuel pending (item :: items)
      | none =>
        let (negated, first) ← classOpen
        let content ← classItems fuel none first
        classItems fuel pending (.bracketed negated content :: items)
    | _ =>
      match operator? cs with
      | some (operator, more) =>
        goOn more
        classItems fuel (some (operator, closeItems pending items)) []
      | none =>
        let item ← classRange
        classItems fuel pending (item :: items)

/-- A class in brackets. -/
def bracketedClass : Scan ClassTree := do
  let fuel := (← rest).length + 1
  let (negated, first) ← classOpen
  return .bracketed negated (← classItems fuel none first)

/-- A decimal number of 32 bits with blanks around it. -/
def decimal : Scan Nat := do
  goOn (trimLeft (← rest))
  let digits ← collectAll isDigit
  goOn (trimLeft (← rest))
  if digits.isEmpty || Nat.pow 2 32 ≤ ofDigits digits then failure
  return ofDigits digits

/-- The bounds of a repetition in braces. -/
def counts : Scan (Nat × Option Nat) := do
  step
  let least ← decimal
  if (← peek) == some ',' then
    step
    if (← peek) == some '\x7d' then return (least, none)
    let most ← decimal
    if most < least then failure
    return (least, some most)
  else return (least, some least)

/-- The bounds of the repetition that comes next. A question mark after it asks for a short match,
which is a match all the same. -/
def bounds : Scan (Nat × Option Nat) := do
  match ← peek with
  | some '?' => advance; skip '?'; return (0, some 1)
  | some '*' => advance; skip '?'; return (0, none)
  | some '+' => advance; skip '?'; return (1, none)
  | _ =>
    let range ← counts
    if (← peek) != some '\x7d' then failure
    step
    skip '?'
    return range

/-- The parts with the last one repeated. The parts come last one first. -/
def repeatLast (range : Nat × Option Nat) : List Tree → Scan (List Tree)
  | [] => failure
  | .flags _ :: _ => failure
  | part :: done => return .repetition range.1 range.2 part :: done

/-- The switch with the given letter. -/
def flag? : Char → Option Flag
  | 'i' => some .ignoreCase
  | 'm' => some .multiLine
  | 's' => some .dotAll
  | 'U' => some .swapGreed
  | 'u' => some .unicode
  | 'R' => some .crlf
  | 'x' => some .verbose
  | _ => none

/-- The settings that letters write. A hyphen turns the switches after it off; it stands once at
most and not at the end, and no switch stands twice. -/
def settings? : Bool → FlagSettings → List Char → Option FlagSettings
  | _, done, [] => some done
  | negated, done, '-' :: cs => if negated || cs.isEmpty then none else settings? true done cs
  | negated, done, c :: cs => do
    let flag ← flag? c
    if done.any (·.1 == flag) then none
    settings? negated (done ++ [(flag, !negated)]) cs

/-- Whether a character may stand in the name of a group. -/
def isNameChar (c : Char) : Bool :=
  c == '_' || c == '.' || c == '[' || c == ']' || alphabetic.contains c || numeric.contains c

/-- The name of a group up to its closing angle bracket. No two groups have the same name. -/
def groupName : Scan Unit := do
  let cs ← rest
  let name := cs.takeWhile (· != '>')
  goOn (cs.drop name.length)
  expect '>'
  let wellFormed := name.all isNameChar
    && name.head?.any fun c => c == '_' || alphabetic.contains c
  if wellFormed && !(← get).names.contains (.ofList name) then
    modify fun c => { c with names := .ofList name :: c.names }
  else failure

/-- What stands after the opening parenthesis of a group: settings, and whether they are for a group
or for what follows. -/
def groupOpen : Scan (FlagSettings × Bool) := do
  expect '('
  spaces
  let lookAround := ["?=", "?!", "?<=", "?<!"]
  let cs ← rest
  if lookAround.any fun s => s.toList.isPrefixOf cs then failure
  if (← skipText "?P<".toList) || (← skipText "?<".toList) then
    groupName
    return ([], true)
  else if ← skipText ['?'] then
    let letters := (← rest).takeWhile fun c => c != ':' && c != ')'
    goOn ((← rest).drop letters.length)
    match settings? false [] letters, ← peek with
    | some settings, some ':' =>
      advance
      return (settings, true)
    | some settings, some ')' =>
      advance
      if settings.isEmpty then failure
      return (settings, false)
    | _, _ => failure
  else return ([], true)

/-- Makes settings hold for blanks and comments. -/
def setVerbose (settings : FlagSettings) : Scan Unit :=
  match settings.lookup .verbose with
  | some verbose => modify fun c => { c with verbose }
  | none => return ()

/-- The pattern of finished branches and the parts of the last one. Both come last one first. -/
def closeBranches (branches parts : List Tree) : Tree :=
  .ofBranches (.ofParts parts.reverse :: branches).reverse

/-- The parts of a pattern up to its end or a closing parenthesis. Finished branches, and the parts
of the branch that is being read, come last one first. -/
def parts : Nat → List Tree → List Tree → Scan Tree
  | 0, _, _ => failure
  | fuel + 1, branches, done => do
    spaces
    match ← peek with
    | none => return closeBranches branches done
    | some c =>
      match c with
      | ')' => return closeBranches branches done
      | '|' =>
        advance
        parts fuel (.ofParts done.reverse :: branches) []
      | '(' =>
        let (settings, isGroup) ← groupOpen
        let outer := (← get).verbose
        setVerbose settings
        if isGroup then
          let body ← parts fuel [] []
          expect ')'
          modify fun c => { c with verbose := outer }
          parts fuel branches (.group settings body :: done)
        else parts fuel branches (.flags settings :: done)
      | '[' =>
        let value ← bracketedClass
        parts fuel branches (.charClass value :: done)
      | c =>
        if c == '?' || c == '*' || c == '+' || c == '\x7b' then
          let range ← bounds
          parts fuel branches (← repeatLast range done)
        else
          let part ← single
          parts fuel branches (part :: done)

/-- How deep the parts of a pattern may be nested. -/
def maxDepth : Nat := 250

/-- The structure of a pattern. Every step takes a character, so the length of the text bounds the
steps. -/
def Tree.parse? (s : String) : Option Tree := do
  let cs := s.toList
  let (tree, cursor) ← (parts (cs.length + 1) [] []).run ⟨cs, false, []⟩
  if cursor.rest.isEmpty && tree.depth ≤ maxDepth then some tree else none

end SurveyGate.Pattern
