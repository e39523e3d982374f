/-!
# `SurveyGate.Pattern.Tree`: patterns as they are written

A `Tree` is a pattern with its structure made out and nothing decided yet: names of classes are not
looked up, and flags stand where they were written. `Tree.depth` counts how deep its parts are
nested.
-/

set_option autoImplicit false

namespace SurveyGate.Pattern

/-- The switches that a pattern can set for what follows. -/
inductive Flag where
  | ignoreCase
  | multiLine
  | dotAll
  | swapGreed
  | unicode
  | crlf
  | verbose
  deriving DecidableEq, Repr

/-- Switches with the value they get. -/
abbrev FlagSettings := List (Flag × Bool)

/-- A character to be matched. `isByte` says that it was written as two hexadecimal digits, which is
how a byte is written. -/
structure Literal where
  char : Char
  isByte : Bool
  deriving DecidableEq, Repr

/-- The families of characters with a letter of their own. -/
inductive Family where
  | digit
  | space
  | word
  deriving DecidableEq, Repr

/-- How two sets of a class are combined. -/
inductive SetOperator where
  | intersection
  | difference
  | symmetricDifference
  deriving DecidableEq, Repr

/-- A set of characters. -/
inductive ClassTree where
  | empty
  | literal (value : Literal)
  | range (first last : Literal)
  | family (negated : Bool) (family : Family)
  /-- A class of ASCII characters, named between colons. -/
  | ascii (negated : Bool) (name : String)
  /-- A class of characters with a property, or with a value of it. -/
  | property (negated : Bool) (name : String) (value : Option String)
  | union (items : List ClassTree)
  | combined (operator : SetOperator) (left right : ClassTree)
  | bracketed (negated : Bool) (content : ClassTree)
  deriving Repr

/-- The sides of a place in a text on which a word may begin or end. -/
inductive WordEdge where
  | boundary
  | noBoundary
  | start
  | stop
  | startHalf
  | stopHalf
  deriving DecidableEq, Repr

/-- What can be asked of a place in a text. -/
inductive Anchor where
  | lineStart
  | lineEnd
  | textStart
  | textEnd
  | word (edge : WordEdge)
  deriving DecidableEq, Repr

/-- A pattern as it is written. -/
inductive Tree where
  | empty
  | flags (settings : FlagSettings)
  | literal (value : Literal)
  | dot
  | anchor (value : Anchor)
  | charClass (value : ClassTree)
  | repetition (least : Nat) (most : Option Nat) (body : Tree)
  | group (settings : FlagSettings) (body : Tree)
  | concat (parts : List Tree)
  | alternation (branches : List Tree)
  deriving Repr, Inhabited

mutual

/-- How deep the brackets, unions and operators of a class are nested. -/
def ClassTree.depth : ClassTree → Nat
  | .empty | .literal _ | .range .. | .family .. | .ascii .. | .property .. => 0
  | .union items => depths items + 1
  | .combined _ left right => max left.depth right.depth + 1
  | .bracketed _ content => content.depth + 1

/-- The greatest depth of several classes. -/
def ClassTree.depths : List ClassTree → Nat
  | [] => 0
  | item :: rest => max item.depth (depths rest)

end

mutual

/-- How deep the parts of a pattern are nested. Single characters and places count nothing. -/
def Tree.depth : Tree → Nat
  | .empty | .flags _ | .literal _ | .dot | .anchor _ => 0
  | .charClass value => value.depth
  | .repetition _ _ body => body.depth + 1
  | .group _ body => body.depth + 1
  | .concat parts => depths parts + 1
  | .alternation branches => depths branches + 1

/-- The greatest depth of several patterns. -/
def Tree.depths : List Tree → Nat
  | [] => 0
  | part :: rest => max part.depth (depths rest)

end

/-- The class that several items make together. -/
def ClassTree.ofItems : List ClassTree → ClassTree
  | [] => .empty
  | [item] => item
  | items => .union items

/-- The pattern that several parts make one after the other. -/
def Tree.ofParts : List Tree → Tree
  | [] => .empty
  | [part] => part
  | parts => .concat parts

/-- The pattern that several branches offer. -/
def Tree.ofBranches : List Tree → Tree
  | [branch] => branch
  | branches => .alternation branches

end SurveyGate.Pattern
