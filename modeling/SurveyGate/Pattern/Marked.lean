import SurveyGate.Pattern.Regex

/-!
# `SurveyGate.Pattern.Marked`: matching by marks

A `Marked` expression is a regular expression in which the sets that matched the last character carry
a mark. `Marked.read` tells whether a match ends at a place and moves every mark over the next
character, so a text is matched in time proportional to its length. `Regex.occursIn` says whether some
part of a text matches.
-/

set_option autoImplicit false

namespace SurveyGate.Pattern

open SurveyGate.Unicode

/-- A regular expression with marks on the sets that matched last. -/
inductive Marked where
  | empty
  | set (members : CharSet) (mark : Bool)
  | look (condition : Look)
  | seq (first second : Marked)
  | alt (left right : Marked)
  | star (body : Marked)
  deriving Repr, Inhabited

namespace Marked

/-- A number of copies in front of an expression. -/
def copies (body : Marked) : Nat → Marked → Marked
  | 0, rest => rest
  | n + 1, rest => .seq body (copies body n rest)

/-- At most the given number of copies. -/
def upTo (body : Marked) : Nat → Marked
  | 0 => .empty
  | n + 1 => .alt .empty (.seq body (upTo body n))

/-- An expression without marks. -/
def ofRegex : Regex → Marked
  | .empty => .empty
  | .set members => .set members false
  | .look condition => .look condition
  | .seq first second => .seq (ofRegex first) (ofRegex second)
  | .alt left right => .alt (ofRegex left) (ofRegex right)
  | .iterate least most body =>
    let body := ofRegex body
    match most with
    | none => copies body least (.star body)
    | some most => copies body least (upTo body (most - least))

/-- What `read` finds out at a place: whether the expression matches the empty text there, whether a
match that began earlier ends there, and the expression after the next character, given whether a
match may begin at the place. -/
structure Reading where
  nullable : Bool
  ended : Bool
  next : Bool → Marked

/-- Reads the character after a place. -/
def read (p : Place) : Marked → Reading
  | .empty => ⟨true, false, fun _ => .empty⟩
  | .set members mark =>
    ⟨false, mark, fun entering => .set members (entering && p.after.any members.contains)⟩
  | .look condition => ⟨condition.holds p, false, fun _ => .look condition⟩
  | .seq first second =>
    let a := first.read p
    let b := second.read p
    ⟨a.nullable && b.nullable, b.ended || (a.ended && b.nullable), fun entering =>
      .seq (a.next entering) (b.next ((entering && a.nullable) || a.ended))⟩
  | .alt left right =>
    let a := left.read p
    let b := right.read p
    ⟨a.nullable || b.nullable, a.ended || b.ended, fun entering =>
      .alt (a.next entering) (b.next entering)⟩
  | .star body =>
    let a := body.read p
    ⟨true, a.ended, fun entering => .star (a.next (entering || a.ended))⟩

/-- Whether a match ends before, at or after the place in front of the given characters. -/
def search (before : Option Char) (m : Marked) : List Char → Bool
  | [] =>
    let r := m.read ⟨before, none⟩
    r.nullable || r.ended
  | c :: cs =>
    let r := m.read ⟨before, some c⟩
    r.nullable || r.ended || search (some c) (r.next true) cs

end Marked

/-- Whether some part of a text matches. -/
def Regex.occursIn (r : Regex) (s : String) : Bool := (Marked.ofRegex r).search none s.toList

end SurveyGate.Pattern
