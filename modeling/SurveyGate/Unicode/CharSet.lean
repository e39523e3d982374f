/-!
# `SurveyGate.Unicode.CharSet`: sets of characters as lists of ranges

A set is a list of ranges of code points, in order and with a gap between any two.
`CharSet.ofRanges` brings any list of ranges into this form. The set operations of a bracketed class
are built from `CharSet.union` and `CharSet.complement`.
-/

set_option autoImplicit false

namespace SurveyGate.Unicode

/-- A set of code points, given by the first and the last member of each range. -/
structure CharSet where
  ranges : List (Nat × Nat)
  deriving DecidableEq, Repr, Inhabited

/-- The largest code point. -/
def maxCode : Nat := 0x10FFFF

/-- The range from `lo` to `hi` and ranges sorted by their start, none of which starts below `lo`,
with ranges that touch or overlap joined. -/
def joinFrom (lo hi : Nat) : List (Nat × Nat) → List (Nat × Nat)
  | [] => [(lo, hi)]
  | (lo', hi') :: rest =>
    if lo' ≤ hi + 1 then joinFrom lo (max hi hi') rest else (lo, hi) :: joinFrom lo' hi' rest

/-- Ranges sorted by their start, with ranges that touch or overlap joined. -/
def joinRanges : List (Nat × Nat) → List (Nat × Nat)
  | [] => []
  | (lo, hi) :: rest => joinFrom lo hi rest

namespace CharSet

/-- The set that a list of ranges covers. -/
def ofRanges (rs : List (Nat × Nat)) : CharSet :=
  ⟨joinRanges (rs.mergeSort fun a b => a.1 ≤ b.1)⟩

/-- The set without members. -/
def empty : CharSet := ⟨[]⟩

/-- The set whose only member is the given character. -/
def singleton (c : Char) : CharSet := ⟨[(c.toNat, c.toNat)]⟩

/-- Whether one of the ranges, which are in order, holds `n`. -/
def inRanges (n : Nat) : List (Nat × Nat) → Bool
  | [] => false
  | (lo, hi) :: rest => if n < lo then false else n ≤ hi || inRanges n rest

/-- Whether a code point is a member. -/
def containsCode (s : CharSet) (n : Nat) : Bool := inRanges n s.ranges

/-- Whether a character is a member. -/
def contains (s : CharSet) (c : Char) : Bool := s.containsCode c.toNat

/-- The members of either set. -/
def union (s t : CharSet) : CharSet := ofRanges (s.ranges ++ t.ranges)

/-- The gaps that a list of ranges leaves between `start` and the largest code point. -/
def gaps (start : Nat) : List (Nat × Nat) → List (Nat × Nat)
  | [] => if start ≤ maxCode then [(start, maxCode)] else []
  | (lo, hi) :: rest =>
    if start < lo then (start, lo - 1) :: gaps (hi + 1) rest else gaps (hi + 1) rest

/-- Every code point that is not a member. -/
def complement (s : CharSet) : CharSet := ⟨gaps 0 s.ranges⟩

/-- The members of both sets. -/
def inter (s t : CharSet) : CharSet := (s.complement.union t.complement).complement

/-- The members of the first set that the second lacks. -/
def difference (s t : CharSet) : CharSet := s.inter t.complement

/-- The members of exactly one of the sets. -/
def symmetricDifference (s t : CharSet) : CharSet := (s.union t).difference (s.inter t)

/-- Whether every member is an ASCII character. -/
def isAscii (s : CharSet) : Bool := s.ranges.all fun r => r.2 < 128

/-- Whether the set has no member. -/
def isEmpty (s : CharSet) : Bool := s.ranges.isEmpty

end CharSet

/-- The parts of a text between separators, empty parts left out. -/
def partsBetween (isSeparator : Char → Bool) (cs : List Char) : List (List Char) :=
  (cs.splitOnP isSeparator).filter (! ·.isEmpty)

/-- The words of a text: its parts between spaces and line breaks. -/
def words (cs : List Char) : List (List Char) := partsBetween (fun c => c == ' ' || c == '\n') cs

/-- The value of a hexadecimal digit. -/
def hexDigit? (c : Char) : Option Nat :=
  if '0' ≤ c ∧ c ≤ '9' then some (c.toNat - 48)
  else if 'a' ≤ c ∧ c ≤ 'f' then some (c.toNat - 87)
  else if 'A' ≤ c ∧ c ≤ 'F' then some (c.toNat - 55)
  else none

/-- The number that hexadecimal digits write; `none` when there is no digit or another
character. -/
def readHex? (cs : List Char) : Option Nat :=
  if cs.isEmpty then none
  else cs.foldlM (fun n c => (hexDigit? c).map fun d => 16 * n + d) 0

/-- The range that `41` or `41-5A` writes. -/
def readRange? (cs : List Char) : Option (Nat × Nat) :=
  match partsBetween (· == '-') cs with
  | [lo] => (readHex? lo).map fun n => (n, n)
  | [lo, hi] => do return (← readHex? lo, ← readHex? hi)
  | _ => none

/-- The set that ranges with spaces or line breaks between them write. -/
def CharSet.ofText (s : String) : CharSet :=
  .ofRanges ((words s.toList).filterMap readRange?)

/-- A named set of a table: its names and the text of its ranges. -/
structure Property where
  names : List String
  ranges : String
  deriving Repr

/-- The set of the first property in a table that has the given name. -/
def lookup? (table : List Property) (name : String) : Option CharSet :=
  (table.find? (·.names.contains name)).map fun p => .ofText p.ranges

/-- The union of the sets that a table gives to the names. -/
def lookupAll (table : List Property) (names : List String) : CharSet :=
  names.foldl (fun s n => s.union ((lookup? table n).getD .empty)) .empty

end SurveyGate.Unicode
