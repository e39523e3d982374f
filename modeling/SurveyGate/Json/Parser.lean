import SurveyGate.Json.Basic
import SurveyGate.Number.Reading
import SurveyGate.Unicode.CharSet

/-!
# `SurveyGate.Json.Parser`: JSON values from text

`Json.parse?` reads a whole text as one JSON value with blanks around its parts. A surrogate that an
escape leaves without its partner is read as the replacement character in a value and refused in a
key.
-/

set_option autoImplicit false

namespace SurveyGate.Json

open SurveyGate.Number SurveyGate.Text SurveyGate.Unicode

/-- The characters that may stand between the parts of a value. -/
def isSpace (c : Char) : Bool := c == ' ' || c == '\n' || c == '\t' || c == '\r'

/-- The characters after the blanks in front. -/
def skipSpaces (cs : List Char) : List Char := cs.dropWhile isSpace

/-- One unit of text inside quotation marks: a character, or half of a surrogate pair. -/
inductive Unit16 where
  | whole (c : Char)
  | high (n : Nat)
  | low (n : Nat)

/-- The unit that four hexadecimal digits write. -/
def unitOfCode (n : Nat) : Unit16 :=
  if 0xD800 ≤ n ∧ n ≤ 0xDBFF then .high n
  else if 0xDC00 ≤ n ∧ n ≤ 0xDFFF then .low n
  else .whole (Char.ofNat n)

/-- The unit that an escape writes after its backslash, and the rest. -/
def escape? : List Char → Option (Unit16 × List Char)
  | '"' :: r => some (.whole '"', r)
  | '\\' :: r => some (.whole '\\', r)
  | '/' :: r => some (.whole '/', r)
  | 'b' :: r => some (.whole '\x08', r)
  | 'f' :: r => some (.whole '\x0c', r)
  | 'n' :: r => some (.whole '\n', r)
  | 'r' :: r => some (.whole '\r', r)
  | 't' :: r => some (.whole '\t', r)
  | 'u' :: a :: b :: c :: d :: r => (readHex? [a, b, c, d]).map fun n => (unitOfCode n, r)
  | _ => none

/-- The units up to the closing quotation mark, last one first, and the rest. -/
def units? : Nat → List Unit16 → List Char → Option (List Unit16 × List Char)
  | 0, _, _ => none
  | fuel + 1, done, cs =>
    match cs with
    | [] => none
    | '"' :: r => some (done, r)
    | '\\' :: r =>
      match escape? r with
      | some (u, r) => units? fuel (u :: done) r
      | none => none
    | c :: r => if c.toNat < 0x20 then none else units? fuel (.whole c :: done) r

/-- The character that a high and a low surrogate write together. -/
def surrogatePair (high low : Nat) : Char :=
  Char.ofNat (0x10000 + (high - 0xD800) * 0x400 + (low - 0xDC00))

/-- The characters that units write, and whether every surrogate had its partner. The units come
last one first. -/
def joinUnits : List Char → Bool → List Unit16 → List Char × Bool
  | acc, ok, [] => (acc, ok)
  | acc, ok, .whole c :: r => joinUnits (c :: acc) ok r
  | acc, ok, .low l :: .high h :: r => joinUnits (surrogatePair h l :: acc) ok r
  | acc, _, .low _ :: r => joinUnits ('\uFFFD' :: acc) false r
  | acc, _, .high _ :: r => joinUnits ('\uFFFD' :: acc) false r

/-- A text after its opening quotation mark, whether it is well formed, and the rest. -/
def string? (cs : List Char) : Option (String × Bool × List Char) :=
  (units? (cs.length + 1) [] cs).map fun (us, rest) =>
    let (chars, ok) := joinUnits [] true us
    (String.ofList chars, ok, rest)

/-- An integer if it has neither point nor exponent and fits 64 bits, else the nearest double. A
zero with a minus sign is a double, since integers have no such zero. -/
def numberOf (negative : Bool) (whole fraction : List Char) (exponent : Option Int) : Json :=
  let n := ofDigits whole
  let real := .real (.ofDecimal negative (ofDigits (whole ++ fraction))
    (exponent.getD 0 - fraction.length))
  if fraction.isEmpty && exponent.isNone then
    if negative then (if n = 0 ∨ Nat.pow 2 63 < n then real else .integer (-n))
    else if n < Nat.pow 2 64 then .integer n else real
  else real

/-- The exponent of a number, if there is one, and the rest. -/
def exponent? (cs : List Char) : Option (Option Int × List Char) :=
  let digits (negative : Bool) (cs : List Char) : Option (Option Int × List Char) :=
    let (ds, rest) := spanDigits cs
    if ds.isEmpty then none
    else some (some (if negative then -(ofDigits ds : Int) else ofDigits ds), rest)
  match cs with
  | c :: r =>
    if c == 'e' || c == 'E' then
      match r with
      | '+' :: r => digits false r
      | '-' :: r => digits true r
      | _ => digits false r
    else some (none, cs)
  | [] => some (none, [])

/-- A number, and the rest. There is no zero in front of another digit. -/
def number? (cs : List Char) : Option (Json × List Char) := do
  let (negative, cs) := match cs with
    | '-' :: r => (true, r)
    | _ => (false, cs)
  let (whole, rest) := match cs with
    | '0' :: r => (['0'], r)
    | _ => spanDigits cs
  if whole.isEmpty then none
  let (fraction, rest) ← match rest with
    | '.' :: r =>
      let (ds, r) := spanDigits r
      if ds.isEmpty then none else some (ds, r)
    | _ => some ([], rest)
  let (exponent, rest) ← exponent? rest
  if whole == ['0'] && (rest.head?.any isDigit) then none
  some (numberOf negative whole fraction exponent, rest)

/-- The rest after a word that stands in front. -/
def word? (word : String) (value : Json) (cs : List Char) : Option (Json × List Char) :=
  if word.toList.isPrefixOf cs then some (value, cs.drop word.length) else none

mutual

/-- A value without blanks in front, and the rest. -/
def value? : Nat → List Char → Option (Json × List Char)
  | 0, _ => none
  | fuel + 1, cs =>
    match cs with
    | '"' :: r => (string? r).map fun (s, _, rest) => (.text s, rest)
    | '[' :: r =>
      match skipSpaces r with
      | ']' :: rest => some (.array [], rest)
      | r => (items? fuel r).map fun (xs, rest) => (.array xs, rest)
    | '\x7b' :: r =>
      match skipSpaces r with
      | '\x7d' :: rest => some (.object [], rest)
      | r => (members? fuel r).map fun (ms, rest) => (.object ms, rest)
    | 'n' :: _ => word? "null" .null cs
    | 't' :: _ => word? "true" (.bool true) cs
    | 'f' :: _ => word? "false" (.bool false) cs
    | _ => number? cs

/-- The items of an array up to its closing bracket, and the rest. -/
def items? : Nat → List Char → Option (List Json × List Char)
  | 0, _ => none
  | fuel + 1, cs =>
    match value? fuel cs with
    | none => none
    | some (x, rest) =>
      match skipSpaces rest with
      | ',' :: r => (items? fuel (skipSpaces r)).map fun (xs, rest) => (x :: xs, rest)
      | ']' :: r => some ([x], r)
      | _ => none

/-- The members of an object up to its closing brace, and the rest. -/
def members? : Nat → List Char → Option (List (String × Json) × List Char)
  | 0, _ => none
  | fuel + 1, cs =>
    match cs with
    | '"' :: r =>
      match string? r with
      | some (key, true, rest) =>
        match skipSpaces rest with
        | ':' :: r =>
          match value? fuel (skipSpaces r) with
          | none => none
          | some (x, rest) =>
            match skipSpaces rest with
            | ',' :: r =>
              (members? fuel (skipSpaces r)).map fun (ms, rest) => ((key, x) :: ms, rest)
            | '\x7d' :: r => some ([(key, x)], r)
            | _ => none
        | _ => none
      | _ => none
    | _ => none

end

/-- The value that a whole text writes. Every step into a value or past a comma takes a character,
so twice the length of the text bounds the steps. -/
def parse? (s : String) : Option Json :=
  let cs := skipSpaces s.toList
  match value? (2 * cs.length + 2) cs with
  | some (x, rest) => if (skipSpaces rest).isEmpty then some x else none
  | none => none

end SurveyGate.Json
