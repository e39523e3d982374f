import SurveyGate.Number.Double
import SurveyGate.Text.Digits

/-!
# `SurveyGate.Number.Reading`: numbers written in decimal

`readDouble?` reads a whole text as a number: an optional sign, then digits with an optional point
and an optional exponent, or one of the words for infinity and for the undefined number in any case.
Blanks are not allowed, and at least one digit stands before or after the point.
-/

set_option autoImplicit false

namespace SurveyGate.Number

open SurveyGate.Text

/-- The exponent after the letter `e`: an optional sign and at least one digit, up to the end. -/
def readExponent? (cs : List Char) : Option Int :=
  let digits? (ds : List Char) : Option Int :=
    if ds.isEmpty || ds.any (!isDigit ·) then none else some (ofDigits ds)
  match cs with
  | '+' :: ds => digits? ds
  | '-' :: ds => (digits? ds).map (- ·)
  | ds => digits? ds

/-- The digits before and after the point, and the exponent, of an unsigned number. -/
def readMagnitude? (cs : List Char) : Option (List Char × List Char × Int) := do
  let (whole, rest) := spanDigits cs
  let (fraction, rest) :=
    match rest with
    | '.' :: more => spanDigits more
    | _ => ([], rest)
  if whole.isEmpty && fraction.isEmpty then none
  match rest with
  | [] => some (whole, fraction, 0)
  | c :: more => if c == 'e' || c == 'E' then return (whole, fraction, ← readExponent? more) else none

/-- An unsigned number or one of the words for a number that is not finite. -/
def readUnsigned? (negative : Bool) (cs : List Char) : Option Double :=
  let word := String.ofList (cs.map Char.toLower)
  if word == "inf" || word == "infinity" then some (.infinite negative)
  else if word == "nan" then some .nan
  else (readMagnitude? cs).map fun (whole, fraction, exponent) =>
    .ofDecimal negative (ofDigits (whole ++ fraction)) (exponent - fraction.length)

/-- The number that a whole text writes. -/
def readDouble? (s : String) : Option Double :=
  match s.toList with
  | '+' :: cs => readUnsigned? false cs
  | '-' :: cs => readUnsigned? true cs
  | cs => readUnsigned? false cs

end SurveyGate.Number
