import SurveyGate.Number.Double

/-!
# `SurveyGate.Number.Shortest`: the shortest decimal text of a number

`shortestDecimal` finds the decimal number with the fewest digits that reads back as the given
double, and of those the nearest to it. `Double.text` writes it without an exponent.
-/

set_option autoImplicit false

namespace SurveyGate.Number

/-- The decimals that read back as a double, as bounds on counts of half units. The bounds
themselves belong to it when the significand is even. -/
structure Neighbourhood where
  value : Nat
  low : Nat
  high : Nat
  closed : Bool
  deriving Repr

/-- The neighbourhood of a positive double: half the way to the next double on either side. The
double below a power of two is only half as far away. -/
def neighbourhood (units : Nat) : Neighbourhood :=
  let shift := ulpShift units
  let below := if 0 < shift ∧ units = Nat.pow 2 (52 + shift) then Nat.pow 2 (shift - 1)
    else Nat.pow 2 shift
  { value := 2 * units, low := 2 * units - below, high := 2 * units + Nat.pow 2 shift
    closed := units / Nat.pow 2 shift % 2 = 0 }

/-- Whether `num / den` half units read back as the double. -/
def Neighbourhood.holds (n : Neighbourhood) (num den : Nat) : Bool :=
  if n.closed then n.low * den ≤ num && num ≤ n.high * den
  else n.low * den < num && num < n.high * den

/-- The multiple of `10 ^ place` nearest to the double, if one reads back as it. Of two that are
equally near the larger is taken. -/
def nearestMultiple? (n : Neighbourhood) (place : Int) : Option Nat :=
  -- A multiple `c` of `10 ^ place` is `c * step / den` half units.
  let step := Nat.pow 2 1075 * Nat.pow 10 place.toNat
  let den := Nat.pow 10 (-place).toNat
  let low := n.value * den / step
  let lowHolds := n.holds (low * step) den
  let highHolds := n.holds ((low + 1) * step) den
  let nearerHigh := (low + 1) * step - n.value * den ≤ n.value * den - low * step
  if highHolds && (nearerHigh || !lowHolds) then some (low + 1)
  else if lowHolds then some low
  else none

/-- The first place, from `place` down, on whose grid a decimal reads back as the double. -/
def searchPlace (n : Neighbourhood) : Nat → Int → Nat × Int
  | 0, place => (0, place)
  | fuel + 1, place =>
    match nearestMultiple? n place with
    | some c => if c = 0 then searchPlace n fuel (place - 1) else (c, place)
    | none => searchPlace n fuel (place - 1)

/-- The digits and the place of the last digit of the shortest decimal for a positive double. The
search starts above its first digit; seventeen digits always suffice. -/
def shortestDecimal (units : Nat) : Nat × Int :=
  let magnitude : Int := ((Nat.log2 units : Int) - 1074) * 30103 / 100000
  searchPlace (neighbourhood units) 24 (magnitude + 3)

/-- A decimal number with all its digits written out. -/
def positional (digits : Nat) (place : Int) : String :=
  let ds := Nat.toDigits 10 digits
  if 0 ≤ place then .ofList (ds ++ List.replicate place.toNat '0')
  else
    let places := (-place).toNat
    let all := List.replicate (places + 1 - ds.length) '0' ++ ds
    .ofList (all.take (all.length - places) ++ '.' :: all.drop (all.length - places))

namespace Double

/-- The text of a number: its shortest decimal, never with an exponent. -/
def text : Double → String
  | .nan => "NaN"
  | .infinite negative => if negative then "-inf" else "inf"
  | .finite negative units =>
    let sign := if negative then "-" else ""
    if units = 0 then sign ++ "0"
    else
      let (digits, place) := shortestDecimal units
      sign ++ positional digits place

/-- The integer a number is, when it is a finite one. -/
def toInt? : Double → Option Int
  | .finite negative units =>
    if units % Nat.pow 2 1074 = 0 then
      let whole := units / Nat.pow 2 1074
      some (if negative then -(whole : Int) else whole)
    else none
  | _ => none

end Double

end SurveyGate.Number
