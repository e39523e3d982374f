/-!
# `SurveyGate.Number.Double`: numbers of double precision

A finite number of double precision is a whole multiple of `2 ^ -1074`, so a sign and a natural
number of such units hold it exactly, and comparison is comparison of integers. `Double.ofDecimal`
rounds a decimal number to the nearest double, a half to the one with an even significand.
`Double.bits` is the interchange pattern of 64 bits.
-/

set_option autoImplicit false

namespace SurveyGate.Number

/-- A number of double precision. `units` counts multiples of `2 ^ -1074`; zero has a sign. -/
inductive Double where
  | finite (negative : Bool) (units : Nat)
  | infinite (negative : Bool)
  | nan
  deriving DecidableEq, Repr, Inhabited

/-- The units of infinity: the first power of two that no finite double reaches. -/
def overflowUnits : Nat := Nat.pow 2 2098

/-- How far the lowest bit of a significand of 53 bits lies above one unit. -/
def ulpShift (units : Nat) : Nat := Nat.log2 units - 52

/-- The natural number nearest to `num / den`, a half going to the even neighbour. -/
def roundHalfEven (num den : Nat) : Nat :=
  let q := num / den
  let r := num % den
  if 2 * r < den then q
  else if den < 2 * r then q + 1
  else if q % 2 = 0 then q else q + 1

namespace Double

/-- Zero without a minus sign. -/
def zero : Double := .finite false 0

/-- Whether the number is neither infinite nor undefined. -/
def isFinite : Double → Bool
  | .finite _ _ => true
  | _ => false

/-- The number as a signed count of units; infinity stands above every finite count. -/
def scaled? : Double → Option Int
  | .finite negative units => some (if negative then -(units : Int) else units)
  | .infinite negative => some (if negative then -(overflowUnits : Int) else overflowUnits)
  | .nan => none

/-- Numerical equality: both zeros are equal, and an undefined number equals nothing. -/
def equals (a b : Double) : Bool :=
  match a.scaled?, b.scaled? with
  | some x, some y => x == y
  | _, _ => false

/-- Whether `a` is less than `b`. -/
def less (a b : Double) : Bool :=
  match a.scaled?, b.scaled? with
  | some x, some y => x < y
  | _, _ => false

/-- Whether `a` is less than `b` or equal to it. -/
def lessOrEqual (a b : Double) : Bool :=
  match a.scaled?, b.scaled? with
  | some x, some y => x ≤ y
  | _, _ => false

/-- The double nearest to `num / den` units. -/
def ofUnits (negative : Bool) (num den : Nat) : Double :=
  let step := Nat.pow 2 (ulpShift (num / den))
  let units := roundHalfEven num (den * step) * step
  if units < overflowUnits then .finite negative units else .infinite negative

/-- The double nearest to `digits * 10 ^ exponent`. Numbers far beyond either end of the range are
told from the count of digits alone. -/
def ofDecimal (negative : Bool) (digits : Nat) (exponent : Int) : Double :=
  let magnitude := exponent + (Nat.toDigits 10 digits).length
  if digits = 0 ∨ magnitude < -330 then .finite negative 0
  else if 310 < magnitude then .infinite negative
  else if 0 ≤ exponent then ofUnits negative (digits * Nat.pow 10 exponent.toNat * Nat.pow 2 1074) 1
  else ofUnits negative (digits * Nat.pow 2 1074) (Nat.pow 10 (-exponent).toNat)

/-- The double nearest to an integer. -/
def ofInt (n : Int) : Double := ofDecimal (n < 0) n.natAbs 0

/-- The interchange pattern: sign, exponent field and fraction. -/
def bits : Double → Nat
  | .nan => 0x7FF8000000000000
  | .infinite negative => (if negative then Nat.pow 2 63 else 0) + 0x7FF0000000000000
  | .finite negative units =>
    let sign := if negative then Nat.pow 2 63 else 0
    if units < Nat.pow 2 52 then sign + units
    else
      let shift := ulpShift units
      sign + (shift + 1) * Nat.pow 2 52 + (units / Nat.pow 2 shift - Nat.pow 2 52)

end Double

/-- Comparison of two numbers that are defined is a total order. -/
theorem Double.less_iff_not_lessOrEqual {a b : Double} (ha : a.isFinite = true)
    (hb : b.isFinite = true) : a.less b = !b.lessOrEqual a := by
  obtain ⟨x, hx⟩ : ∃ x, a.scaled? = some x := by
    cases a <;> first | exact ⟨_, rfl⟩ | cases ha
  obtain ⟨y, hy⟩ : ∃ y, b.scaled? = some y := by
    cases b <;> first | exact ⟨_, rfl⟩ | cases hb
  simp only [Double.less, Double.lessOrEqual, hx, hy]
  rw [← decide_not]
  exact decide_eq_decide.2 Int.not_le.symm

end SurveyGate.Number
