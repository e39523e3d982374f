import SurveyGate.Number.Double

/-!
# `SurveyGate.Json.Basic`: JSON values

A number is an integer when it is written without point and exponent and fits 64 bits, and a double
otherwise. An object keeps its members in the order they were written, repeated keys included, so
that a reader can refuse a repetition.
-/

set_option autoImplicit false

namespace SurveyGate

open SurveyGate.Number

/-- A JSON value. -/
inductive Json where
  | null
  | bool (value : Bool)
  | integer (value : Int)
  | real (value : Double)
  | text (value : String)
  | array (items : List Json)
  | object (members : List (String × Json))
  deriving Repr, Inhabited

namespace Json

/-- A text, or null when there is none. -/
def ofText? : Option String → Json
  | some s => .text s
  | none => .null

/-- A natural number as an integer. -/
def ofNat (n : Nat) : Json := .integer n

/-- The image of a value, or null when there is none. -/
def ofOption {α : Type} (encode : α → Json) : Option α → Json
  | some a => encode a
  | none => .null

/-- The member of an object with the given key, when the member is there. -/
def optionalMember {α : Type} (key : String) (encode : α → Json) :
    Option α → List (String × Json)
  | some a => [(key, encode a)]
  | none => []

end Json

end SurveyGate
