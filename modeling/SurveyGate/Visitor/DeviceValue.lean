import SurveyGate.Json.Decode
import SurveyGate.Number.Reading
import SurveyGate.Number.Shortest
import SurveyGate.Text.Blank
import SurveyGate.Text.Quoted
import SurveyGate.Text.Search

/-!
# `SurveyGate.Visitor.DeviceValue`: values recorded for a device

A value is a truth value, a number or a text. `number?`, `text` and `isTruthy` are the three ways to
look at it, one for each family of comparisons.
-/

set_option autoImplicit false

namespace SurveyGate

open SurveyGate.Number SurveyGate.Text

/-- A value recorded for a device. -/
inductive DeviceValue where
  | bool (value : Bool)
  | number (value : Double)
  | text (value : String)
  deriving DecidableEq, Repr, Inhabited

/-- The number that a text writes between blanks, if it is finite. -/
def finiteNumber? (s : String) : Option Double :=
  (readDouble? (trim s)).filter Double.isFinite

/-- The text of a number. Integers below `10 ^ 15` are written as such, so zero has no sign. -/
def numberText (x : Double) : String :=
  match x.toInt? with
  | some n => if n.natAbs < Nat.pow 10 15 then toString n else x.text
  | none => x.text

namespace DeviceValue

/-- The value as a finite number. A truth value is none. -/
def number? : DeviceValue → Option Double
  | .bool _ => none
  | .number x => if x.isFinite then some x else none
  | .text s => finiteNumber? s

/-- The value as a text. -/
def asText : DeviceValue → String
  | .bool b => if b then "true" else "false"
  | .number x => numberText x
  | .text s => s

/-- Whether the value counts as true: true itself, a number other than zero, or one of the texts
`true`, `1` and `yes`. -/
def isTruthy : DeviceValue → Bool
  | .bool b => b
  | .number x => !x.equals .zero
  | .text s =>
    let s := trim s
    equalsIgnoringCase s "true" || s == "1" || equalsIgnoringCase s "yes"

/-- The value in a message, a text between quotation marks. -/
def display : DeviceValue → String
  | .text s => quote s
  | value => value.asText

/-- The value that JSON holds. -/
def ofJson? : Json → Option DeviceValue
  | .bool b => some (.bool b)
  | .integer n => some (.number (.ofInt n))
  | .real x => some (.number x)
  | .text s => some (.text s)
  | _ => none

end DeviceValue

end SurveyGate
