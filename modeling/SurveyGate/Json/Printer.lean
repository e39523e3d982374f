import SurveyGate.Json.Basic
import SurveyGate.Number.Shortest
import SurveyGate.Text.Digits

/-!
# `SurveyGate.Json.Printer`: JSON values as text

`Json.print` writes a value in one line without blanks. Only quotation marks, backslashes and
controls are escaped.
-/

set_option autoImplicit false

namespace SurveyGate.Json

open SurveyGate.Text

/-- A character as it stands between quotation marks. -/
def escapeChar (c : Char) : String :=
  if c == '"' then "\\\""
  else if c == '\\' then "\\\\"
  else if c.toNat < 0x20 then
    let ds := Nat.toDigits 16 c.toNat
    "\\u" ++ .ofList (List.replicate (4 - ds.length) '0' ++ ds)
  else c.toString

/-- A text between quotation marks. -/
def printText (s : String) : String :=
  "\"" ++ String.join (s.toList.map escapeChar) ++ "\""

/-- A number; there is no number for what is not finite. -/
def printReal (x : Number.Double) : String := if x.isFinite then x.text else "null"

mutual

/-- The value as text. -/
def print : Json → String
  | .null => "null"
  | .bool b => if b then "true" else "false"
  | .integer n => toString n
  | .real x => printReal x
  | .text s => printText s
  | .array xs => "[" ++ printItems xs ++ "]"
  | .object ms => "\x7b" ++ printMembers ms ++ "\x7d"

/-- Items with commas between them. -/
def printItems : List Json → String
  | [] => ""
  | [x] => print x
  | x :: y :: rest => print x ++ "," ++ printItems (y :: rest)

/-- Members with commas between them. -/
def printMembers : List (String × Json) → String
  | [] => ""
  | [(k, x)] => printText k ++ ":" ++ print x
  | (k, x) :: y :: rest => printText k ++ ":" ++ print x ++ "," ++ printMembers (y :: rest)

end

end SurveyGate.Json
