import SurveyGate.Unicode.Class

/-!
# `SurveyGate.Text.Quoted`: a text in quotation marks

`quote` writes a text so that it can be read in one line of a message: between quotation marks, with
a backslash before a quotation mark or backslash, a letter for the common controls, and the code
point of every character that has no visible form or would join the character before it.
-/

set_option autoImplicit false

namespace SurveyGate.Text

/-- A code point in hexadecimal between braces. -/
def codeEscape (c : Char) : String :=
  "\\u\x7b" ++ .ofList (Nat.toDigits 16 c.toNat) ++ "\x7d"

/-- A character as it stands between quotation marks. -/
def escapeChar (c : Char) : String :=
  match c with
  | '\x00' => "\\0"
  | '\t' => "\\t"
  | '\r' => "\\r"
  | '\n' => "\\n"
  | '\\' => "\\\\"
  | '"' => "\\\""
  | c =>
    if c.toNat < 0x7F && 0x20 ≤ c.toNat then c.toString
    else if Unicode.graphemeExtend.contains c || Unicode.unprintable.contains c then codeEscape c
    else c.toString

/-- The text between quotation marks. -/
def quote (s : String) : String :=
  "\"" ++ String.join (s.toList.map escapeChar) ++ "\""

end SurveyGate.Text
