import SurveyGate.Text.Blank
import SurveyGate.Text.Digits
import SurveyGate.Time.Calendar
import SurveyGate.Time.Instant

/-!
# `SurveyGate.Time.Rfc3339`: instants as text

`Instant.rfc3339` writes an instant in universal time with the fewest of 0, 3, 6 or 9 digits after
the point that are exact, and `Instant.text` writes it for a message. `Instant.parse?` reads the RFC
3339 form with any offset. It also takes a blank or a small letter between date and time, blanks
between the parts, numbers without leading zeros, and `UTC` for the offset.
-/

set_option autoImplicit false

namespace SurveyGate

open SurveyGate.Text

/-- A year: four digits, with a sign when that is not enough. -/
def yearText (year : Int) : List Char :=
  if 0 ≤ year ∧ year ≤ 9999 then padded 4 year.toNat
  else if 0 ≤ year then '+' :: padded 4 year.toNat
  else '-' :: padded 4 (-year).toNat

/-- A date as year, month and day. -/
def Date.text (d : Date) : List Char :=
  yearText d.year ++ '-' :: padded 2 d.month ++ '-' :: padded 2 d.day

/-- The digits after the point, with the point, as few as are exact. -/
def fractionText (nano : Nat) : List Char :=
  if nano = 0 then []
  else if nano % 1000000 = 0 then '.' :: padded 3 (nano / 1000000)
  else if nano % 1000 = 0 then '.' :: padded 6 (nano / 1000)
  else '.' :: padded 9 nano

namespace Instant

/-- The date of an instant. -/
def date (t : Instant) : Date := .ofDays (t.second / 86400)

/-- The time of day. A leap second is counted after the second it is read in. -/
def clockText (t : Instant) : List Char :=
  let second := (t.second % 86400).toNat
  let leap := if t.isLeap then 1 else 0
  padded 2 (second / 3600) ++ ':' :: padded 2 (second / 60 % 60)
    ++ ':' :: padded 2 (second % 60 + leap) ++ fractionText (t.nano - leap * nanosPerSecond)

/-- The RFC 3339 form, with the given spelling of the offset of universal time. -/
def rfc3339With (zone : String) (t : Instant) : String :=
  .ofList (t.date.text ++ 'T' :: t.clockText ++ zone.toList)

/-- The RFC 3339 form that ends in `Z`. -/
def rfc3339 (t : Instant) : String := t.rfc3339With "Z"

/-- The form used in messages. -/
def text (t : Instant) : String :=
  .ofList (t.date.text ++ ' ' :: t.clockText ++ " UTC".toList)

/-- A number of one digit up to `width` digits, and the rest. -/
def number? (width : Nat) (cs : List Char) : Option (Nat × List Char) :=
  let digits := (cs.take width).takeWhile isDigit
  if digits.isEmpty then none else some (ofDigits digits, cs.drop digits.length)

/-- The rest after a character that may have blanks in front of it. -/
def literal? (c : Char) (cs : List Char) : Option (List Char) :=
  match trimLeft cs with
  | x :: rest => if x == c then some rest else none
  | [] => none

/-- A year: up to four digits, or a sign and any number of digits. -/
def year? (cs : List Char) : Option (Int × List Char) :=
  match cs with
  | '-' :: r => (number? r.length r).map fun (n, rest) => (-(n : Int), rest)
  | '+' :: r => (number? r.length r).map fun (n, rest) => (n, rest)
  | _ => (number? 4 cs).map fun (n, rest) => (n, rest)

/-- A date the calendar has, in a year of the clock, and the rest. -/
def date? (cs : List Char) : Option (Date × List Char) := do
  let (year, cs) ← year? (trimLeft cs)
  let (month, cs) ← number? 2 (trimLeft (← literal? '-' cs))
  let (day, cs) ← number? 2 (trimLeft (← literal? '-' cs))
  let date : Date := ⟨year, month, day⟩
  if date.isValid && -262143 ≤ year && year ≤ 262142 then some (date, cs) else none

/-- The nanoseconds after a point, if there is one, and the rest. Digits past the ninth are
dropped. -/
def fraction? (cs : List Char) : Option (Nat × List Char) :=
  match cs with
  | '.' :: r =>
    let (digits, rest) := spanDigits r
    let kept := digits.take 9
    if digits.isEmpty then none
    else some (ofDigits kept * Nat.pow 10 (9 - kept.length), rest)
  | _ => some (0, cs)

/-- The second of the day, the nanoseconds, and the rest. Second 60 is the leap second after second
59. -/
def clock? (cs : List Char) : Option (Nat × Nat × List Char) := do
  let (hour, cs) ← number? 2 (trimLeft cs)
  let (minute, cs) ← number? 2 (trimLeft (← literal? ':' cs))
  let (second, cs) ← number? 2 (trimLeft (← literal? ':' cs))
  let (nano, cs) ← fraction? cs
  if 23 < hour || 59 < minute || 60 < second then none
  else if second = 60 then some (hour * 3600 + minute * 60 + 59, nanosPerSecond + nano, cs)
  else some (hour * 3600 + minute * 60 + second, nano, cs)

/-- Hours and minutes of an offset in seconds, and the rest. Colons and blanks may stand between
them. -/
def offsetClock? (cs : List Char) : Option (Nat × List Char) :=
  match cs with
  | h :: h' :: r =>
    match r.dropWhile fun c => c == ':' || isBlank c with
    | m :: m' :: rest =>
      if [h, h', m, m'].all isDigit && m ≤ '5' then
        some (ofDigits [h, h'] * 3600 + ofDigits [m, m'] * 60, rest)
      else none
    | _ => none
  | _ => none

/-- An offset of less than a day from universal time in seconds, and the rest. The letters `Z` and
`UTC` in any case stand for no offset. -/
def offset? (cs : List Char) : Option (Int × List Char) :=
  match cs with
  | [] => none
  | c :: r =>
    if c == 'Z' || c == 'z' then some (0, r)
    else if (cs.take 3).map Char.toLower == ['u', 't', 'c'] then some (0, cs.drop 3)
    else if c == '+' || c == '-' || c == '−' then
      (offsetClock? r).bind fun (seconds, rest) =>
        if seconds < 86400 then some (if c == '+' then (seconds : Int) else -seconds, rest) else none
    else none

/-- The instant that a whole text writes. -/
def parse? (s : String) : Option Instant := do
  let (date, cs) ← date? s.toList
  let cs ← match cs with
    | c :: r => if c == 'T' || c == 't' || c == ' ' then some r else none
    | [] => none
  let (second, nano, cs) ← clock? cs
  let (offset, cs) ← offset? (trimLeft cs)
  if (trimLeft cs).isEmpty then ofReading? (date.toDays * 86400 + second - offset) nano else none

end Instant

end SurveyGate
