import SurveyGate.Json.Basic

/-!
# `SurveyGate.Json.Decode`: records from JSON values

A record is an object with its fields by name, or an array with its fields by position. Unknown keys
of an object are ignored. A key given twice, and an item beyond the last field, are refused.
`Fields.required`, `Fields.optional`, `Fields.nullable` and `Fields.orDefault` read one field each;
they differ in what an absent field and null mean.
-/

set_option autoImplicit false

namespace SurveyGate.Json

/-- The given fields of a record, and whether they were given by name. -/
structure Fields where
  named : Bool
  entries : List (String × Json)

/-- Whether a key stands in more than one entry. -/
def isRepeated (entries : List (String × Json)) (key : String) : Bool :=
  1 < (entries.filter (·.1 == key)).length

/-- The fields of a record with the given field names. -/
def fields? (names : List String) : Json → Option Fields
  | .object members => if names.any (isRepeated members) then none else some ⟨true, members⟩
  | .array items => if names.length < items.length then none else some ⟨false, names.zip items⟩
  | _ => none

/-- The value with other spellings of a key replaced by the key. -/
def renameKeys (aliases : List (String × String)) : Json → Json
  | .object members => .object (members.map fun (k, x) => ((aliases.lookup k).getD k, x))
  | x => x

namespace Fields

variable {α : Type}

/-- A field that has to be there. -/
def required (f : Fields) (key : String) (decode : Json → Option α) : Option α :=
  (f.entries.lookup key).bind decode

/-- A field that may be absent or null. -/
def optional (f : Fields) (key : String) (decode : Json → Option α) : Option (Option α) :=
  match f.entries.lookup key with
  | none => some none
  | some .null => some none
  | some x => (decode x).map some

/-- A field that may be null, and absent only where fields are given by name. -/
def nullable (f : Fields) (key : String) (decode : Json → Option α) : Option (Option α) :=
  if f.named || (f.entries.lookup key).isSome then f.optional key decode else none

/-- A field that may be absent, but not null unless null decodes. -/
def orDefault (f : Fields) (key : String) (default : α) (decode : Json → Option α) : Option α :=
  match f.entries.lookup key with
  | none => some default
  | some x => decode x

end Fields

/-- A truth value. -/
def toBool? : Json → Option Bool
  | .bool b => some b
  | _ => none

/-- A text. -/
def toText? : Json → Option String
  | .text s => some s
  | _ => none

/-- An integer. -/
def toInt? : Json → Option Int
  | .integer n => some n
  | _ => none

/-- An integer of 64 bits with a sign. -/
def toInt64? (x : Json) : Option Int := do
  let n ← x.toInt?
  if -(Int.pow 2 63) ≤ n ∧ n < Int.pow 2 63 then some n else none

/-- A natural number below a bound. -/
def toNatBelow? (bound : Nat) (x : Json) : Option Nat := do
  let n ← x.toInt?
  if 0 ≤ n ∧ n.toNat < bound then some n.toNat else none

/-- A natural number of 8 bits. -/
def toUInt8? (x : Json) : Option UInt8 := (x.toNatBelow? UInt8.size).map .ofNat

/-- A natural number of 32 bits. -/
def toUInt32? (x : Json) : Option UInt32 := (x.toNatBelow? UInt32.size).map .ofNat

/-- A natural number of 64 bits. -/
def toUInt64? (x : Json) : Option UInt64 := (x.toNatBelow? UInt64.size).map .ofNat

/-- The items of an array. -/
def toItems? : Json → Option (List Json)
  | .array items => some items
  | _ => none

/-- An array whose items all decode. -/
def toList? {α : Type} (decode : Json → Option α) (x : Json) : Option (List α) :=
  x.toItems?.bind (·.mapM decode)

/-- A choice out of a list of names, written as the name or as an object whose only key is the name
with null. -/
def toChoice? {α : Type} (choices : List (String × α)) : Json → Option α
  | .text s => choices.lookup s
  | .object [(s, .null)] => choices.lookup s
  | _ => none

/-- Null or a value that decodes. -/
def toOption? {α : Type} (decode : Json → Option α) : Json → Option (Option α)
  | .null => some none
  | x => (decode x).map some

end SurveyGate.Json
