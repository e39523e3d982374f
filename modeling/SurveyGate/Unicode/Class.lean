import SurveyGate.Unicode.Age
import SurveyGate.Unicode.Boundary
import SurveyGate.Unicode.Casing
import SurveyGate.Unicode.Category
import SurveyGate.Unicode.ClusterProperty
import SurveyGate.Unicode.IdentifierProperty
import SurveyGate.Unicode.LetterProperty
import SurveyGate.Unicode.OtherProperty
import SurveyGate.Unicode.Script

/-!
# `SurveyGate.Unicode.Class`: character classes by name

`named?` finds the class that a property, a general category or a script names on its own, in this
order, and `valued?` the class that a value of a given property names. Both compare names loosely.
The classes that text handling itself needs follow: digits, white space, word characters, letters
and printable characters.
-/

set_option autoImplicit false

namespace SurveyGate.Unicode

/-- A name in loose form: ASCII only, lower case, without spaces, hyphens, underscores and a
leading `is`. The name `isc` keeps its `is`, since `c` names something else. -/
def looseName (name : String) : String :=
  let squeeze (cs : List Char) :=
    ((cs.filter fun c => c.toNat < 128 && !(c == ' ' || c == '_' || c == '-')).map Char.toLower)
  match name.toList with
  | a :: b :: rest =>
    if a.toLower == 'i' && b.toLower == 's' then
      let short := squeeze rest
      if short == ['c'] then "isc" else .ofList short
    else .ofList (squeeze (a :: b :: rest))
  | cs => .ofList (squeeze cs)

/-- Every code point. -/
def anyCharacter : CharSet := ⟨[(0, maxCode)]⟩

/-- The general category with the given loose name, `any`, `assigned` and `ascii` among them. -/
def category? (name : String) : Option CharSet :=
  if name == "any" then some anyCharacter
  else if name == "ascii" then some ⟨[(0, 127)]⟩
  else if name == "assigned" then (lookup? categories "cn").map CharSet.complement
  else match categoryGroups.find? (·.1.contains name) with
    | some (_, parts) => some (lookupAll categories parts)
    | none => lookup? categories name

/-- The yes-or-no property with the given loose name. -/
def property? (name : String) : Option CharSet :=
  lookup? (letterProperties ++ identifierProperties ++ clusterProperties ++ otherProperties) name

/-- The characters used with the script of the given loose name. -/
def scriptExtension? (name : String) : Option CharSet :=
  lookup? (scriptExtensions ++ scripts) name

/-- The characters that had been assigned by the version with the given loose name. -/
def age? (name : String) : Option CharSet :=
  if ages.any (·.names.contains name) then
    let earlier := ages.takeWhile fun p => !p.names.contains name
    some (lookupAll ages ((earlier.filterMap (·.names.head?)) ++ [name]))
  else none

/-- The class that a name denotes on its own. The names `cf`, `sc` and `lc` are categories, although
properties that are not yes-or-no share them. -/
def named? (name : String) : Option CharSet :=
  let key := looseName name
  let property := if ["cf", "sc", "lc"].contains key then none else property? key
  (property.or (category? key)).or (lookup? scripts key)

/-- The class of the characters whose property `name` has the given value. -/
def valued? (name value : String) : Option CharSet :=
  let value := looseName value
  match looseName name with
  | "gc" | "generalcategory" => category? value
  | "sc" | "script" => lookup? scripts value
  | "scx" | "scriptextensions" => scriptExtension? value
  | "age" => age? value
  | "gcb" | "graphemeclusterbreak" => lookup? clusterBreaks value
  | "wb" | "wordbreak" => lookup? wordBreaks value
  | "sb" | "sentencebreak" => lookup? sentenceBreaks value
  | _ => none

/-- Decimal digits of any script. -/
def decimalDigits : CharSet := (category? "nd").getD .empty

/-- White space. -/
def whiteSpace : CharSet := (property? "whitespace").getD .empty

/-- Letters. -/
def alphabetic : CharSet := (property? "alphabetic").getD .empty

/-- Numbers of any kind. -/
def numeric : CharSet := (category? "n").getD .empty

/-- Characters of words: letters, marks, decimal digits, connectors and joiners. -/
def wordCharacters : CharSet :=
  (((alphabetic.union ((category? "m").getD .empty)).union decimalDigits).union
    ((category? "pc").getD .empty)).union ((property? "joincontrol").getD .empty)

/-- Characters that extend the one before them. -/
def graphemeExtend : CharSet := (property? "graphemeextend").getD .empty

/-- Characters without a visible form of their own: controls, format characters, code points for
private use or without a character, and every separator but the ASCII space. -/
def unprintable : CharSet :=
  (lookupAll categories ["cc", "cf", "co", "cn", "zl", "zp", "zs"]).difference (.singleton ' ')

end SurveyGate.Unicode
