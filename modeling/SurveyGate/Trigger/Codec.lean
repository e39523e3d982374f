import SurveyGate.Survey.Codec
import SurveyGate.Trigger.Row

/-!
# `SurveyGate.Trigger.Codec`: stored triggers as JSON

`TriggerRow.ofJson?` reads a row; every part may be left out, and the kind may be called `kind`,
`type` or `type_cd`. `TriggerRow.toJson` writes every column, null where the cell is empty.
-/

set_option autoImplicit false

namespace SurveyGate

/-- The number of a stored trigger that JSON holds. -/
def TriggerId.ofJson? (x : Json) : Option TriggerId := x.toUInt64?.map TriggerId.mk

/-- The matcher that JSON names. -/
def Matcher.ofJson? : Json → Option Matcher :=
  Json.toChoice? (Matcher.all.map fun m => (m.name, m))

/-- The audience that JSON names. -/
def Audience.ofJson? : Json → Option Audience := Json.toChoice? Audience.choices

namespace StoredAudience

/-- A stored audience as JSON. -/
def toJson : StoredAudience → Json
  | .code n => .integer n
  | .named a => .text a.name

/-- The stored audience that JSON holds: a number of 64 bits or a name. -/
def ofJson? (x : Json) : Option StoredAudience :=
  (x.toInt64?.map .code).or ((Audience.ofJson? x).map .named)

end StoredAudience

/-- A value recorded for a device as JSON. -/
def DeviceValue.toJson : DeviceValue → Json
  | .bool b => .bool b
  | .number x => .real x
  | .text s => .text s

namespace ColumnSort

/-- The value of a column that JSON holds. -/
def decode? : (s : ColumnSort) → Json → Option s.Content
  | .text => Json.toText?
  | .count => Json.toUInt32?
  | .percent => Json.toInt64?
  | .flag => Json.toBool?
  | .flagSet => Json.toBool?
  | .survey => SurveyId.ofJson?
  | .answer => AnswerId.ofJson?
  | .value => DeviceValue.ofJson?
  | .audience => StoredAudience.ofJson?

/-- A value of a column as JSON. -/
def encode : (s : ColumnSort) → s.Content → Json
  | .text, s => .text s
  | .count, n => .ofNat n.toNat
  | .percent, n => .integer n
  | .flag, b => .bool b
  | .flagSet, b => .bool b
  | .survey, id => .ofNat id.val.toNat
  | .answer, id => .ofNat id.val.toNat
  | .value, v => v.toJson
  | .audience, a => a.toJson

end ColumnSort

namespace TriggerRow

/-- The names of the parts of a row. -/
def fieldNames : List String := ["id", "kind", "excluded"] ++ Column.all.map Column.name

/-- A row as JSON. -/
def toJson (r : TriggerRow) : Json :=
  .object ([
    ("id", .ofOption (fun (id : TriggerId) => .ofNat id.val.toNat) r.id),
    ("kind", .text r.kind),
    ("excluded", .bool r.excluded)]
    ++ Column.all.map fun c => (c.name, .ofOption (c.sort.encode) (r.cell c)))

/-- The cell of a column among the fields of a row, if it decodes. -/
def decodeCell? (f : Json.Fields) (c : Column) : Option (Option c.Content) :=
  f.optional c.name c.sort.decode?

/-- The row that JSON holds. -/
def ofJson? (x : Json) : Option TriggerRow := do
  let f ← (x.renameKeys [("type", "kind"), ("type_cd", "kind")]).fields? fieldNames
  let id ← f.optional "id" TriggerId.ofJson?
  let kind ← f.orDefault "kind" "" Json.toText?
  let excluded ← f.orDefault "excluded" false Json.toBool?
  if Column.all.all fun c => (decodeCell? f c).isSome then
    some ⟨id, kind, excluded, fun c => (decodeCell? f c).join⟩
  else none

end TriggerRow

end SurveyGate
