import SurveyGate.Trigger.Draft

/-!
# `SurveyGate.Trigger.Row`: stored triggers

All kinds of triggers share one table, so a `TriggerRow` has a cell for every column of every kind.
A cell that holds the default of its column counts as empty. `TriggerRow.compile` refuses a row that
fills a column of another kind, and else checks the criterion that the columns of its own kind write.
-/

set_option autoImplicit false

namespace SurveyGate

/-- An audience as it is stored: by number or by name. -/
inductive StoredAudience where
  | code (value : Int)
  | named (audience : Audience)
  deriving DecidableEq, Repr

/-- What a column holds. -/
inductive ColumnSort where
  | text
  | count
  | percent
  | flag
  /-- A flag that is set by default. -/
  | flagSet
  | survey
  | answer
  | value
  | audience
  deriving DecidableEq, Repr

namespace ColumnSort

/-- The values of a column. -/
abbrev Content : ColumnSort → Type
  | .text => String
  | .count => UInt32
  | .percent => Int
  | .flag => Bool
  | .flagSet => Bool
  | .survey => SurveyId
  | .answer => AnswerId
  | .value => DeviceValue
  | .audience => StoredAudience

/-- Whether a value says more than the default of its column does. -/
def isFilled : (s : ColumnSort) → s.Content → Bool
  | .text, s => !Text.isBlankText s
  | .count, n => 0 < n
  | .percent, n => n != 0
  | .flag, b => b
  | .flagSet, b => !b
  | .survey, _ => true
  | .answer, _ => true
  | .value, _ => true
  | .audience, a => a != .code 0 && a != .named .all

end ColumnSort

namespace Column

/-- What a column holds. -/
@[reducible] def sort : Column → ColumnSort
  | .url => .text
  | .urlMatches => .text
  | .regexp => .text
  | .deviceDataKey => .text
  | .deviceDataMatcher => .text
  | .deviceDataValue => .value
  | .deviceDataMandatory => .flagSet
  | .geoCountry => .text
  | .geoStateOrDma => .text
  | .pseudoEvent => .text
  | .previousAnsweredSurveyId => .survey
  | .previousPossibleAnswerId => .answer
  | .mobilePageview => .text
  | .mobileRegexp => .text
  | .mobileDaysInstalled => .count
  | .mobileLaunchTimes => .count
  | .renderAfterXPercentScroll => .percent
  | .renderAfterXSeconds => .count
  | .renderAfterElementVisible => .text
  | .renderAfterElementClicked => .text
  | .textOnPageSelector => .text
  | .textOnPageValue => .text
  | .textOnPagePresence => .flag
  | .clientKeyPresence => .flag
  | .visitorType => .audience
  | .visitsCount => .count
  | .pageviewsCount => .count

/-- The values of a column. -/
abbrev Content (c : Column) : Type := c.sort.Content

end Column

/-- A stored trigger: a row of the table that all kinds share. -/
structure TriggerRow where
  id : Option TriggerId
  /-- The name of the kind as it is stored. -/
  kind : String
  excluded : Bool
  /-- The cells of the columns that belong to some kind. -/
  cell : (c : Column) → Option c.Content

namespace TriggerRow

/-- Whether the cell of a column says more than the default of the column does. -/
def fills (r : TriggerRow) (c : Column) : Bool := (r.cell c).any (c.sort.isFilled)

/-- The first column that the row fills although it belongs to other kinds. -/
def firstForeign? (r : TriggerRow) (kind : Kind) : Option Column :=
  Column.all.find? fun c => r.fills c && !kind.columns.contains c

/-- The value of a column that the kind cannot do without. -/
def required (r : TriggerRow) (kind : Kind) (c : Column) : Except ValidationError c.Content :=
  match r.cell c with
  | some x => .ok x
  | none => .error (.missingColumn kind c)

/-- The audience of a row; every visitor unless the row says otherwise. -/
def audience (r : TriggerRow) : Except ValidationError Audience :=
  match r.cell .visitorType with
  | none => .ok .all
  | some (.code n) => Audience.ofCode n
  | some (.named a) => .ok a

/-- The number of visits of a row. Only returning visitors need one. -/
def visits (r : TriggerRow) : Audience → Except ValidationError UInt32
  | .returning => r.required .visit .visitsCount
  | _ => .ok ((r.cell .visitsCount).getD (0 : UInt32))

/-- The criterion that the columns of a kind write. -/
def draft (r : TriggerRow) (kind : Kind) : Except ValidationError Draft :=
  let required := r.required kind
  match kind with
  | .urlContains => do return .urlContains (← required .url)
  | .urlEquals => do return .urlEquals (← required .urlMatches)
  | .regexMatches => do return .regexMatches (← required .regexp)
  | .deviceData => do
    let key ← required .deviceDataKey
    let matcher ← Matcher.parse (← required .deviceDataMatcher)
    return .deviceData key matcher ((r.cell .deviceDataValue).map DeviceValue.asText)
      ((r.cell .deviceDataMandatory).getD true)
  | .geo => do return .geo (← required .geoCountry) (r.cell .geoStateOrDma)
  | .pseudoEvent => do return .pseudoEvent (← required .pseudoEvent)
  | .previousAnswer => do
    let survey ← required .previousAnsweredSurveyId
    let answer ← required .previousPossibleAnswerId
    return .previousAnswer survey answer
  | .mobilePageview => do return .mobilePageview (← required .mobilePageview)
  | .mobileRegexp => do return .mobileRegexp (← required .mobileRegexp)
  | .mobileInstall => do return .mobileInstall (← required .mobileDaysInstalled)
  | .mobileLaunch => do return .mobileLaunch (← required .mobileLaunchTimes)
  | .pageScroll => do return .pageScroll (← required .renderAfterXPercentScroll)
  | .pageAfterSeconds => do return .pageAfterSeconds (← required .renderAfterXSeconds)
  | .pageIntentExit => .ok .pageIntentExit
  | .pageElementVisible => do return .pageElementVisible (← required .renderAfterElementVisible)
  | .pageElementClicked => do return .pageElementClicked (← required .renderAfterElementClicked)
  | .textOnPage => do
    let selector ← required .textOnPageSelector
    let text ← required .textOnPageValue
    return .textOnPage selector text ((r.cell .textOnPagePresence).getD true)
  | .clientKeyPresence => do return .clientKeyPresence (← required .clientKeyPresence)
  | .visit => do
    let audience ← r.audience
    return .visit audience (← r.visits audience)
  | .pageview => do return .pageview (← required .pageviewsCount)

/-- The trigger of a row. The kind is looked at first, then the columns of other kinds, and then those
of its own. -/
def compile (r : TriggerRow) (limit : Nat) : Except ValidationError Trigger :=
  match Kind.ofText? r.kind with
  | none => .error (.unknownKind r.kind)
  | some kind =>
    match r.firstForeign? kind with
    | some c => .error (.foreignColumn kind c)
    | none => do
      let criterion ← (← r.draft kind).check limit
      return ⟨r.id, criterion, r.excluded⟩

end TriggerRow

end SurveyGate
