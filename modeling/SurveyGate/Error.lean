import SurveyGate.Ids
import SurveyGate.Time.Rfc3339
import SurveyGate.Trigger.Kind

/-!
# `SurveyGate.Error`: what can go wrong

`ValidationError` lists the reasons why a trigger, a survey or a configuration is refused,
`StorageError` those for which a store does not answer, and `ExecutionError` those for which a call
during a run fails. `GateError` is either of the last kinds of failure of a whole operation. Each has
one `message`.
-/

set_option autoImplicit false

namespace SurveyGate

/-- Why a trigger, a survey or a configuration is refused. -/
inductive ValidationError where
  | unknownKind (text : String)
  | missingColumn (kind : Kind) (column : Column)
  | foreignColumn (kind : Kind) (column : Column)
  | notNumeric (value : String)
  | missingRefireInterval
  | emptyPattern
  | invalidPattern (source : String)
  | outOfRange (field : String) (value min max : Int)
  | invertedSchedule (startsAt endsAt : Instant)
  | unknownMatcher (text : String)
  | malformedConfig
  | unreadableConfig (path : String)
  | notPositive (field : String)
  deriving DecidableEq, Repr

/-- Why a store does not answer. -/
inductive StorageError where
  | surveyNotFound (id : SurveyId)
  | backend (text : String)
  | poisonedLock (place : String)
  deriving DecidableEq, Repr

/-- Why a call during a run fails. -/
inductive ExecutionError where
  | storage (text : String)
  | page (text : String)
  | timeout (milliseconds : Nat)
  | cancelled
  deriving DecidableEq, Repr

/-- Why an operation as a whole fails. -/
inductive GateError where
  | validation (cause : ValidationError)
  | execution (cause : ExecutionError)
  deriving DecidableEq, Repr

/-- What an operator is told about a refusal. -/
def ValidationError.message : ValidationError → String
  | .unknownKind text => s!"Unknown trigger kind '{text}'"
  | .missingColumn kind column =>
    s!"Trigger kind '{kind.name}' requires field '{column.name}'"
  | .foreignColumn kind column =>
    s!"Trigger kind '{kind.name}' must not set field '{column.name}'"
  | .notNumeric value =>
    s!"Trigger kind 'device_data' field 'device_data_value' must be numeric, got '{value}'"
  | .missingRefireInterval => "Trigger kind 'survey' requires field 'refire_interval'"
  | .emptyPattern => "Invalid regular expression '': pattern is empty"
  | .invalidPattern source => s!"Invalid regular expression '{source}'"
  | .outOfRange field value min max =>
    s!"Field '{field}' value {value} is out of range [{min}, {max}]"
  | .invertedSchedule startsAt endsAt =>
    s!"Invalid schedule: starts_at ({startsAt.text}) must be before ends_at ({endsAt.text})"
  | .unknownMatcher text => s!"Invalid engine configuration: unknown device data matcher '{text}'"
  | .malformedConfig => "Invalid engine configuration: malformed configuration"
  | .unreadableConfig path => s!"Invalid engine configuration: cannot read {path}"
  | .notPositive field => s!"Invalid engine configuration: {field} must be positive"

/-- What an operator is told about a store that does not answer. -/
def StorageError.message : StorageError → String
  | .surveyNotFound id => s!"Survey not found: {id.text}"
  | .backend text => s!"Storage backend error: {text}"
  | .poisonedLock place => s!"Poisoned lock: {place}"

/-- What an operator is told about a call that fails. -/
def ExecutionError.message : ExecutionError → String
  | .storage text => s!"Storage error: {text}"
  | .page text => s!"DOM query failed: {text}"
  | .timeout milliseconds => s!"Operation timed out after {milliseconds}ms"
  | .cancelled => "Operation cancelled by caller"

/-- A store that does not answer makes the call fail. -/
def StorageError.toExecutionError (e : StorageError) : ExecutionError := .storage e.message

namespace GateError

/-- What an operator is told about an operation that fails. -/
def message : GateError → String
  | .validation cause => s!"Validation error: {cause.message}"
  | .execution cause => s!"Execution error: {cause.message}"

/-- Whether the operation was refused. -/
def isValidation : GateError → Bool
  | .validation _ => true
  | .execution _ => false

/-- Whether the operation failed while it ran. -/
def isExecution : GateError → Bool
  | .validation _ => false
  | .execution _ => true

/-- Whether the same operation may succeed another time. -/
def isRetryable : GateError → Bool
  | .validation _ => false
  | .execution .cancelled => false
  | .execution _ => true

end GateError

end SurveyGate
