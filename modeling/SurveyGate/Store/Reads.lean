import SurveyGate.Store.Basic

/-!
# `SurveyGate.Store.Reads`: what a decision reads

`Reads` are the answers of the stores behind a decision, each of which may be an error. A `Backend` is
a store some of whose calls fail for the time being.
-/

set_option autoImplicit false

namespace SurveyGate

/-- The answers that a decision reads. -/
structure Reads where
  survey : SurveyId → Except StorageError Survey
  triggers : SurveyId → Except StorageError (List Trigger)
  submissions : SurveyId → Except StorageError UInt64
  history : DeviceId → SurveyId → Except StorageError (Option History)
  accountLog : DeviceId → AccountId → Except StorageError ImpressionLog

/-- The answers of a store in memory. -/
def Store.reads (s : Store) : Reads where
  survey := s.survey
  triggers id := .ok (s.triggersOf id)
  submissions id := .ok (s.submissionsOf id)
  history device id := .ok (s.history device id)
  accountLog device account := .ok (s.accountLog device account)

/-- The calls of a store that can fail. -/
inductive StoreCall where
  | survey
  | triggers
  | submissions
  | history
  | accountLog
  | record
  deriving DecidableEq, Repr

/-- A store with the errors of the calls that fail for the time being. -/
structure Backend where
  store : Store
  fault : StoreCall → Option StorageError

namespace Backend

/-- A store all of whose calls work. -/
def ofStore (s : Store) : Backend := ⟨s, fun _ => none⟩

/-- Makes a call fail with the given error, or work again. -/
def setFault (b : Backend) (call : StoreCall) (e : Option StorageError) : Backend :=
  { b with fault := fun c => if c = call then e else b.fault c }

/-- The answer of a call, unless the call fails. -/
def guarded {α : Type} (b : Backend) (call : StoreCall) (answer : Except StorageError α) :
    Except StorageError α :=
  match b.fault call with
  | some e => .error e
  | none => answer

/-- The answers of the store and the errors of the calls that fail. -/
def reads (b : Backend) : Reads where
  survey id := b.guarded .survey (b.store.reads.survey id)
  triggers id := b.guarded .triggers (b.store.reads.triggers id)
  submissions id := b.guarded .submissions (b.store.reads.submissions id)
  history device id := b.guarded .history (b.store.reads.history device id)
  accountLog device account := b.guarded .accountLog (b.store.reads.accountLog device account)

/-- Writes to the store, unless writing fails. -/
def write (b : Backend) (edit : Store → Store) : Backend :=
  match b.guarded .record (.ok (edit b.store)) with
  | .ok store => { b with store }
  | .error _ => b

/-- Records that a survey was shown, to the account that the survey belongs to. Nothing is recorded
when the survey cannot be read. -/
def recordImpression (b : Backend) (id : SurveyId) (device : DeviceId) (t : Instant) : Backend :=
  match b.reads.survey id with
  | .ok survey => b.write (·.recordImpression device survey.account id t)
  | .error _ => b

/-- Records that a survey was completed. -/
def recordCompletion (b : Backend) (id : SurveyId) (device : DeviceId) (t : Instant) : Backend :=
  b.write (·.recordCompletion device id t)

/-- Records that a survey was closed without an answer. -/
def recordDismissal (b : Backend) (id : SurveyId) (device : DeviceId) (t : Instant) : Backend :=
  b.write (·.recordDismissal device id t)

end Backend

end SurveyGate
