/-!
# `SurveyGate.Ids`: identifiers

Surveys, accounts, answers and stored triggers are numbered with 64 bits. A device is identified by
a text that its tag chose.
-/

set_option autoImplicit false

namespace SurveyGate

/-- The number of a survey. -/
structure SurveyId where
  val : UInt64
  deriving DecidableEq, Repr, Inhabited

/-- The number of an account, the owner of surveys. -/
structure AccountId where
  val : UInt64
  deriving DecidableEq, Repr, Inhabited

/-- The number of an answer that can be chosen. -/
structure AnswerId where
  val : UInt64
  deriving DecidableEq, Repr, Inhabited

/-- The number of a stored trigger. -/
structure TriggerId where
  val : UInt64
  deriving DecidableEq, Repr, Inhabited

/-- The identifier of a visitor's device. -/
structure DeviceId where
  val : String
  deriving DecidableEq, Repr, Inhabited

/-- The number of a survey in decimal. -/
def SurveyId.text (id : SurveyId) : String := toString id.val

/-- The number of an answer in decimal. -/
def AnswerId.text (id : AnswerId) : String := toString id.val

end SurveyGate
