import SurveyGate.Time.Interval

/-!
# `SurveyGate.Survey.Cap`: limits on impressions

A frequency cap allows a device a number of impressions, either ever or within a sliding window. It
counts the impressions of one survey or those of all surveys of its account. `FrequencyCap.checked`
accepts the caps that can be met.
-/

set_option autoImplicit false

namespace SurveyGate

/-- The impressions that a cap counts. -/
inductive CapScope where
  | perSurvey
  | perAccount
  deriving DecidableEq, Repr, Inhabited

/-- A limit on impressions. Without a window every impression ever counts. -/
structure FrequencyCap where
  enabled : Bool
  limit : UInt32
  window : Option Interval
  scope : CapScope
  deriving DecidableEq, Repr

namespace FrequencyCap

/-- The cap that never limits. -/
def disabled : FrequencyCap := ⟨false, 0, none, .perSurvey⟩

instance : Inhabited FrequencyCap := ⟨disabled⟩

/-- Refuses a limit of zero. -/
def validateLimit (limit : UInt32) : Except ValidationError Unit :=
  if limit = 0 then .error (.outOfRange "frequency_cap.limit" 0 1 4294967295) else .ok ()

/-- Refuses a window that is empty or too long. -/
def validateWindow : Option Interval → Except ValidationError Unit
  | some window => window.validate
  | none => .ok ()

/-- The enabled cap with the given limit, window and scope, if its window and then its limit are
accepted. -/
def checked (limit : UInt32) (window : Option Interval) (scope : CapScope) :
    Except ValidationError FrequencyCap := do
  validateWindow window
  validateLimit limit
  return ⟨true, limit, window, scope⟩

end FrequencyCap

end SurveyGate
