/-!
# `SurveyGate.Survey.Device`: classes of devices

A survey is enabled for some classes of devices.
-/

set_option autoImplicit false

namespace SurveyGate

/-- The classes of devices. -/
inductive DeviceType where
  | desktop
  | mobile
  | tablet
  | nativeMobile
  deriving DecidableEq, Repr, Inhabited

/-- The classes of devices that a survey is enabled for. -/
structure DeviceTargeting where
  desktop : Bool
  mobile : Bool
  tablet : Bool
  nativeMobile : Bool
  deriving DecidableEq, Repr

namespace DeviceType

/-- The name of a class. -/
def name : DeviceType → String
  | .desktop => "desktop"
  | .mobile => "mobile"
  | .tablet => "tablet"
  | .nativeMobile => "native_mobile"

/-- Every class. -/
def all : List DeviceType := [.desktop, .mobile, .tablet, .nativeMobile]

end DeviceType

namespace DeviceTargeting

/-- Every class of devices. -/
def all : DeviceTargeting := ⟨true, true, true, true⟩

instance : Inhabited DeviceTargeting := ⟨all⟩

/-- Whether a class of devices is among those enabled. -/
def allows (t : DeviceTargeting) : DeviceType → Bool
  | .desktop => t.desktop
  | .mobile => t.mobile
  | .tablet => t.tablet
  | .nativeMobile => t.nativeMobile

/-- Every class of devices is enabled. -/
theorem all_allows (d : DeviceType) : all.allows d = true := by cases d <;> rfl

end DeviceTargeting

end SurveyGate
