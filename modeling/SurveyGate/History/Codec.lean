import SurveyGate.History.Basic
import SurveyGate.Time.Codec

/-!
# `SurveyGate.History.Codec`: histories as JSON

`History.ofJson?` reads a history; every part may be left out.
-/

set_option autoImplicit false

namespace SurveyGate.History

/-- The history that JSON holds. -/
def ofJson? (x : Json) : Option History := do
  let f ← x.fields? ["impressions", "impression_count", "last_shown_at", "last_completed_at",
    "completion_count", "dismissed_at"]
  let impressions ← f.orDefault "impressions" [] (Json.toList? Instant.ofJson?)
  let impressionCount ← f.orDefault "impression_count" 0 Json.toUInt64?
  let lastShown ← f.nullable "last_shown_at" Instant.ofJson?
  let lastCompleted ← f.nullable "last_completed_at" Instant.ofJson?
  let completionCount ← f.orDefault "completion_count" 0 Json.toUInt32?
  let dismissed ← f.nullable "dismissed_at" Instant.ofJson?
  return ⟨impressions, impressionCount, lastShown, lastCompleted, completionCount, dismissed⟩

end SurveyGate.History
