import SurveyGate.Decision.Probing
import SurveyGate.Json.Decode
import SurveyGate.Json.Parser
import SurveyGate.Pattern.Basic

/-!
# `SurveyGate.Config`: configuration

A `Config` says how patiently pages are asked and how large patterns may be. `Config.parse` reads one
from JSON text; what is left out has its default.
-/

set_option autoImplicit false

namespace SurveyGate

namespace ProbePolicy

/-- Three attempts a second apart, and ten seconds for all calls together. -/
def standard : ProbePolicy := ⟨3, 1000, 10000⟩

/-- The policy that JSON holds. -/
def ofJson? (x : Json) : Option ProbePolicy := do
  let f ← x.fields? ["max_attempts", "retry_interval_ms", "overall_timeout_ms"]
  let maxAttempts ← f.orDefault "max_attempts" standard.maxAttempts Json.toUInt32?
  let retryInterval ← f.orDefault "retry_interval_ms" standard.retryInterval Json.toUInt64?
  let overallTimeout ← f.orDefault "overall_timeout_ms" standard.overallTimeout Json.toUInt64?
  return ⟨maxAttempts, retryInterval, overallTimeout⟩

end ProbePolicy

/-- The configuration of a gate. -/
structure Config where
  probing : ProbePolicy
  /-- The limit on the compiled form of a pattern in bytes. -/
  patternLimit : UInt64
  deriving DecidableEq, Repr

namespace Config

/-- The configuration when nothing is configured. -/
def standard : Config := ⟨.standard, .ofNat Pattern.defaultLimit⟩

instance : Inhabited Config := ⟨standard⟩

/-- The configuration that JSON holds. -/
def ofJson? (x : Json) : Option Config := do
  let f ← x.fields? ["dom_query", "regex_size_limit"]
  let probing ← f.orDefault "dom_query" standard.probing ProbePolicy.ofJson?
  let patternLimit ← f.orDefault "regex_size_limit" standard.patternLimit Json.toUInt64?
  return ⟨probing, patternLimit⟩

/-- Refuses a configuration without an attempt, without time or without room for patterns. -/
def validate (c : Config) : Except ValidationError Unit :=
  if c.probing.maxAttempts = 0 then .error (.outOfRange "dom_query.max_attempts" 0 1 4294967295)
  else if c.probing.overallTimeout = 0 then .error (.notPositive "dom_query.overall_timeout_ms")
  else if c.patternLimit = 0 then .error (.notPositive "regex_size_limit")
  else .ok ()

/-- The configuration that a text writes. -/
def parse (text : String) : Except ValidationError Config :=
  match (Json.parse? text).bind ofJson? with
  | none => .error .malformedConfig
  | some c => do
    c.validate
    return c

/-- The configuration in the file at a path, given the text of the file if it could be read. -/
def ofFile (path : String) : Option String → Except ValidationError Config
  | some text => parse text
  | none => .error (.unreadableConfig path)

end Config

end SurveyGate
