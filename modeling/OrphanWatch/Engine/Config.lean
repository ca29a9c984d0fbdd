import OrphanWatch.Candidate
import OrphanWatch.Text.Numeral

/-!
The settings of the engine.
-/

namespace OrphanWatch

/-- All durations are in nanoseconds. -/
structure EngineConfig where
  /-- The number of scans in a row that confirm a candidate. -/
  observations : Nat
  /-- The age from which a candidate can be confirmed. -/
  minAge : Nat
  /-- The time that each side has to answer. -/
  fetchTimeout : Nat
  /-- The age below which a backend snapshot is left alone. -/
  retention : Nat
  deriving DecidableEq, Repr

namespace EngineConfig

def standard : EngineConfig :=
  ⟨3, 86400 * nanosPerSecond, 100 * nanosPerSecond, 30 * 86400 * nanosPerSecond⟩

def longestSpan : Nat := (Text.signedLimit - 1) * 1000000

def validate (config : EngineConfig) : Except MonitorError Unit :=
  if config.observations < 1 then
    .error (.configuration "min_consecutive_observations must be at least 1")
  else if config.fetchTimeout = 0 then
    .error (.configuration "fetch_timeout must be positive")
  else .ok ()

def span (setting : String) (nanos : Nat) : Except MonitorError Int :=
  if nanos ≤ longestSpan then .ok nanos
  else
    .error (.configuration
      (setting ++ " out of range: Source duration value is out of range for the target type"))

def policy (config : EngineConfig) : Except MonitorError Policy :=
  (span "min_orphan_age" config.minAge).map fun minAge => ⟨config.observations, minAge⟩

def retentionSpan (config : EngineConfig) : Except MonitorError Int :=
  span "snapshot_retention" config.retention

end EngineConfig

end OrphanWatch
