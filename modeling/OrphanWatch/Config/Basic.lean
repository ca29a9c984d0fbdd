import OrphanWatch.Backend.Config
import OrphanWatch.Cluster.Records
import OrphanWatch.Engine.Config

/-!
The configuration of the monitor.
-/

namespace OrphanWatch

/-- When to scan, and when to believe what a scan finds. All durations are in seconds. -/
structure ScanConfig where
  interval : Nat
  observations : Nat
  minAge : Nat
  /-- The time that each side has to answer; a third of the interval if it is not set. -/
  fetchTimeout? : Option Nat
  convention : String
  retention : Nat
  deriving DecidableEq, Repr

namespace ScanConfig

def standard : ScanConfig :=
  { interval := 300
    observations := 3
    minAge := 24 * 3600
    fetchTimeout? := none
    convention := Naming.convention
    retention := 30 * 24 * 3600 }

def fetchTimeout (config : ScanConfig) : Nat :=
  config.fetchTimeout?.getD (max (config.interval / 3) 1)

def engineConfig (config : ScanConfig) : EngineConfig :=
  { observations := config.observations
    minAge := config.minAge * nanosPerSecond
    fetchTimeout := config.fetchTimeout * nanosPerSecond
    retention := config.retention * nanosPerSecond }

end ScanConfig

structure MonitorConfig where
  scan : ScanConfig
  cluster : ClusterConfig
  backend : BackendConfig
  /-- The address of the interface for programs. -/
  apiAddress : Option String
  metricsAddress : Option String
  healthAddress : Option String
  deriving DecidableEq, Repr

namespace MonitorConfig

def standard : MonitorConfig :=
  ⟨.standard, .standard, .standard, none, none, none⟩

def validate (config : MonitorConfig) : Except MonitorError Unit :=
  let scan := config.scan
  if scan.observations < 1 then
    .error (.configuration "scan.min_consecutive_observations must be at least 1")
  else if scan.interval = 0 then
    .error (.configuration "scan.scan_interval_secs must be positive")
  else if scan.fetchTimeout? = some 0 then
    .error (.configuration "scan.fetch_timeout_secs must be positive")
  else if scan.interval < scan.fetchTimeout then
    .error (.configuration
      ("scan.fetch_timeout_secs (" ++ toString scan.fetchTimeout
        ++ ") exceeds scan.scan_interval_secs (" ++ toString scan.interval ++ ")"))
  else if Text.isBlankText config.backend.url then
    .error (.configuration "truenas.url is required")
  else if !config.backend.hasCredentials then
    .error (.configuration
      "truenas.api_key or truenas.username and truenas.password are required")
  else if config.cluster.drivers.isEmpty then
    .error (.configuration "kubernetes.csi_drivers must name at least one driver")
  else .ok ()

end MonitorConfig

end OrphanWatch
