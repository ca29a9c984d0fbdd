import OrphanWatch.Engine.Basic

/-!
The monitor: the engine and the schedule of its scans.

The schedule starts at most one scan at a time. A tick that finds a scan under way is dropped and
counted; it is never made up for.
-/

namespace OrphanWatch

structure Monitor where
  engine : Engine
  /-- The time between two ticks, in milliseconds. -/
  interval : Nat
  /-- Whether the schedule was stopped. -/
  stopped : Bool
  /-- Whether a scan that the schedule started is under way. -/
  inFlight : Bool
  /-- The number of ticks that were dropped. -/
  overruns : Nat
  /-- Whether the last scan that was started can be waited for. The first who waits for it takes this
  away from all others. -/
  awaitable : Bool
  deriving DecidableEq, Repr

inductive Tick where
  | started (cycle : Nat)
  | dropped (overrun : ScanOverrun)
  /-- The schedule was stopped before. -/
  | ignored
  deriving DecidableEq, Repr

namespace Monitor

def create (engine : Engine) (interval : Nat) : Except MonitorError Monitor :=
  if interval = 0 then .error (.configuration "scan interval must be positive")
  else .ok ⟨engine, interval, false, false, 0, false⟩

def mapEngine (monitor : Monitor) (change : Engine → Engine) : Monitor :=
  { monitor with engine := change monitor.engine }

/-- Starts a scan, unless the schedule was stopped or a scan is under way. The number is the one that
the scan is expected to have. -/
def trigger (monitor : Monitor) : Except MonitorError (Monitor × Nat) :=
  if monitor.stopped then .error .cancelled
  else if monitor.inFlight then .error .scanInProgress
  else
    .ok ({ monitor with inFlight := true, awaitable := true }, monitor.engine.attempts + 1)

def recordOverrun (monitor : Monitor) (now : Instant) : Monitor × ScanOverrun :=
  let total := monitor.overruns + 1
  let overrun : ScanOverrun := ⟨now, monitor.engine.attempts, total⟩
  ({ monitor with
      overruns := total
      engine := monitor.engine.deliver (.overrun overrun) }, overrun)

def tick (monitor : Monitor) (now : Instant) : Monitor × Tick :=
  match monitor.trigger with
  | .ok (monitor, cycle) => (monitor, .started cycle)
  | .error .scanInProgress =>
    let (monitor, overrun) := monitor.recordOverrun now
    (monitor, .dropped overrun)
  | .error _ => (monitor, .ignored)

def land (monitor : Monitor) : Monitor :=
  { monitor with inFlight := false }

def stop (monitor : Monitor) : Monitor :=
  { monitor with stopped := true }

/-- Takes the right to wait for the last scan. The answer says whether there is a scan to wait for. -/
def takeWait (monitor : Monitor) : Monitor × Bool :=
  ({ monitor with awaitable := false }, monitor.awaitable && monitor.inFlight)

end Monitor

end OrphanWatch
