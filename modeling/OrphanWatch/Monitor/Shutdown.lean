import OrphanWatch.Monitor.Schedule

/-!
Shutdowns in single steps.

When a schedule is stopped, a scan may be under way. Who stops it waits for that scan: everybody who asks for a
shutdown, and the loop of the ticks when it finds that it was stopped. A caller first stops the schedule, then
asks for the right to wait, which exists only once for a scan (`Monitor.takeWait`), and waits if it is given the
right. The steps of the callers and those of the schedule come in any order.
-/

namespace OrphanWatch

inductive Caller where
  /-- It has stopped the schedule. -/
  | asking
  | waiting
  /-- It has returned after its wait. -/
  | waited
  /-- It has returned at once, without the right to wait. -/
  | passed
  deriving DecidableEq, Repr

structure Shutdown where
  schedule : Schedule
  callers : List Caller

namespace Shutdown

/-- What can happen. Callers go by their places. -/
inductive Action where
  | proceed (action : Schedule.Action)
  | call
  | ask (caller : Nat)
  | wake (caller : Nat)
  deriving DecidableEq, Repr

def ofMonitor (monitor : Monitor) : Shutdown :=
  ⟨.ofMonitor monitor, []⟩

def monitor (shutdown : Shutdown) : Monitor :=
  shutdown.schedule.monitor

def call (shutdown : Shutdown) : Shutdown :=
  ⟨shutdown.schedule.act .stop, shutdown.callers ++ [.asking]⟩

def ask (shutdown : Shutdown) (place : Nat) : Shutdown :=
  match shutdown.callers[place]? with
  | some .asking =>
    let (monitor, waits) := shutdown.monitor.takeWait
    ⟨shutdown.schedule.withMonitor monitor,
      shutdown.callers.set place (if waits then .waiting else .passed)⟩
  | _ => shutdown

def wake (shutdown : Shutdown) (place : Nat) : Shutdown :=
  match shutdown.callers[place]? with
  | some .waiting =>
    if shutdown.monitor.inFlight then shutdown
    else { shutdown with callers := shutdown.callers.set place .waited }
  | _ => shutdown

/-- What does not apply changes nothing. -/
def act (shutdown : Shutdown) : Action → Shutdown
  | .proceed action => { shutdown with schedule := shutdown.schedule.act action }
  | .call => shutdown.call
  | .ask caller => shutdown.ask caller
  | .wake caller => shutdown.wake caller

def run (shutdown : Shutdown) (actions : List Action) : Shutdown :=
  actions.foldl act shutdown

end Shutdown

end OrphanWatch
