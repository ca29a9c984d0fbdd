import OrphanWatch.Flight.Basic

/-!
Scans over time.

The clock stands still while anything can go on, and then moves to the next timer. Work that was started
waits for its turn until the caller waits, too: it begins when the clock is about to move. Among the
tasks that are due at one time, those that have been waiting since an earlier time go first, and those
that have not begun yet go last.
-/

namespace OrphanWatch

inductive Task where
  /-- The ticks of the schedule; without a timer before the first tick. -/
  | ticker (timer : Option Timer)
  /-- A scan that the schedule started; without a flight before it begins. -/
  | scan (flight : Option Flight)
  deriving DecidableEq, Repr

namespace Task

def timers : Task → List Timer
  | ticker timer => timer.toList
  | scan flight => flight.elim [] Flight.timers

def hasBegun : Task → Bool
  | ticker timer => timer.isSome
  | scan flight => flight.isSome

def dueSince? (clock : Nat) (task : Task) : Option Nat :=
  ((task.timers.filter fun timer => timer.due ≤ clock).map (·.since)).min?

end Task

structure Timeline where
  scene : Scene
  tasks : List Task
  /-- The moment of the calendar that the scans of the schedule are given. -/
  today : Instant
  deriving DecidableEq, Repr

namespace Timeline

/-- A timeline at time zero. The first source has to be of the cluster, the second of the backend. -/
def create (config : EngineConfig) (interval : Nat) (cluster backend : ScriptedSource)
    (today : Instant) : Except MonitorError Timeline := do
  let engine ← Engine.create config (cluster.side, cluster.name) (backend.side, backend.name)
  let monitor ← Monitor.create engine interval
  .ok ⟨⟨0, monitor, cluster, backend, false⟩, [], today⟩

def clock (timeline : Timeline) : Nat :=
  timeline.scene.clock

def monitor (timeline : Timeline) : Monitor :=
  timeline.scene.monitor

def engine (timeline : Timeline) : Engine :=
  timeline.scene.engine

def atClock (timeline : Timeline) (clock : Nat) : Timeline :=
  { timeline with scene := { timeline.scene with clock } }

theorem clock_atClock (timeline : Timeline) (clock : Nat) :
    (timeline.atClock clock).clock = clock := rfl

def withMonitor (timeline : Timeline) (monitor : Monitor) : Timeline :=
  { timeline with scene := { timeline.scene with monitor } }

def mapSource (timeline : Timeline) (side : Side) (change : ScriptedSource → ScriptedSource) :
    Timeline :=
  { timeline with scene := timeline.scene.mapSource side change }

def spawn (timeline : Timeline) (task : Task) : Timeline :=
  { timeline with tasks := timeline.tasks ++ [task] }

def trigger (timeline : Timeline) : Except MonitorError (Timeline × Nat) :=
  timeline.monitor.trigger.map fun (monitor, cycle) =>
    ((timeline.withMonitor monitor).spawn (.scan none), cycle)

/-- A tick of the schedule, and the wait for the next one. A stopped schedule ticks no more. -/
def runTicker (timeline : Timeline) : Timeline :=
  if timeline.monitor.stopped then timeline.withMonitor timeline.monitor.takeWait.1
  else
    let (monitor, tick) := timeline.monitor.tick timeline.today
    let next := (timeline.withMonitor monitor).spawn
      (.ticker (some (timeline.scene.timer monitor.interval)))
    match tick with
    | .started _ => next.spawn (.scan none)
    | .dropped _ | .ignored => next

def runScan (timeline : Timeline) (flight : Option Flight) : Timeline :=
  let (scene, flight) :=
    match flight with
    | some flight => (timeline.scene, flight)
    | none => Flight.launch timeline.scene .schedule timeline.today
  match flight.poll scene with
  | (scene, .flying flight) => { timeline with scene }.spawn (.scan (some flight))
  | (scene, .landed _) => { timeline with scene }.withMonitor scene.monitor.land

def runTask (timeline : Timeline) : Task → Timeline
  | .ticker _ => timeline.runTicker
  | .scan flight => timeline.runScan flight

/-- Since when a task has been waiting, if it can go on. Stopping the schedule wakes every task. -/
def wokenSince? (timeline : Timeline) (task : Task) : Option Nat :=
  match task.dueSince? timeline.clock with
  | some since => some since
  | none => if timeline.monitor.stopped && task.hasBegun then some timeline.clock else none

def ready (timeline : Timeline) : List Task × List Task :=
  let woken := timeline.tasks.filterMap fun task =>
    (timeline.wokenSince? task).map fun since => (since, task)
  let ordered := (woken.mergeSort fun a b => a.1 ≤ b.1).map (·.2)
  let fresh := timeline.tasks.filter fun task => !task.hasBegun
  let asleep := timeline.tasks.filter fun task =>
    task.hasBegun && (timeline.wokenSince? task).isNone
  (ordered ++ fresh, asleep)

def runReady (timeline : Timeline) : Timeline :=
  let (ready, asleep) := timeline.ready
  ready.foldl runTask { timeline with tasks := asleep }

/-- Lets the tasks go on as far as they can at this time; first those there are, then the scans that
they started. -/
def settle (timeline : Timeline) : Timeline :=
  timeline.runReady.runReady

def nextDue? (timeline : Timeline) : Option Nat :=
  ((timeline.tasks.flatMap Task.timers).map (·.due)).min?

/-- Waits until the given time. What is due at that very time is left for the next wait. -/
def waitUntil (timeline : Timeline) (target : Nat) : Timeline :=
  let settled := timeline.settle
  let due := settled.nextDue?.getD target
  if timeline.clock < due ∧ due < target then (settled.atClock due).waitUntil target
  else settled.atClock target
termination_by target - timeline.clock
decreasing_by
  rename_i h
  rw [clock_atClock]
  exact Nat.sub_lt_sub_left (Nat.lt_trans h.1 h.2) h.1

/-- Waits for some milliseconds. Who does not wait at all leaves nobody a turn. -/
def advance (timeline : Timeline) (millis : Nat) : Timeline :=
  if millis = 0 then timeline else timeline.waitUntil (timeline.scene.timer millis).due

def finish (timeline : Timeline) (flight : Flight) : Timeline × Except MonitorError CycleReport :=
  match flight.poll timeline.scene with
  | (scene, .landed result) => ({ timeline with scene }, result)
  | (scene, .flying _) => ({ timeline with scene }, .error .cancelled)

/-- Waits for a scan that was asked for directly. It is over at its deadline at the latest. One that is
cancelled while it goes on ends when the other tasks had their turn. -/
def follow (timeline : Timeline) (flight : Flight) (deadline : Nat) :
    Timeline × Except MonitorError CycleReport :=
  match flight.poll timeline.scene with
  | (scene, .landed result) => ({ timeline with scene }, result)
  | (scene, .flying flight) =>
    let settled := { timeline with scene }.settle
    let own := (flight.timers.map (·.due)).foldl min deadline
    let due := settled.nextDue?.elim own (min own)
    if flight.isCancelled settled.scene then settled.finish flight
    else if timeline.clock < due ∧ due ≤ deadline then
      (settled.atClock due).follow flight deadline
    else (settled, .error .cancelled)
termination_by deadline - timeline.clock
decreasing_by
  rename_i h
  rw [clock_atClock]
  exact Nat.sub_lt_sub_left (Nat.lt_of_lt_of_le h.1 h.2) h.1

/-- Runs a scan and waits for it. `cancelAfter` is the time after which it is cancelled. -/
def runScanAt (timeline : Timeline) (now : Instant) (cancelAfter : Option Nat) :
    Timeline × Except MonitorError CycleReport :=
  let (scene, flight) :=
    Flight.launch { timeline.scene with signalled := false }
      (.direct (cancelAfter.map fun millis => (timeline.scene.timer millis).due)) now
  { timeline with scene }.follow flight flight.deadline

def shutdown (timeline : Timeline) : Timeline :=
  let (monitor, waits) := timeline.monitor.stop.takeWait
  let stopped := timeline.withMonitor monitor
  if waits then stopped.settle else stopped

def health (timeline : Timeline) : SortedMap String Bool :=
  .ofList
    [(timeline.scene.cluster.name, timeline.scene.cluster.isHealthy),
      (timeline.scene.backend.name, timeline.scene.backend.isHealthy)]

end Timeline

end OrphanWatch
