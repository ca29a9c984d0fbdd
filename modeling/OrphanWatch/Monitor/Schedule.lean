import OrphanWatch.Monitor

/-!
The schedule in single steps.

A scan that the schedule starts is a job of its own: it begins some time after it was started, and ends when
both sides are fetched or it is cancelled. Ticks, triggers and the end of the schedule come at any time, also
between the steps of a job. `Schedule.run` lets a list of steps take place, in any order that the list has.

How fine the steps are is an assumption. A tick raises the flag, reads the counter of the engine and notes an
overrun in one step, and a job ends, commits and lowers the flag in one step. On a runtime with several threads
something else could come between the parts of such a step; here nothing does.
-/

namespace OrphanWatch

structure Job where
  /-- The number that was given out when it was started. -/
  number : Nat
  /-- Its attempt; none before it begins. -/
  attempt : Option Attempt
  deriving DecidableEq, Repr

namespace Schedule

/-- What can happen to a schedule. Jobs go by their places. -/
inductive Action where
  | tick (now : Instant)
  | trigger
  | begin (job : Nat) (now : Instant)
  /-- A job ends with what came of its fetches. `cancelled` says whether it was cancelled after them. -/
  | finish (job : Nat) (cluster backend : Fetch) (cancelled : Bool) (elapsed : Nat)
  | stop
  deriving DecidableEq, Repr

inductive Event where
  | ticked (tick : Tick)
  | answered (answer : Except MonitorError Nat)
  /-- The job with a number made an attempt. -/
  | began (number : Nat) (attempt : Attempt)
  | finished (number : Nat) (result : Except MonitorError CycleReport)
  | stopped

end Schedule

/-- The monitor, and the jobs that its schedule started and that are not over. -/
structure Schedule where
  monitor : Monitor
  jobs : List Job
  history : List Schedule.Event

namespace Schedule

def ofMonitor (monitor : Monitor) : Schedule :=
  ⟨monitor, [], []⟩

def log (schedule : Schedule) (event : Event) : Schedule :=
  { schedule with history := schedule.history ++ [event] }

def spawn (schedule : Schedule) (number : Nat) : Schedule :=
  { schedule with jobs := schedule.jobs ++ [⟨number, none⟩] }

def withMonitor (schedule : Schedule) (monitor : Monitor) : Schedule :=
  { schedule with monitor }

def tick (schedule : Schedule) (now : Instant) : Schedule :=
  let (monitor, tick) := schedule.monitor.tick now
  let next := (schedule.withMonitor monitor).log (.ticked tick)
  match tick with
  | .started number => next.spawn number
  | .dropped _ | .ignored => next

def trigger (schedule : Schedule) : Schedule :=
  match schedule.monitor.trigger with
  | .ok (monitor, number) =>
    ((schedule.withMonitor monitor).log (.answered (.ok number))).spawn number
  | .error error => schedule.log (.answered (.error error))

def begin (schedule : Schedule) (place : Nat) (now : Instant) : Schedule :=
  match schedule.jobs[place]? with
  | some ⟨number, none⟩ =>
    let (engine, attempt) := schedule.monitor.engine.begin now
    { schedule with
      monitor := schedule.monitor.mapEngine fun _ => engine
      jobs := schedule.jobs.set place ⟨number, some attempt⟩ }.log (.began number attempt)
  | _ => schedule

def finish (schedule : Schedule) (place : Nat) (cluster backend : Fetch) (cancelled : Bool)
    (elapsed : Nat) : Schedule :=
  match schedule.jobs[place]? with
  | some ⟨number, some attempt⟩ =>
    let (engine, result) := schedule.monitor.engine.conclude attempt cluster backend cancelled elapsed
    { schedule with
      monitor := (schedule.monitor.mapEngine fun _ => engine).land
      jobs := schedule.jobs.eraseIdx place }.log (.finished number result)
  | _ => schedule

/-- What does not apply changes nothing. -/
def act (schedule : Schedule) : Action → Schedule
  | .tick now => schedule.tick now
  | .trigger => schedule.trigger
  | .begin job now => schedule.begin job now
  | .finish job cluster backend cancelled elapsed =>
    schedule.finish job cluster backend cancelled elapsed
  | .stop => (schedule.withMonitor schedule.monitor.stop).log .stopped

def run (schedule : Schedule) (actions : List Action) : Schedule :=
  actions.foldl act schedule

end Schedule

end OrphanWatch
