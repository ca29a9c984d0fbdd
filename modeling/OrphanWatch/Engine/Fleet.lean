import OrphanWatch.Engine.Basic

/-!
Several engines over one store.

The attempts of the engines go on side by side, each of them in single steps: it reads the findings, is
given what was fetched, makes its proposal, offers it to the store, writes down its report, and publishes
it. Between two steps of an attempt anything can happen: steps of other attempts, commits of other writers,
and reads. `Fleet.run` lets a list of steps take place, in any order that the list has.
-/

namespace OrphanWatch

inductive Stage where
  | fetching
  | fetched (cluster backend : Fetch)
  /-- The proposal is made from the two inventories, and not offered yet. -/
  | proposed (cluster backend : Inventory) (proposal : Proposal)
  /-- The store refused the proposal, and the report does not say so yet. -/
  | refused (proposal : Proposal) (error : MonitorError)
  /-- The report is written, and not published yet. -/
  | reported (report : CycleReport)
  | ended (result : Except MonitorError CycleReport)

namespace Engine

def withStore (engine : Engine) (store : Store) : Engine :=
  { engine with store }

def receive (engine : Engine) (cluster backend : Fetch) : Stage → Engine × Stage
  | .fetching => (engine, .fetched cluster backend)
  | stage => (engine, stage)

def cancel (engine : Engine) : Stage → Engine × Stage
  | .proposed .. => (engine.abandon.1, .ended engine.abandon.2)
  | stage => (engine, stage)

/-- The next step of an attempt that has what was fetched; `elapsed` is the time that it took so far. -/
def proceed (engine : Engine) (attempt : Attempt) (elapsed : Nat) : Stage → Engine × Stage
  | .fetching => (engine, .fetching)
  | .fetched .cancelled _ | .fetched _ .cancelled => (engine.abandon.1, .ended engine.abandon.2)
  | .fetched (.fetched cluster) (.fetched backend) =>
    (engine, .proposed cluster backend (engine.propose attempt cluster backend elapsed))
  | .fetched cluster backend =>
    (engine, .reported
      (attempt.degradedReport engine.names cluster backend engine.store.snapshot elapsed))
  | .proposed _ _ proposal =>
    match engine.store.commit proposal.batch with
    | .ok store => ({ engine with store }, .reported proposal.report)
    | .error error => (engine, .refused proposal error)
  | .refused proposal error =>
    (engine, .reported (proposal.refusedReport engine.store.snapshot error))
  | .reported report => ((engine.close report).1, .ended (engine.close report).2)
  | .ended result => (engine, .ended result)

end Engine

structure Cycle where
  /-- The number of the engine. -/
  engine : Nat
  attempt : Attempt
  stage : Stage

/-- The engines work on the store of the fleet, not on their own. -/
structure Fleet where
  store : Store
  engines : List Engine
  cycles : List Cycle
  /-- The snapshots that readers obtained and keep. -/
  held : List Snapshot

namespace Fleet

/-- What can happen to a fleet. Engines and cycles go by their numbers. -/
inductive Action where
  | begin (engine : Nat) (now : Instant)
  | receive (cycle : Nat) (cluster backend : Fetch)
  | cancel (cycle : Nat)
  | proceed (cycle : Nat) (elapsed : Nat)
  /-- Another writer's commit. -/
  | intrude (batch : Batch)
  | read

namespace Action

def cycle? : Action → Option Nat
  | receive cycle .. | cancel cycle | proceed cycle _ => some cycle
  | begin .. | intrude _ | read => none

end Action

def begin (fleet : Fleet) (number : Nat) (now : Instant) : Fleet :=
  match fleet.engines[number]? with
  | none => fleet
  | some engine =>
    let (engine, attempt) := (engine.withStore fleet.store).begin now
    { fleet with
      engines := fleet.engines.set number engine
      cycles := fleet.cycles ++ [⟨number, attempt, .fetching⟩] }

def turn (fleet : Fleet) (number : Nat) (step : Engine → Attempt → Stage → Engine × Stage) : Fleet :=
  match fleet.cycles[number]? with
  | none => fleet
  | some cycle =>
    match fleet.engines[cycle.engine]? with
    | none => fleet
    | some engine =>
      let (engine, stage) := step (engine.withStore fleet.store) cycle.attempt cycle.stage
      { fleet with
        store := engine.store
        engines := fleet.engines.set cycle.engine engine
        cycles := fleet.cycles.set number { cycle with stage } }

def intrude (fleet : Fleet) (batch : Batch) : Fleet :=
  { fleet with store := (fleet.store.commit batch).toOption.getD fleet.store }

def read (fleet : Fleet) : Fleet :=
  { fleet with held := fleet.held ++ [fleet.store.snapshot] }

/-- What does not apply changes nothing. -/
def act (fleet : Fleet) : Action → Fleet
  | .begin engine now => fleet.begin engine now
  | .receive cycle cluster backend =>
    fleet.turn cycle fun engine _ stage => engine.receive cluster backend stage
  | .cancel cycle => fleet.turn cycle fun engine _ stage => engine.cancel stage
  | .proceed cycle elapsed =>
    fleet.turn cycle fun engine attempt stage => engine.proceed attempt elapsed stage
  | .intrude batch => fleet.intrude batch
  | .read => fleet.read

def run (fleet : Fleet) (actions : List Action) : Fleet :=
  actions.foldl act fleet

end Fleet

end OrphanWatch
