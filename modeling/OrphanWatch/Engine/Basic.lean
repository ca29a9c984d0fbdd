import OrphanWatch.Engine.Attempt

/-!
The engine: it numbers the attempts, concludes them and hands out their reports.

`Engine.begin` starts an attempt, and `Engine.conclude` ends it with what was fetched. In between the
engine is free, so attempts can overlap; the store decides which of them commits.
-/

namespace OrphanWatch

structure Engine where
  config : EngineConfig
  policy : Policy
  retention : Int
  names : SourceNames
  store : Store
  phase : Phase
  /-- The number of attempts that were started. -/
  attempts : Nat
  /-- What each of the followers was handed, in order. -/
  inboxes : List (List Delivery)
  deriving DecidableEq, Repr

namespace Engine

/-- An engine with an empty store; the first source has to be of the cluster, the second of the
backend. -/
def create (config : EngineConfig) (cluster backend : Side × String) :
    Except MonitorError Engine := do
  config.validate
  let policy ← config.policy
  let retention ← config.retentionSpan
  if cluster.1 = .cluster ∧ backend.1 = .backend then
    .ok
      { config, policy, retention
        names := ⟨cluster.2, backend.2⟩
        store := .initial
        phase := .idle
        attempts := 0
        inboxes := [] }
  else
    .error (.configuration
      ("inventory sources are wired to the wrong sides: " ++ cluster.2 ++ " (" ++ cluster.1.label
        ++ "), " ++ backend.2 ++ " (" ++ backend.1.label ++ ")"))

def addFollower (engine : Engine) : Engine :=
  { engine with inboxes := engine.inboxes ++ [[]] }

def drain (engine : Engine) (follower : Nat) : Engine × List Delivery :=
  ({ engine with inboxes := engine.inboxes.set follower [] },
    (engine.inboxes[follower]?).getD [])

def deliver (engine : Engine) (delivery : Delivery) : Engine :=
  { engine with inboxes := engine.inboxes.map (· ++ [delivery]) }

def setPhase (engine : Engine) (phase : Phase) : Engine :=
  { engine with phase }

def record (engine : Engine) (report : CycleReport) : Engine :=
  { engine with store := engine.store.recordReport report }

/-- Hands out a report, then remembers it. -/
def publish (engine : Engine) (report : CycleReport) : Engine :=
  (engine.deliver (.report report)).record report

def begin (engine : Engine) (now : Instant) : Engine × Attempt :=
  let cycle := engine.attempts + 1
  ({ engine with attempts := cycle, phase := .fetchingBoth }, ⟨cycle, engine.store.snapshot, now⟩)

def propose (engine : Engine) (attempt : Attempt) (cluster backend : Inventory) (elapsed : Nat) :
    Proposal :=
  attempt.propose engine.policy engine.retention engine.names cluster backend elapsed

def commit (engine : Engine) (proposal : Proposal) : Engine × CycleReport :=
  let (store, report) := proposal.commit engine.store
  ({ engine with store }, report)

def abandon (engine : Engine) : Engine × Except MonitorError CycleReport :=
  (engine.setPhase .idle, .error .cancelled)

def close (engine : Engine) (report : CycleReport) : Engine × Except MonitorError CycleReport :=
  ((engine.publish report).setPhase .idle, .ok report)

/-- Ends an attempt with what was fetched. `cancelled` says whether the attempt was cancelled before
its findings were offered to the store; an attempt that is only degraded does not ask. -/
def conclude (engine : Engine) (attempt : Attempt) (cluster backend : Fetch) (cancelled : Bool)
    (elapsed : Nat) : Engine × Except MonitorError CycleReport :=
  match cluster, backend with
  | .cancelled, _ | _, .cancelled => engine.abandon
  | .fetched cluster, .fetched backend =>
    if cancelled then engine.abandon
    else
      let (engine, report) := engine.commit (engine.propose attempt cluster backend elapsed)
      engine.close report
  | cluster, backend =>
    engine.close
      (attempt.degradedReport engine.names cluster backend engine.store.snapshot elapsed)

end Engine

end OrphanWatch
