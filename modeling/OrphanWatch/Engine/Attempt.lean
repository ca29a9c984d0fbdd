import OrphanWatch.Classification
import OrphanWatch.Engine.Config

/-!
One attempt at a scan: what it starts from, what it fetches, and what it proposes.

An attempt reads the findings once, at its start, and proposes the next generation from them. If the
store has moved on in the meantime, the proposal is refused and nothing changes
(`Proposal.commit`).
-/

namespace OrphanWatch

structure Inventory where
  records : List Record
  /-- The kinds that the source cannot list. -/
  unlisted : List Kind
  deriving DecidableEq, Repr

def Inventory.observed (inventory : Inventory) (skipped : List Scope) : List Record :=
  inventory.records.filter fun record => !skipped.contains record.kind.scope

def skippedScopes (cluster backend : Inventory) : List Scope :=
  Scope.all.filter fun scope => (cluster.unlisted ++ backend.unlisted).any (·.scope == scope)

inductive Fetch where
  | fetched (inventory : Inventory)
  | failed (error : MonitorError)
  | cancelled
  deriving DecidableEq, Repr

namespace Fetch

/-- A side that failed with an error. What does not say yet that the side is out of reach is taken as
the cause of that. -/
def ofError (side : Side) : MonitorError → Fetch
  | .sourceUnavailable side cause => failed (.sourceUnavailable side cause)
  | .sourceTimeout side seconds => failed (.sourceTimeout side seconds)
  | error => failed (.sourceUnavailable side error.message)

def timedOut (side : Side) (timeout : Nat) : Fetch :=
  failed (.sourceTimeout side (timeout / nanosPerSecond))

def failure? : Fetch → Option String
  | failed error => some error.message
  | _ => none

def status (side : Side) (name : String) : Fetch → SourceStatus
  | fetched inventory =>
    ⟨side, name, true, inventory.records.length, inventory.unlisted, none⟩
  | failed error => ⟨side, name, false, 0, [], some error.message⟩
  | cancelled => ⟨side, name, false, 0, [], some MonitorError.cancelled.message⟩

end Fetch

structure SourceNames where
  cluster : String
  backend : String
  deriving DecidableEq, Repr

structure Attempt where
  /-- The number of the attempt. -/
  cycle : Nat
  /-- The findings at its start. -/
  base : Snapshot
  startedAt : Instant
  deriving DecidableEq, Repr

/-- What an attempt wants to store, and the report that it gives if that succeeds. -/
structure Proposal where
  base : Snapshot
  batch : Batch
  report : CycleReport
  deriving DecidableEq, Repr

/-- Collisions first, then the kinds with unmatchable records. -/
def Correlation.anomalies (correlation : Correlation) : List Anomaly :=
  correlation.collisions.map .keyCollision
    ++ correlation.unmatchable.toList.map fun (kind, count) => .unmatchable kind count

namespace Attempt

def finishedAt (attempt : Attempt) (elapsed : Nat) : Instant :=
  attempt.startedAt.add elapsed

def round (attempt : Attempt) (policy : Policy) (retention : Int) : Round :=
  ⟨attempt.base.generation + 1, attempt.startedAt, policy, retention⟩

/-- The correlation of what both sides hold in the scopes that both can list. -/
def correlation (cluster backend : Inventory) : Correlation :=
  let skipped := skippedScopes cluster backend
  .of (cluster.observed skipped) (backend.observed skipped)

def classify (attempt : Attempt) (policy : Policy) (retention : Int)
    (cluster backend : Inventory) : Classification :=
  .run (attempt.round policy retention) (skippedScopes cluster backend)
    (correlation cluster backend) attempt.base.candidates

def propose (attempt : Attempt) (policy : Policy) (retention : Int) (names : SourceNames)
    (cluster backend : Inventory) (elapsed : Nat) : Proposal :=
  let generation := attempt.base.generation + 1
  let correlation := correlation cluster backend
  let classification := attempt.classify policy retention cluster backend
  let candidates := classification.candidates.values
  let usage :=
    Usage.measure generation attempt.startedAt cluster.records backend.records candidates
  { base := attempt.base
    batch := ⟨generation, attempt.startedAt, classification.candidates, some usage⟩
    report :=
      { cycle := attempt.cycle
        generation
        outcome := .committed
        startedAt := attempt.startedAt
        finishedAt := attempt.finishedAt elapsed
        sources :=
          [(Fetch.fetched cluster).status .cluster names.cluster,
            (Fetch.fetched backend).status .backend names.backend]
        newConfirmed := classification.newConfirmed
        resolved := classification.resolved
        newCandidates := classification.newCandidates
        evicted := classification.evicted
        healthyPairs := correlation.healthyCount
        activeCandidates := (candidates.filter (·.isActive)).length
        confirmedOrphans := (candidates.filter (·.isConfirmed)).length
        candidateCounts := CandidateCount.tally candidates
        withinRetention := classification.withinRetention
        skippedScopes := skippedScopes cluster backend
        uncorrelated := correlation.uncorrelated
        anomalies := correlation.anomalies
        usage := some usage
        drift := attempt.base.usage.map fun previous => Drift.between previous usage
        reason := none } }

def degradedReport (attempt : Attempt) (names : SourceNames) (cluster backend : Fetch)
    (current : Snapshot) (elapsed : Nat) : CycleReport :=
  { cycle := attempt.cycle
    generation := current.generation
    outcome := .degraded
    startedAt := attempt.startedAt
    finishedAt := attempt.finishedAt elapsed
    sources := [cluster.status .cluster names.cluster, backend.status .backend names.backend]
    newConfirmed := []
    resolved := []
    newCandidates := 0
    evicted := 0
    healthyPairs := 0
    activeCandidates := current.activeCount
    confirmedOrphans := current.countInState .confirmed
    candidateCounts := CandidateCount.tally current.candidates.values
    withinRetention := 0
    skippedScopes := []
    uncorrelated := .empty
    anomalies := []
    usage := none
    drift := none
    reason :=
      some (String.intercalate "; " (cluster.failure?.toList ++ backend.failure?.toList)) }

end Attempt

namespace Proposal

/-- The report of a proposal that the store refused. Its counts are those of the findings that the
attempt started from. -/
def refusedReport (proposal : Proposal) (current : Snapshot) (error : MonitorError) : CycleReport :=
  { proposal.report with
    outcome := .commitFailed
    generation := current.generation
    newConfirmed := []
    resolved := []
    newCandidates := 0
    evicted := 0
    activeCandidates := proposal.base.activeCount
    confirmedOrphans := proposal.base.countInState .confirmed
    candidateCounts := CandidateCount.tally proposal.base.candidates.values
    usage := none
    drift := none
    reason := some error.message }

def commit (proposal : Proposal) (store : Store) : Store × CycleReport :=
  match store.commit proposal.batch with
  | .ok store => (store, proposal.report)
  | .error error => (store, proposal.refusedReport store.snapshot error)

end Proposal

end OrphanWatch
