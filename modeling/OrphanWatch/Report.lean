import OrphanWatch.Correlation.Basic
import OrphanWatch.Usage

/-!
What a scan tells the outside.

Every scan that is not cancelled ends in a report; a tick of the scheduler that finds a scan under way
ends in an overrun.
-/

namespace OrphanWatch

inductive Phase where
  | idle
  | fetchingBoth
  | correlating
  | classifying
  | committing
  | degraded
  deriving DecidableEq, Repr

namespace Phase

def name : Phase → String
  | idle => "idle"
  | fetchingBoth => "fetchingBoth"
  | correlating => "correlating"
  | classifying => "classifying"
  | committing => "committing"
  | degraded => "degraded"

def label : Phase → String
  | fetchingBoth => "fetching_both"
  | phase => phase.name

end Phase

inductive Outcome where
  /-- Both sides were fetched, and the findings were stored. -/
  | committed
  /-- A side was not fetched; the findings stay as they were. -/
  | degraded
  /-- The store refused the findings. -/
  | commitFailed
  deriving DecidableEq, Repr, Ord

instance : Std.TransOrd Outcome where
  eq_swap := by intro a b; cases a <;> cases b <;> rfl
  isLE_trans := by intro a b c; cases a <;> cases b <;> cases c <;> decide

instance : Std.LawfulEqOrd Outcome where
  compare_self := by intro a; cases a <;> rfl
  eq_of_compare := by intro a b; cases a <;> cases b <;> decide

namespace Outcome

def name : Outcome → String
  | committed => "committed"
  | degraded => "degraded"
  | commitFailed => "commitFailed"

def label : Outcome → String
  | commitFailed => "commit_failed"
  | outcome => outcome.name

end Outcome

inductive Anomaly where
  | keyCollision (collision : KeyCollision)
  | unmatchable (kind : Kind) (count : Nat)
  deriving DecidableEq, Repr

structure SourceStatus where
  side : Side
  sourceName : String
  available : Bool
  recordCount : Nat
  /-- The kinds that the source cannot list. -/
  unlistedKinds : List Kind
  error : Option String
  deriving DecidableEq, Repr

structure CandidateCount where
  side : OrphanSide
  kind : Kind
  state : CandidateState
  count : Nat
  deriving DecidableEq, Repr

namespace CandidateCount

def count? (candidates : List Candidate) (side : OrphanSide) (kind : Kind) (state : CandidateState) :
    Option CandidateCount :=
  match candidates.filter fun c => c.side == side && c.kind == kind && c.state == state with
  | [] => none
  | counted => some ⟨side, kind, state, counted.length⟩

/-- The counts that are not zero, by side, kind and state. -/
def tally (candidates : List Candidate) : List CandidateCount :=
  OrphanSide.all.flatMap fun side =>
    Kind.all.flatMap fun kind =>
      CandidateState.all.filterMap fun state => count? candidates side kind state

end CandidateCount

structure CycleReport where
  /-- The number of the attempt. -/
  cycle : Nat
  /-- The generation that the report is about. -/
  generation : Nat
  outcome : Outcome
  startedAt : Instant
  finishedAt : Instant
  sources : List SourceStatus
  /-- The candidates that this scan confirmed. -/
  newConfirmed : List Candidate
  /-- The candidates that this scan resolved. -/
  resolved : List Candidate
  newCandidates : Nat
  evicted : Nat
  healthyPairs : Nat
  activeCandidates : Nat
  confirmedOrphans : Nat
  candidateCounts : List CandidateCount
  /-- Backend snapshots that are too young to count. -/
  withinRetention : Nat
  /-- The scopes that were left out because a side could not list them. -/
  skippedScopes : List Scope
  uncorrelated : SortedMap Kind Nat
  anomalies : List Anomaly
  usage : Option Usage
  drift : Option Drift
  /-- Why the scan did not commit. -/
  reason : Option String
  deriving DecidableEq, Repr

namespace CycleReport

def isDegraded (report : CycleReport) : Bool :=
  report.outcome == .degraded

def duration (report : CycleReport) : Int :=
  report.finishedAt.since report.startedAt

def collisions (report : CycleReport) : List KeyCollision :=
  report.anomalies.filterMap fun
    | .keyCollision collision => some collision
    | .unmatchable .. => none

def unmatchable (report : CycleReport) : List (Kind × Nat) :=
  report.anomalies.filterMap fun
    | .keyCollision _ => none
    | .unmatchable kind count => some (kind, count)

def unmatchableTotal (report : CycleReport) : Nat :=
  total (report.unmatchable.map (·.2))

end CycleReport

/-- A tick of the scheduler that found a scan under way. -/
structure ScanOverrun where
  instant : Instant
  /-- The scan under way. -/
  inFlight : Nat
  total : Nat
  deriving DecidableEq, Repr

inductive Delivery where
  | report (report : CycleReport)
  | overrun (overrun : ScanOverrun)
  deriving DecidableEq, Repr

end OrphanWatch
