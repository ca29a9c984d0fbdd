import OrphanWatch.Report
import OrphanWatch.Text.Numeral

/-!
Metrics: what is counted and measured about the scans.

The metrics are made of the deliveries, one after another. Counters only grow. What describes the
committed findings is left alone by a scan that did not commit; the counts of candidates are those of
the last report, whatever its outcome.
-/

namespace OrphanWatch

structure Histogram where
  count : Nat
  /-- The sum in seconds. -/
  sum : Binary64
  /-- For each bound, the number of durations up to it. -/
  buckets : List Nat
  deriving DecidableEq, Repr

namespace Histogram

/-- The bounds of the buckets: 0.5, 1, 5, 15, 30, 60, 120 and 300 seconds. -/
def bounds : List Nat :=
  [500, 1000, 5000, 15000, 30000, 60000, 120000, 300000].map (· * 1000000)

def empty : Histogram :=
  ⟨0, .zero, bounds.map fun _ => 0⟩

def seconds (nanos : Nat) : Binary64 :=
  Binary64.ofNat (nanos / 1000000000)
    + Binary64.ofNat (nanos % 1000000000) / Binary64.ofNat 1000000000

/-- Counts a duration. A bound includes its own value. -/
def observe (histogram : Histogram) (nanos : Nat) : Histogram :=
  { count := histogram.count + 1
    sum := histogram.sum + seconds nanos
    buckets :=
      (bounds.zip histogram.buckets).map fun (bound, count) =>
        if nanos ≤ bound then count + 1 else count }

end Histogram

structure CandidateLabels where
  side : OrphanSide
  kind : Kind
  state : CandidateState
  deriving DecidableEq, Repr

namespace CandidateLabels

/-- By side, then by kind, then by state. -/
instance : Ord CandidateLabels :=
  ⟨compareLex (compareOn side) (compareLex (compareOn kind) (compareOn state))⟩

instance : Std.TransOrd CandidateLabels :=
  inferInstanceAs
    (Std.TransCmp (compareLex (compareOn side) (compareLex (compareOn kind) (compareOn state))))

instance : Std.LawfulEqOrd CandidateLabels where
  compare_self := Std.ReflOrd.compare_self
  eq_of_compare := by
    intro a b h
    have h : (compare a.side b.side).then
        ((compare a.kind b.kind).then (compare a.state b.state)) = .eq := h
    obtain ⟨hside, hrest⟩ := Ordering.then_eq_eq.1 h
    obtain ⟨hkind, hstate⟩ := Ordering.then_eq_eq.1 hrest
    cases a
    cases b
    simp_all

end CandidateLabels

def CandidateCount.labels (count : CandidateCount) : CandidateLabels :=
  ⟨count.side, count.kind, count.state⟩

structure Metrics where
  /-- The number of reports of each outcome that occurred. -/
  cycles : SortedMap Outcome Nat
  overruns : Nat
  duration : Histogram
  generation : Int
  candidates : SortedMap CandidateLabels Int
  confirmedTotal : Nat
  resolvedTotal : Nat
  healthyPairs : Int
  /-- The number of unmatchable records of each kind that has any. -/
  unmatchable : SortedMap Kind Int
  collisions : Nat
  /-- Whether the last fetch from each side succeeded. -/
  sourceUp : SortedMap Side Bool
  /-- What confirmed orphans hold, once it was measured. -/
  orphanedBytes : SortedMap Side Int
  backendUsedBytes : Int
  requestedBytes : Int
  deriving DecidableEq, Repr

namespace Metrics

def empty : Metrics :=
  { cycles := .empty
    overruns := 0
    duration := .empty
    generation := 0
    candidates := .empty
    confirmedTotal := 0
    resolvedTotal := 0
    healthyPairs := 0
    unmatchable := .empty
    collisions := 0
    sourceUp := .empty
    orphanedBytes := .empty
    backendUsedBytes := 0
    requestedBytes := 0 }

/-- A gauge is a 64-bit number with sign, and larger numbers wrap around. -/
def gauge (n : Nat) : Int :=
  (n : Int).bmod Text.wordSize

/-- A gauge with labels that is reset, and then set once for every number. -/
def gauges {κ : Type} [Ord κ] [Std.TransOrd κ] [Std.LawfulEqOrd κ] (numbers : List (κ × Nat)) :
    SortedMap κ Int :=
  .ofList (numbers.map fun entry => (entry.1, gauge entry.2))

def observe (metrics : Metrics) (report : CycleReport) : Metrics :=
  { metrics with
    cycles := metrics.cycles.adjust report.outcome fun count => count.getD 0 + 1
    duration :=
      if 0 ≤ report.duration then metrics.duration.observe report.duration.toNat
      else metrics.duration
    sourceUp :=
      report.sources.foldl (fun up status => up.insert status.side status.available)
        metrics.sourceUp
    candidates := gauges (report.candidateCounts.map fun count => (count.labels, count.count)) }

def measure (metrics : Metrics) (usage : Usage) : Metrics :=
  { metrics with
    orphanedBytes :=
      .ofList
        [(.cluster, gauge usage.clusterOrphanedBytes), (.backend, gauge usage.backendOrphanedBytes)]
    backendUsedBytes := gauge usage.backendUsedBytes
    requestedBytes := gauge usage.requestedBytes }

def settle (metrics : Metrics) (report : CycleReport) : Metrics :=
  let settled :=
    { metrics with
      generation := gauge report.generation
      confirmedTotal := metrics.confirmedTotal + report.newConfirmed.length
      resolvedTotal := metrics.resolvedTotal + report.resolved.length
      healthyPairs := gauge report.healthyPairs
      unmatchable := gauges report.unmatchable
      collisions := report.collisions.length }
  report.usage.elim settled settled.measure

def ofReport (metrics : Metrics) (report : CycleReport) : Metrics :=
  let observed := metrics.observe report
  if report.outcome = .committed then observed.settle report else observed

def deliver (metrics : Metrics) : Delivery → Metrics
  | .report report => metrics.ofReport report
  | .overrun _ => { metrics with overruns := metrics.overruns + 1 }

def ofDeliveries (deliveries : List Delivery) : Metrics :=
  deliveries.foldl deliver empty

end Metrics

end OrphanWatch
