import OrphanWatch.Error
import OrphanWatch.Metrics

/-!
Metrics as named series.

A series has a family and labels. The families are registered together, each name once.
-/

namespace OrphanWatch

inductive Sample where
  | number (value : Binary64)
  | histogram (value : Histogram)
  deriving DecidableEq, Repr

structure Series where
  family : String
  /-- The labels with their values, in the order of their names. -/
  labels : List (String × String)
  sample : Sample
  deriving DecidableEq, Repr

namespace Metrics

def familyName (name : String) : String :=
  "orphan_monitor_" ++ name

def families : List String :=
  ["scan_cycles_total", "scan_overruns_total", "scan_cycle_duration_seconds",
    "committed_generation", "orphan_candidates", "orphans_confirmed_total",
    "orphans_resolved_total", "healthy_pairs", "unmatchable_records", "key_collisions",
    "source_up", "orphaned_bytes", "backend_used_bytes", "requested_bytes"].map familyName

def register (registered : List String) : Except MonitorError (List String) :=
  if families.any registered.contains then
    .error (.internal
      "metrics registration failed: Duplicate metrics collector registration attempted")
  else .ok (registered ++ families)

def one (name : String) (value : Int) : Series :=
  ⟨familyName name, [], .number (.ofInt value)⟩

def labelled (name : String) (labels : List (String × String)) (value : Int) : Series :=
  ⟨familyName name, labels, .number (.ofInt value)⟩

/-- All series. Those with labels exist once they have a value, the others always do. -/
def series (metrics : Metrics) : List Series :=
  metrics.cycles.toList.map
      (fun (outcome, count) => labelled "scan_cycles_total" [("outcome", outcome.label)] count)
    ++ [one "scan_overruns_total" metrics.overruns,
      ⟨familyName "scan_cycle_duration_seconds", [], .histogram metrics.duration⟩,
      one "committed_generation" metrics.generation]
    ++ metrics.candidates.toList.map
      (fun (labels, count) =>
        labelled "orphan_candidates"
          [("kind", labels.kind.label), ("side", labels.side.label), ("state", labels.state.label)]
          count)
    ++ [one "orphans_confirmed_total" metrics.confirmedTotal,
      one "orphans_resolved_total" metrics.resolvedTotal,
      one "healthy_pairs" metrics.healthyPairs]
    ++ metrics.unmatchable.toList.map
      (fun (kind, count) => labelled "unmatchable_records" [("kind", kind.label)] count)
    ++ [one "key_collisions" metrics.collisions]
    ++ metrics.sourceUp.toList.map
      (fun (side, up) => labelled "source_up" [("side", side.label)] (if up then 1 else 0))
    ++ metrics.orphanedBytes.toList.map
      (fun (side, bytes) => labelled "orphaned_bytes" [("side", side.label)] bytes)
    ++ [one "backend_used_bytes" metrics.backendUsedBytes,
      one "requested_bytes" metrics.requestedBytes]

end Metrics

end OrphanWatch
