import OrphanWatch.Report
import OrphanWatch.Instant.Rfc3339
import OrphanWatch.Json.Basic

/-!
The journal: what is written to the log about the scans.
-/

namespace OrphanWatch.Journal

open Json (ofNat)

inductive Level where
  | info
  | warn
  | error
  deriving DecidableEq, Repr

def Level.label : Level → String
  | info => "INFO"
  | warn => "WARN"
  | error => "ERROR"

structure Line where
  level : Level
  message : String
  details : List (String × Json)
  deriving Repr

def summary (report : CycleReport) : Line :=
  let cycle := ("cycle_id", ofNat report.cycle)
  let generation := ("generation", ofNat report.generation)
  let reason := ("reason", .string (report.reason.getD ""))
  match report.outcome with
  | .committed =>
    ⟨.info, "Scan cycle result",
      [cycle, generation, ("duration_ms", .whole (Span.millis report.duration)),
        ("healthy", ofNat report.healthyPairs), ("new_candidates", ofNat report.newCandidates),
        ("active", ofNat report.activeCandidates), ("confirmed", ofNat report.confirmedOrphans),
        ("evicted", ofNat report.evicted), ("unmatchable", ofNat report.unmatchableTotal)]⟩
  | .degraded => ⟨.warn, "Scan cycle degraded", [cycle, generation, reason]⟩
  | .commitFailed => ⟨.error, "Scan cycle findings lost", [cycle, reason]⟩

def confirmation (orphan : Candidate) : Line :=
  ⟨.warn, "Confirmed orphan",
    [("key", .string orphan.key.display), ("side", .string orphan.side.label),
      ("kind", .string orphan.kind.label), ("native_id", .string orphan.nativeId),
      ("size_bytes", ofNat orphan.sizeBytes),
      ("first_observed_at", .string orphan.firstObservedAt.toLogText),
      ("observations", ofNat orphan.observations)]⟩

def resolutionText : Option Resolution → String
  | some .matched => "Some(Matched)"
  | some .vanished => "Some(Vanished)"
  | none => "None"

def resolution (orphan : Candidate) : Line :=
  ⟨.info, "Orphan resolved",
    [("key", .string orphan.key.display), ("side", .string orphan.side.label),
      ("resolution", .string (resolutionText orphan.resolution))]⟩

def collision (collision : KeyCollision) : Line :=
  ⟨.warn, "Correlation key collision",
    [("key", .string collision.key.display), ("side", .string collision.side.label),
      ("native_ids", .string (Text.quotedList collision.nativeIds))]⟩

def growth (drift : Drift) : Line :=
  ⟨.info, "Backend usage growing",
    [("bytes_per_hour", .double drift.backendUsedBytesPerHour),
      ("delta", .whole drift.backendUsedBytesDelta)]⟩

/-- The lines about a report: the scan, then the orphans, the collisions and the growth of the usage. -/
def ofReport (report : CycleReport) : List Line :=
  summary report :: report.newConfirmed.map confirmation ++ report.resolved.map resolution
    ++ report.collisions.map collision
    ++ (report.drift.filter (·.isGrowing)).toList.map growth

def ofOverrun (overrun : ScanOverrun) : Line :=
  ⟨.warn, "Scan tick dropped",
    [("in_flight_cycle", ofNat overrun.inFlight), ("total_overruns", ofNat overrun.total)]⟩

def ofDelivery : Delivery → List Line
  | .report report => ofReport report
  | .overrun overrun => [ofOverrun overrun]

end OrphanWatch.Journal
