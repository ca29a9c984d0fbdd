import OrphanWatch.Findings
import OrphanWatch.Instant.Rfc3339
import OrphanWatch.Json.Basic

/-!
Findings and reports as JSON.

Fields are named in camel case. A field that is described as left out is absent when it has no value;
every other field is `null` then.
-/

namespace OrphanWatch

open Json (ofNat ofOption ofStrings ofFields optionalField listField)

def Instant.toJson (instant : Instant) : Json :=
  .string instant.toRfc3339

def Key.toJson (key : Key) : Json :=
  .string key.display

def kindCountsJson (counts : SortedMap Kind Nat) : Json :=
  ofFields (counts.toList.map fun (kind, count) => (kind.name, ofNat count))

def Record.toJson (record : Record) : Json :=
  ofFields
    [("kind", .string record.kind.name), ("nativeId", .string record.nativeId),
      ("correlationKey", ofOption .string record.rawKey),
      ("createdAt", ofOption Instant.toJson record.createdAt),
      ("sizeBytes", ofNat record.sizeBytes), ("statusHint", ofOption .string record.status),
      ("attributes", .object (record.attributes.toList.map fun (name, value) => (name, .string value)))]

/-- The times and the reason of confirmation and resolution are left out. -/
def Candidate.toJson (candidate : Candidate) : Json :=
  ofFields
    ([("key", candidate.key.toJson), ("side", .string candidate.side.name),
      ("kind", .string candidate.kind.name), ("nativeId", .string candidate.nativeId),
      ("sizeBytes", ofNat candidate.sizeBytes),
      ("firstObservedAt", candidate.firstObservedAt.toJson),
      ("lastObservedAt", candidate.lastObservedAt.toJson),
      ("consecutiveObservations", ofNat candidate.observations),
      ("state", .string candidate.state.label),
      ("lastScanGeneration", ofNat candidate.lastGeneration)]
      ++ optionalField "confirmedAt" Instant.toJson candidate.confirmedAt
      ++ optionalField "resolvedAt" Instant.toJson candidate.resolvedAt
      ++ optionalField "resolution" (fun resolution => .string resolution.name) candidate.resolution)

def Usage.toJson (usage : Usage) : Json :=
  ofFields
    [("generation", ofNat usage.generation), ("measuredAt", usage.measuredAt.toJson),
      ("volumeCount", ofNat usage.volumeCount), ("claimCount", ofNat usage.claimCount),
      ("snapshotCount", ofNat usage.snapshotCount),
      ("backendVolumeCount", ofNat usage.backendVolumeCount),
      ("backendSnapshotCount", ofNat usage.backendSnapshotCount),
      ("provisionedBytes", ofNat usage.provisionedBytes),
      ("requestedBytes", ofNat usage.requestedBytes),
      ("backendUsedBytes", ofNat usage.backendUsedBytes),
      ("backendSnapshotBytes", ofNat usage.backendSnapshotBytes),
      ("clusterOrphanedBytes", ofNat usage.clusterOrphanedBytes),
      ("backendOrphanedBytes", ofNat usage.backendOrphanedBytes),
      ("thinProvisioningEfficiencyPercent", .double usage.thinProvisioningEfficiencyPercent),
      ("recommendations", ofStrings usage.recommendations)]

def Drift.toJson (drift : Drift) : Json :=
  ofFields
    [("fromGeneration", ofNat drift.fromGeneration), ("toGeneration", ofNat drift.toGeneration),
      ("elapsedSecs", .whole drift.elapsedSeconds),
      ("provisionedBytesDelta", .whole drift.provisionedBytesDelta),
      ("requestedBytesDelta", .whole drift.requestedBytesDelta),
      ("backendUsedBytesDelta", .whole drift.backendUsedBytesDelta),
      ("backendSnapshotBytesDelta", .whole drift.backendSnapshotBytesDelta),
      ("orphanedBytesDelta", .whole drift.orphanedBytesDelta),
      ("backendUsedBytesPerHour", .double drift.backendUsedBytesPerHour)]

/-- The kinds that a source cannot list and the error are left out. -/
def SourceStatus.toJson (status : SourceStatus) : Json :=
  ofFields
    ([("side", .string status.side.label), ("sourceName", .string status.sourceName),
      ("available", .bool status.available), ("recordCount", ofNat status.recordCount)]
      ++ listField "unlistedKinds" (fun kind => .string kind.name) status.unlistedKinds
      ++ optionalField "error" .string status.error)

def CandidateCount.toJson (count : CandidateCount) : Json :=
  ofFields
    [("side", .string count.side.name), ("kind", .string count.kind.name),
      ("state", .string count.state.label), ("count", ofNat count.count)]

def KeyCollision.fields (collision : KeyCollision) : List (String × Json) :=
  [("key", collision.key.toJson), ("side", .string collision.side.label),
    ("nativeIds", ofStrings collision.nativeIds)]

def Anomaly.toJson : Anomaly → Json
  | keyCollision collision => ofFields (("type", .string "keyCollision") :: collision.fields)
  | unmatchable kind count =>
    ofFields
      [("type", .string "unmatchable"), ("kind", .string kind.name), ("count", ofNat count)]

/-- The skipped scopes, the usage, the drift and the reason are left out. -/
def CycleReport.toJson (report : CycleReport) : Json :=
  ofFields
    ([("cycleId", ofNat report.cycle), ("generation", ofNat report.generation),
      ("outcome", .string report.outcome.name), ("startedAt", report.startedAt.toJson),
      ("finishedAt", report.finishedAt.toJson),
      ("sources", .array (report.sources.map SourceStatus.toJson)),
      ("newConfirmed", .array (report.newConfirmed.map Candidate.toJson)),
      ("resolved", .array (report.resolved.map Candidate.toJson)),
      ("newCandidates", ofNat report.newCandidates), ("evicted", ofNat report.evicted),
      ("healthyPairs", ofNat report.healthyPairs),
      ("activeCandidates", ofNat report.activeCandidates),
      ("confirmedOrphans", ofNat report.confirmedOrphans),
      ("candidateCounts", .array (report.candidateCounts.map CandidateCount.toJson)),
      ("withinRetention", ofNat report.withinRetention),
      ("uncorrelated", kindCountsJson report.uncorrelated),
      ("anomalies", .array (report.anomalies.map Anomaly.toJson))]
      ++ listField "skippedScopes" (fun scope => .string scope.label) report.skippedScopes
      ++ optionalField "usage" Usage.toJson report.usage
      ++ optionalField "drift" Drift.toJson report.drift
      ++ optionalField "reason" .string report.reason)

def Snapshot.toJson (snapshot : Snapshot) : Json :=
  ofFields
    [("generation", ofNat snapshot.generation),
      ("committedAt", ofOption Instant.toJson snapshot.committedAt),
      ("candidates",
        ofFields (snapshot.candidates.toList.map fun (key, candidate) =>
          (key.display, candidate.toJson))),
      ("usage", ofOption Usage.toJson snapshot.usage)]

end OrphanWatch
