import OrphanWatch.Json.Reader
import OrphanWatch.View

/-!
Reading findings and reports back from JSON.
-/

namespace OrphanWatch

open Json.Reader

def Kind.read : Json.Reader Kind := named name Kind.all

def Side.read : Json.Reader Side := named label Side.all

def Scope.read : Json.Reader Scope := named label Scope.all

def OrphanSide.read : Json.Reader OrphanSide := named name OrphanSide.all

def CandidateState.read : Json.Reader CandidateState := named label CandidateState.all

def Resolution.read : Json.Reader Resolution := named name [matched, vanished]

def Outcome.read : Json.Reader Outcome := named name [committed, degraded, commitFailed]

def Key.read : Json.Reader Key := fun json => do
  Key.parse (← text json)

def readTexts : Json.Reader (SortedMap String String) := fun json =>
  .ofList <$> entries text json

def Record.read : Json.Reader Record := fun json => do
  let kind ← field json "kind" Kind.read
  let nativeId ← field json "nativeId" text
  let rawKey ← optional json "correlationKey" text
  let createdAt ← optional json "createdAt" instant
  let sizeBytes ← fieldOr json "sizeBytes" 0 nat
  let status ← optional json "statusHint" text
  let attributes ← fieldOr json "attributes" .empty readTexts
  pure { kind, nativeId, rawKey, createdAt, sizeBytes, status, attributes }

def Candidate.read : Json.Reader Candidate := fun json => do
  let key ← field json "key" Key.read
  let side ← field json "side" OrphanSide.read
  let kind ← field json "kind" Kind.read
  let nativeId ← field json "nativeId" text
  let sizeBytes ← field json "sizeBytes" nat
  let firstObservedAt ← field json "firstObservedAt" instant
  let lastObservedAt ← field json "lastObservedAt" instant
  let observations ← field json "consecutiveObservations" nat
  let state ← field json "state" CandidateState.read
  let lastGeneration ← field json "lastScanGeneration" nat
  let confirmedAt ← optional json "confirmedAt" instant
  let resolvedAt ← optional json "resolvedAt" instant
  let resolution ← optional json "resolution" Resolution.read
  pure
    { key, side, kind, nativeId, sizeBytes, firstObservedAt, lastObservedAt, observations, state,
      lastGeneration, confirmedAt, resolvedAt, resolution }

def Usage.read : Json.Reader Usage := fun json => do
  let generation ← field json "generation" nat
  let measuredAt ← field json "measuredAt" instant
  let volumeCount ← field json "volumeCount" nat
  let claimCount ← field json "claimCount" nat
  let snapshotCount ← field json "snapshotCount" nat
  let backendVolumeCount ← field json "backendVolumeCount" nat
  let backendSnapshotCount ← field json "backendSnapshotCount" nat
  let provisionedBytes ← field json "provisionedBytes" nat
  let requestedBytes ← field json "requestedBytes" nat
  let backendUsedBytes ← field json "backendUsedBytes" nat
  let backendSnapshotBytes ← field json "backendSnapshotBytes" nat
  let clusterOrphanedBytes ← field json "clusterOrphanedBytes" nat
  let backendOrphanedBytes ← field json "backendOrphanedBytes" nat
  let thinProvisioningEfficiencyPercent ← field json "thinProvisioningEfficiencyPercent" double
  let recommendations ← field json "recommendations" (list text)
  pure
    { generation, measuredAt, volumeCount, claimCount, snapshotCount, backendVolumeCount,
      backendSnapshotCount, provisionedBytes, requestedBytes, backendUsedBytes,
      backendSnapshotBytes, clusterOrphanedBytes, backendOrphanedBytes,
      thinProvisioningEfficiencyPercent, recommendations }

def Drift.read : Json.Reader Drift := fun json => do
  let fromGeneration ← field json "fromGeneration" nat
  let toGeneration ← field json "toGeneration" nat
  let elapsedSeconds ← field json "elapsedSecs" int
  let provisionedBytesDelta ← field json "provisionedBytesDelta" int
  let requestedBytesDelta ← field json "requestedBytesDelta" int
  let backendUsedBytesDelta ← field json "backendUsedBytesDelta" int
  let backendSnapshotBytesDelta ← field json "backendSnapshotBytesDelta" int
  let orphanedBytesDelta ← field json "orphanedBytesDelta" int
  let backendUsedBytesPerHour ← field json "backendUsedBytesPerHour" double
  pure
    { fromGeneration, toGeneration, elapsedSeconds, provisionedBytesDelta, requestedBytesDelta,
      backendUsedBytesDelta, backendSnapshotBytesDelta, orphanedBytesDelta,
      backendUsedBytesPerHour }

def SourceStatus.read : Json.Reader SourceStatus := fun json => do
  let side ← field json "side" Side.read
  let sourceName ← field json "sourceName" text
  let available ← field json "available" bool
  let recordCount ← field json "recordCount" nat
  let unlistedKinds ← fieldOr json "unlistedKinds" [] (list Kind.read)
  let error ← optional json "error" text
  pure { side, sourceName, available, recordCount, unlistedKinds, error }

def CandidateCount.read : Json.Reader CandidateCount := fun json => do
  let side ← field json "side" OrphanSide.read
  let kind ← field json "kind" Kind.read
  let state ← field json "state" CandidateState.read
  let count ← field json "count" nat
  pure { side, kind, state, count }

def Anomaly.read : Json.Reader Anomaly := fun json => do
  match ← field json "type" text with
  | "keyCollision" =>
    let key ← field json "key" Key.read
    let side ← field json "side" Side.read
    let nativeIds ← field json "nativeIds" (list text)
    pure (.keyCollision { key, side, nativeIds })
  | "unmatchable" =>
    let kind ← field json "kind" Kind.read
    let count ← field json "count" nat
    pure (.unmatchable kind count)
  | _ => .error .jsonParse

def readKindCounts : Json.Reader (SortedMap Kind Nat) := fun json => do
  let counts ← entries nat json
  .ofList <$> counts.mapM fun (name, count) => do pure (← Kind.read (.string name), count)

def CycleReport.read : Json.Reader CycleReport := fun json => do
  let cycle ← field json "cycleId" nat
  let generation ← field json "generation" nat
  let outcome ← field json "outcome" Outcome.read
  let startedAt ← field json "startedAt" instant
  let finishedAt ← field json "finishedAt" instant
  let sources ← field json "sources" (list SourceStatus.read)
  let newConfirmed ← field json "newConfirmed" (list Candidate.read)
  let resolved ← field json "resolved" (list Candidate.read)
  let newCandidates ← field json "newCandidates" nat
  let evicted ← field json "evicted" nat
  let healthyPairs ← field json "healthyPairs" nat
  let activeCandidates ← field json "activeCandidates" nat
  let confirmedOrphans ← field json "confirmedOrphans" nat
  let candidateCounts ← fieldOr json "candidateCounts" [] (list CandidateCount.read)
  let withinRetention ← fieldOr json "withinRetention" 0 nat
  let skippedScopes ← fieldOr json "skippedScopes" [] (list Scope.read)
  let uncorrelated ← field json "uncorrelated" readKindCounts
  let anomalies ← field json "anomalies" (list Anomaly.read)
  let usage ← optional json "usage" Usage.read
  let drift ← optional json "drift" Drift.read
  let reason ← optional json "reason" text
  pure
    { cycle, generation, outcome, startedAt, finishedAt, sources, newConfirmed, resolved,
      newCandidates, evicted, healthyPairs, activeCandidates, confirmedOrphans, candidateCounts,
      withinRetention, skippedScopes, uncorrelated, anomalies, usage, drift, reason }

end OrphanWatch
