import OrphanWatch.Binary64.Shortest
import OrphanWatch.Candidate
import OrphanWatch.Text.Numeral
import OrphanWatch.Total

/-!
How much storage the two sides hold.

`Usage.measure` accounts for the inventories of one committed generation; `Drift.between` is the change
from one account to the next. Bytes are added up in 64 bits: a sum that does not fit wraps around.
-/

namespace OrphanWatch

structure Usage where
  generation : Nat
  measuredAt : Instant
  volumeCount : Nat
  claimCount : Nat
  snapshotCount : Nat
  backendVolumeCount : Nat
  backendSnapshotCount : Nat
  /-- The capacity of the volumes. -/
  provisionedBytes : Nat
  /-- The capacity that claims ask for. -/
  requestedBytes : Nat
  backendUsedBytes : Nat
  backendSnapshotBytes : Nat
  /-- What confirmed orphans of the cluster hold. -/
  clusterOrphanedBytes : Nat
  /-- What confirmed orphans of the backend hold. -/
  backendOrphanedBytes : Nat
  /-- The share of the requested capacity that the backend does not use yet. -/
  thinProvisioningEfficiencyPercent : Binary64
  recommendations : List String
  deriving DecidableEq, Repr

namespace Usage

def gibibyte : Nat := 1024 * 1024 * 1024

def largeClaimBytes : Nat := 100 * gibibyte

def gibibytes (bytes : Nat) : String :=
  (Binary64.ofNat bytes / Binary64.ofNat gibibyte).tenths

def countOf (kind : Kind) (records : List Record) : Nat :=
  (records.filter (·.kind == kind)).length

def sizesOf (kind : Kind) (records : List Record) : List Nat :=
  (records.filter (·.kind == kind)).map (·.sizeBytes)

def bytesOf (kind : Kind) (records : List Record) : Nat :=
  wrappedTotal (sizesOf kind records)

/-- Whether the candidate is a confirmed orphan that holds storage. A claim that is not bound holds
none. -/
def holdsStorage (candidate : Candidate) : Bool :=
  candidate.isConfirmed && candidate.kind != .volumeClaim

def orphanedBytesOn (side : OrphanSide) (candidates : List Candidate) : Nat :=
  wrappedTotal ((candidates.filter fun c => holdsStorage c && c.side == side).map (·.sizeBytes))

/-- The share of `requested` that `used` leaves, in percent; zero if nothing is requested. -/
def efficiency (requested used : Nat) : Binary64 :=
  if requested = 0 then .zero
  else
    (Binary64.ofNat requested - Binary64.ofNat used) / Binary64.ofNat requested * Binary64.ofNat 100

def largeClaims (records : List Record) : List Record :=
  (records.filter fun r => r.kind == .volumeClaim && largeClaimBytes < r.sizeBytes).mergeSort
    fun a b => decide (a.nativeId ≤ b.nativeId)

def claimAdvice (claim : Record) : String :=
  "Consider reviewing large claim: " ++ claim.nativeId ++ " (" ++ gibibytes claim.sizeBytes
    ++ "GiB)"

def surplusAdvice (volumes claims : Nat) : List String :=
  if claims < volumes then
    ["Found " ++ toString (volumes - claims) ++ " potentially unused backend volumes"]
  else []

def orphanAdvice (bytes : Nat) : List String :=
  if 0 < bytes then [gibibytes bytes ++ "GiB held by confirmed backend orphans"] else []

def measure (generation : Nat) (measuredAt : Instant) (cluster backend : List Record)
    (candidates : List Candidate) : Usage :=
  let records := cluster ++ backend
  let requested := bytesOf .volumeClaim records
  let used := bytesOf .backendVolume records
  let backendOrphaned := orphanedBytesOn .backendOnly candidates
  { generation, measuredAt
    volumeCount := countOf .volume records
    claimCount := countOf .volumeClaim records
    snapshotCount := countOf .snapshot records
    backendVolumeCount := countOf .backendVolume records
    backendSnapshotCount := countOf .backendSnapshot records
    provisionedBytes := bytesOf .volume records
    requestedBytes := requested
    backendUsedBytes := used
    backendSnapshotBytes := bytesOf .backendSnapshot records
    clusterOrphanedBytes := orphanedBytesOn .clusterOnly candidates
    backendOrphanedBytes := backendOrphaned
    thinProvisioningEfficiencyPercent := efficiency requested used
    recommendations :=
      (largeClaims records).map claimAdvice
        ++ surplusAdvice (countOf .backendVolume records) (countOf .volumeClaim records)
        ++ orphanAdvice backendOrphaned }

def orphanedBytes (usage : Usage) : Nat :=
  (usage.clusterOrphanedBytes + usage.backendOrphanedBytes) % Text.wordSize

end Usage

structure Drift where
  fromGeneration : Nat
  toGeneration : Nat
  elapsedSeconds : Int
  provisionedBytesDelta : Int
  requestedBytesDelta : Int
  backendUsedBytesDelta : Int
  backendSnapshotBytesDelta : Int
  orphanedBytesDelta : Int
  backendUsedBytesPerHour : Binary64
  deriving DecidableEq, Repr

namespace Drift

/-- The difference of two amounts as a 64-bit number with sign, which wraps around. -/
def delta (previous current : Nat) : Int :=
  ((current : Int) - previous).bmod Text.wordSize

/-- A change extrapolated to one hour; zero unless time went on. -/
def perHour (change seconds : Int) : Binary64 :=
  if 0 < seconds then
    Binary64.ofInt change * Binary64.ofNat 3600 / Binary64.ofInt seconds
  else .zero

def between (previous current : Usage) : Drift :=
  let elapsed := Span.seconds (current.measuredAt.since previous.measuredAt)
  let change := delta previous.backendUsedBytes current.backendUsedBytes
  { fromGeneration := previous.generation
    toGeneration := current.generation
    elapsedSeconds := elapsed
    provisionedBytesDelta := delta previous.provisionedBytes current.provisionedBytes
    requestedBytesDelta := delta previous.requestedBytes current.requestedBytes
    backendUsedBytesDelta := change
    backendSnapshotBytesDelta := delta previous.backendSnapshotBytes current.backendSnapshotBytes
    orphanedBytesDelta := delta previous.orphanedBytes current.orphanedBytes
    backendUsedBytesPerHour := perHour change elapsed }

def isGrowing (drift : Drift) : Bool :=
  0 < drift.backendUsedBytesDelta

end Drift

end OrphanWatch
