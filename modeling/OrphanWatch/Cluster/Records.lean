import OrphanWatch.Cluster.Objects
import OrphanWatch.Inventory.Naming
import OrphanWatch.Quantity

/-!
Records of the cluster, made from its objects.
-/

namespace OrphanWatch

structure ClusterConfig where
  /-- The only namespace whose claims are listed. -/
  space : Option String
  /-- The drivers whose volumes are monitored. -/
  drivers : List String
  includeSnapshots : Bool
  deriving DecidableEq, Repr

namespace ClusterConfig

def standard : ClusterConfig := ⟨none, Naming.drivers, true⟩

def monitors (config : ClusterConfig) (driver : String) : Bool :=
  config.drivers.contains driver

end ClusterConfig

namespace Cluster

def storageBytes (resources : Option (SortedMap String String)) : Nat :=
  match resources.bind (·.get? "storage") with
  | none => 0
  | some amount =>
    match Quantity.parse amount with
    | .ok bytes => bytes
    | .error _ => 0

def PersistentVolume.record? (config : ClusterConfig) (volume : PersistentVolume) :
    Option Record := do
  let spec ← volume.spec
  let source ← spec.source
  if config.monitors source.driver then
    let record : Record :=
      { Record.named .volume volume.metadata.anyName with
        sizeBytes := storageBytes spec.capacity
        createdAt := volume.metadata.createdAt
        status := volume.phase }
    let record := record.withAttribute .csiDriver source.driver
    let record := record.withAttribute .volumeHandle source.volumeHandle
    some (Naming.keyed (record.withAttribute? .claimRef (spec.claim.map (·.text))))
  else none

def PersistentVolumeClaim.record (claim : PersistentVolumeClaim) : Record :=
  let nativeId := claim.metadata.space.getD "" ++ "/" ++ claim.metadata.anyName
  let record : Record :=
    { Record.named .volumeClaim nativeId with
      sizeBytes := storageBytes (claim.spec.bind (·.requests))
      createdAt := claim.metadata.createdAt
      status := claim.phase }
  let record := record.withAttribute? .boundVolume (claim.spec.bind (·.volumeName))
  Naming.keyed (record.withAttribute? .storageClass (claim.spec.bind (·.storageClass)))

namespace SnapshotContent

/-- The handle of a snapshot: the one in the status if there is such a field, else the one in the
source. -/
def handle? (content : SnapshotContent) : Option String :=
  let inStatus := (content.data.field? "status").bind (·.field? "snapshotHandle")
  let inSource :=
    ((content.data.field? "spec").bind (·.field? "source")).bind (·.field? "snapshotHandle")
  (inStatus <|> inSource).bind Json.asString

def record? (config : ClusterConfig) (content : SnapshotContent) : Option Record := do
  let spec ← content.data.field? "spec"
  let driver ← (spec.field? "driver").bind Json.asString
  if config.monitors driver then
    let inStatus (name : String) := (content.data.field? "status").bind (·.field? name)
    let record : Record :=
      { Record.named .snapshot content.metadata.anyName with
        sizeBytes := ((inStatus "restoreSize").bind Json.asNat).getD 0
        createdAt := content.metadata.createdAt
        status :=
          ((inStatus "readyToUse").bind Json.asBool).map fun ready =>
            if ready then "ready" else "pending" }
    let record := record.withAttribute .csiDriver driver
    some (Naming.keyed (record.withAttribute? .snapshotHandle content.handle?))
  else none

end SnapshotContent

end Cluster

end OrphanWatch
