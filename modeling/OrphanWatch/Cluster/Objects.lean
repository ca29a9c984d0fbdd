import OrphanWatch.Instant.Rfc3339
import OrphanWatch.Json.Basic

/-!
Objects of the cluster, as far as the monitor reads them.

A field that is missing or `null` has no value; a field of another type than the expected one makes the
whole object unreadable.
-/

namespace OrphanWatch.Cluster

/-- The value of a field that may be missing or `null`; the outer option says whether the field is
readable. -/
def optional {α : Type} (decode : Json → Option α) (object : Json) (name : String) :
    Option (Option α) :=
  match object.field? name with
  | none | some .null => some none
  | some value => (decode value).map some

def asObject : Json → Option Json
  | .object fields => some (.object fields)
  | _ => none

def asInstant (value : Json) : Option Instant :=
  value.asString.bind Instant.ofText

def asTextField (field : String × Json) : Option (String × String) :=
  field.2.asString.map fun text => (field.1, text)

def asTexts : Json → Option (SortedMap String String)
  | .object fields => (fields.mapM asTextField).map SortedMap.ofList
  | _ => none

def admits (object : Json) (name text : String) : Bool :=
  match object.field? name with
  | none => true
  | some value => value.asString == some text

structure Metadata where
  name : Option String
  generateName : Option String
  space : Option String
  createdAt : Option Instant
  deriving DecidableEq, Repr

namespace Metadata

def ofJson? (json : Json) : Option Metadata := do
  let json ← asObject json
  let name ← optional Json.asString json "name"
  let generateName ← optional Json.asString json "generateName"
  let space ← optional Json.asString json "namespace"
  let createdAt ← optional asInstant json "creationTimestamp"
  let _ ← optional asTexts json "labels"
  let _ ← optional asTexts json "annotations"
  some { name, generateName, space, createdAt }

def empty : Metadata := ⟨none, none, none, none⟩

def anyName (metadata : Metadata) : String :=
  (metadata.name <|> metadata.generateName).getD ""

end Metadata

structure DriverSource where
  driver : String
  volumeHandle : String
  deriving DecidableEq, Repr

def DriverSource.ofJson? (json : Json) : Option DriverSource := do
  let json ← asObject json
  let driver ← optional Json.asString json "driver"
  let volumeHandle ← optional Json.asString json "volumeHandle"
  some ⟨driver.getD "", volumeHandle.getD ""⟩

structure ClaimReference where
  space : Option String
  name : Option String
  deriving DecidableEq, Repr

namespace ClaimReference

def ofJson? (json : Json) : Option ClaimReference := do
  let json ← asObject json
  let space ← optional Json.asString json "namespace"
  let name ← optional Json.asString json "name"
  some ⟨space, name⟩

def text (reference : ClaimReference) : String :=
  reference.space.getD "" ++ "/" ++ reference.name.getD ""

end ClaimReference

structure VolumeSpec where
  capacity : Option (SortedMap String String)
  source : Option DriverSource
  claim : Option ClaimReference
  deriving DecidableEq, Repr

def VolumeSpec.ofJson? (json : Json) : Option VolumeSpec := do
  let json ← asObject json
  let capacity ← optional asTexts json "capacity"
  let source ← optional DriverSource.ofJson? json "csi"
  let claim ← optional ClaimReference.ofJson? json "claimRef"
  some { capacity, source, claim }

def phaseOf? (json : Json) : Option (Option String) := do
  let json ← asObject json
  optional Json.asString json "phase"

structure PersistentVolume where
  metadata : Metadata
  spec : Option VolumeSpec
  phase : Option String
  deriving DecidableEq, Repr

def PersistentVolume.ofJson? (json : Json) : Option PersistentVolume := do
  let json ← asObject json
  if admits json "apiVersion" "v1" && admits json "kind" "PersistentVolume" then
    let metadata ← optional Metadata.ofJson? json "metadata"
    let spec ← optional VolumeSpec.ofJson? json "spec"
    let phase ← optional phaseOf? json "status"
    some ⟨metadata.getD .empty, spec, phase.getD none⟩
  else none

structure ClaimSpec where
  requests : Option (SortedMap String String)
  volumeName : Option String
  storageClass : Option String
  deriving DecidableEq, Repr

def requestsOf? (json : Json) : Option (Option (SortedMap String String)) := do
  let json ← asObject json
  optional asTexts json "requests"

def ClaimSpec.ofJson? (json : Json) : Option ClaimSpec := do
  let json ← asObject json
  let requests ← optional requestsOf? json "resources"
  let volumeName ← optional Json.asString json "volumeName"
  let storageClass ← optional Json.asString json "storageClassName"
  some { requests := requests.getD none, volumeName, storageClass }

structure PersistentVolumeClaim where
  metadata : Metadata
  spec : Option ClaimSpec
  phase : Option String
  deriving DecidableEq, Repr

def PersistentVolumeClaim.ofJson? (json : Json) : Option PersistentVolumeClaim := do
  let json ← asObject json
  if admits json "apiVersion" "v1" && admits json "kind" "PersistentVolumeClaim" then
    let metadata ← optional Metadata.ofJson? json "metadata"
    let spec ← optional ClaimSpec.ofJson? json "spec"
    let phase ← optional phaseOf? json "status"
    some ⟨metadata.getD .empty, spec, phase.getD none⟩
  else none

/-- A snapshot's content. Beside its metadata it is kept as it is, for its type is not built in. -/
structure SnapshotContent where
  metadata : Metadata
  data : Json
  deriving Repr

def SnapshotContent.ofJson? (json : Json) : Option SnapshotContent := do
  let json ← asObject json
  match json.field? "metadata" with
  | none => some ⟨.empty, json⟩
  | some metadata => (Metadata.ofJson? metadata).map fun metadata => ⟨metadata, json⟩

end OrphanWatch.Cluster
