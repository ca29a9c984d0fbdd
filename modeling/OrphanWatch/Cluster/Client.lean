import OrphanWatch.Cluster.Records
import OrphanWatch.Cluster.Schema
import OrphanWatch.Error
import OrphanWatch.Web

/-!
The client of the cluster.
-/

namespace OrphanWatch.Cluster

structure Refusal where
  code : Nat
  message : String
  deriving DecidableEq, Repr

namespace Refusal

def ofStatus? (status : Json) : Option Refusal := do
  let _ ← status.field? "status"
  let code ← (status.field? "code").bind Json.asNat
  some ⟨code, ((status.field? "message").bind Json.asString).getD ""⟩

def fieldNames : List (List Nat) :=
  ["status", "message", "reason", "code"].map fun name => name.toList.map Char.toNat

/-- A status may be written as an array of its fields. -/
def named : Json.Written → Json.Written
  | .array [status, message, reason, code] =>
    .object (fieldNames.zip [status, message, reason, code])
  | written => written

def ofBody? (body : String) : Option Refusal := do
  ofStatus? (← Shape.refusal.read Json.maxDepth (named (← Json.Written.parse body)))

def ofReply (reply : Web.Reply) : Refusal :=
  (ofBody? reply.body).getD ⟨reply.status, Text.quoted reply.body⟩

def toError (_ : Refusal) : MonitorError :=
  .clusterRequest

/-- The failure of listing snapshots. A cluster that does not know their type cannot list them, which
says nothing about those of the backend. -/
def toSnapshotError (refusal : Refusal) : MonitorError :=
  if refusal.code = 404 then
    .kindNotListed .snapshot ("VolumeSnapshotContent API not served: " ++ refusal.message)
  else refusal.toError

end Refusal

namespace Client

def sourceName : String := "kubernetes"

def claimsPath : Option String → String
  | some space => "/api/v1/namespaces/" ++ space ++ "/persistentvolumeclaims"
  | none => "/api/v1/persistentvolumeclaims"

def request (path : String) : Except MonitorError Web.Request :=
  match Web.path? (path ++ "?") with
  | some path => .ok ⟨path, none, none⟩
  | none => .error .clusterRequest

def listRequest (config : ClusterConfig) : Kind → Except MonitorError Web.Request
  | .volume => request "/api/v1/persistentvolumes"
  | .volumeClaim => request (claimsPath config.space)
  | .snapshot =>
    if config.includeSnapshots then
      request "/apis/snapshot.storage.k8s.io/v1/volumesnapshotcontents"
    else .error (.kindNotListed .snapshot "snapshot listing disabled")
  | kind => .error (.internal ("kubernetes cannot list backend kind " ++ kind.label))

def healthRequest : Except MonitorError Web.Request :=
  request "/version"

def items? (list : Json) : Option (List Json) := do
  let _ ← list.field? "metadata"
  match ← list.field? "items" with
  | .null => some []
  | items => items.asArray

def objects? {α : Type} (shape : Shape) (decode : Json → Option α) (body : String) :
    Option (List α) := do
  (← items? (← (Shape.listOf shape).parse body)).mapM decode

def objects {α : Type} (shape : Shape) (decode : Json → Option α)
    (refused : Refusal → MonitorError) : Option Web.Reply → Except MonitorError (List α)
  | none => .error .clusterRequest
  | some reply =>
    if reply.isError then .error (refused (.ofReply reply))
    else
      match objects? shape decode reply.body with
      | some objects => .ok objects
      | none => .error .clusterRequest

def records (config : ClusterConfig) (kind : Kind) (reply : Option Web.Reply) :
    Except MonitorError (List Record) :=
  match kind with
  | .volume =>
    (objects .persistentVolume PersistentVolume.ofJson? Refusal.toError reply).map fun volumes =>
      volumes.filterMap (·.record? config)
  | .volumeClaim =>
    (objects .persistentVolumeClaim PersistentVolumeClaim.ofJson? Refusal.toError reply).map
      fun claims => claims.map (·.record)
  | .snapshot =>
    (objects .snapshotContent SnapshotContent.ofJson? Refusal.toSnapshotError reply).map
      fun contents => contents.filterMap (·.record? config)
  | kind => .error (.internal ("kubernetes cannot list backend kind " ++ kind.label))

def isVersion (body : String) : Bool :=
  (Shape.version.parse body).isSome

def isHealthy : Option Web.Reply → Bool
  | none => false
  | some reply => !reply.isError && isVersion reply.body

end Client

end OrphanWatch.Cluster
