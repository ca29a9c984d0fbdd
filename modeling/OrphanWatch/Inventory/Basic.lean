import OrphanWatch.Instant.Basic
import OrphanWatch.SortedMap

/-!
What an inventory lists.

Two systems are compared: the cluster, which asks for storage, and the backend, which holds it. Each
lists records of its own kinds. A kind belongs to a scope, and records of the two sides in one scope may
stand for the same thing.
-/

namespace OrphanWatch

inductive Side where
  | cluster
  | backend
  deriving DecidableEq, Repr, Ord

inductive Kind where
  | volume
  | volumeClaim
  | snapshot
  | backendVolume
  | backendSnapshot
  deriving DecidableEq, Repr, Ord

/-- The families of keys; keys of different scopes never match. -/
inductive Scope where
  | volume
  | snapshot
  | claim
  deriving DecidableEq, Repr, Ord

instance : Std.TransOrd Side where
  eq_swap := by intro a b; cases a <;> cases b <;> rfl
  isLE_trans := by intro a b c; cases a <;> cases b <;> cases c <;> decide

instance : Std.LawfulEqOrd Side where
  compare_self := by intro a; cases a <;> rfl
  eq_of_compare := by intro a b; cases a <;> cases b <;> decide

instance : Std.TransOrd Kind where
  eq_swap := by intro a b; cases a <;> cases b <;> rfl
  isLE_trans := by intro a b c; cases a <;> cases b <;> cases c <;> decide

instance : Std.LawfulEqOrd Kind where
  compare_self := by intro a; cases a <;> rfl
  eq_of_compare := by intro a b; cases a <;> cases b <;> decide

instance : Std.TransOrd Scope where
  eq_swap := by intro a b; cases a <;> cases b <;> rfl
  isLE_trans := by intro a b c; cases a <;> cases b <;> cases c <;> decide

instance : Std.LawfulEqOrd Scope where
  compare_self := by intro a; cases a <;> rfl
  eq_of_compare := by intro a b; cases a <;> cases b <;> decide

def Side.all : List Side := [cluster, backend]

def Kind.all : List Kind :=
  [volume, volumeClaim, snapshot, backendVolume, backendSnapshot]

def Scope.all : List Scope := [volume, snapshot, claim]

def Side.label : Side → String
  | cluster => "cluster"
  | backend => "backend"

def Scope.label : Scope → String
  | volume => "volume"
  | snapshot => "snapshot"
  | claim => "claim"

def Scope.ofLabel? : String → Option Scope
  | "volume" => some volume
  | "snapshot" => some snapshot
  | "claim" => some claim
  | _ => none

namespace Kind

def label : Kind → String
  | volume => "volume"
  | volumeClaim => "volume_claim"
  | snapshot => "snapshot"
  | backendVolume => "backend_volume"
  | backendSnapshot => "backend_snapshot"

def name : Kind → String
  | volume => "Volume"
  | volumeClaim => "VolumeClaim"
  | snapshot => "Snapshot"
  | backendVolume => "BackendVolume"
  | backendSnapshot => "BackendSnapshot"

def side : Kind → Side
  | volume | volumeClaim | snapshot => .cluster
  | backendVolume | backendSnapshot => .backend

/-- The scope of the kind's keys. Claims have no counterpart on the backend. -/
def scope : Kind → Scope
  | volume | backendVolume => .volume
  | snapshot | backendSnapshot => .snapshot
  | volumeClaim => .claim

end Kind

def Side.kinds : Side → List Kind
  | cluster => [.volume, .volumeClaim, .snapshot]
  | backend => [.backendVolume, .backendSnapshot]

theorem Side.mem_kinds_iff {side : Side} {kind : Kind} : kind ∈ side.kinds ↔ kind.side = side := by
  cases side <;> cases kind <;> decide

inductive Attribute where
  | volumeHandle
  | snapshotHandle
  | csiDriver
  | datasetPath
  | csiVolumeName
  | csiSnapshotName
  | boundVolume
  | claimRef
  | storageClass
  deriving DecidableEq, Repr

def Attribute.name : Attribute → String
  | volumeHandle => "volumeHandle"
  | snapshotHandle => "snapshotHandle"
  | csiDriver => "csiDriver"
  | datasetPath => "datasetPath"
  | csiVolumeName => "csiVolumeName"
  | csiSnapshotName => "csiSnapshotName"
  | boundVolume => "boundVolume"
  | claimRef => "claimRef"
  | storageClass => "storageClass"

structure Record where
  kind : Kind
  /-- How the side that lists it calls the object. -/
  nativeId : String
  /-- The key under which the object is known on both sides, as the source spells it. -/
  rawKey : Option String
  createdAt : Option Instant
  sizeBytes : Nat
  /-- The phase that the source reports. -/
  status : Option String
  attributes : SortedMap String String
  deriving DecidableEq, Repr

namespace Record

def named (kind : Kind) (nativeId : String) : Record :=
  ⟨kind, nativeId, none, none, 0, none, .empty⟩

def attribute? (record : Record) (attr : Attribute) : Option String :=
  record.attributes.get? attr.name

def withAttribute (record : Record) (attr : Attribute) (value : String) : Record :=
  { record with attributes := record.attributes.insert attr.name value }

def withAttribute? (record : Record) (attr : Attribute) (value : Option String) : Record :=
  match value with
  | some value => record.withAttribute attr value
  | none => record

/-- A claim in the phase `Bound` that names its volume. -/
def isBoundClaim (record : Record) : Bool :=
  record.kind == .volumeClaim && record.status == some "Bound"
    && (record.attribute? .boundVolume).any (· ≠ "")

end Record

end OrphanWatch
