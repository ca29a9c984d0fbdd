import OrphanWatch.Correlation.Pair
import OrphanWatch.Key
import OrphanWatch.Total

/-!
Correlation: matching the inventories of the two sides by key.

Every record is placed: it cannot be matched, it is settled on its own, or it claims a key
(`Placement.of`). A key that one record at most claims on each side becomes a pair; a key that several
records of one side claim is a collision and has no pair. The result does not depend on the order in
which the records are listed.
-/

namespace OrphanWatch

inductive Placement where
  /-- The record has no usable key, or belongs to the other side. -/
  | unmatchable
  /-- A bound claim, which is healthy without a counterpart. -/
  | settled (key : Key)
  | claims (key : Key)
  deriving DecidableEq, Repr

namespace Placement

def of (side : Side) (record : Record) : Placement :=
  if record.kind.side = side then
    match Key.ofRecord? record with
    | some key => if record.isBoundClaim then settled key else claims key
    | none => unmatchable
  else unmatchable

def isUnmatchable : Placement → Bool
  | unmatchable => true
  | _ => false

def isSettled : Placement → Bool
  | settled _ => true
  | _ => false

def settledKey? : Placement → Option Key
  | settled key => some key
  | _ => none

def claimedKey? : Placement → Option Key
  | claims key => some key
  | _ => none

end Placement

structure KeyCollision where
  key : Key
  side : Side
  /-- In ascending order. -/
  nativeIds : List String
  deriving DecidableEq, Repr

def KeyCollision.toError (collision : KeyCollision) : MonitorError :=
  .keyCollision collision.key.display collision.side collision.nativeIds

/-- The records by the keys that they claim, each group in the order of the listing. -/
def claimants (side : Side) (records : List Record) : SortedMap Key (List Record) :=
  records.foldl
    (fun groups record =>
      match (Placement.of side record).claimedKey? with
      | some key => groups.adjust key fun group => group.getD [] ++ [record]
      | none => groups)
    .empty

def sortedTexts (texts : List String) : List String :=
  texts.mergeSort fun a b => decide (a ≤ b)

structure Correlation where
  pairs : SortedMap Key Pair
  /-- How many records of a kind should have a key and have none. -/
  unmatchable : SortedMap Kind Nat
  /-- How many records of a kind are healthy without a counterpart. -/
  uncorrelated : SortedMap Kind Nat
  /-- The keys of bound claims. -/
  settled : SortedMap Key Unit
  /-- By key, then by side. -/
  collisions : List KeyCollision
  deriving DecidableEq, Repr

namespace Correlation

def countKinds (records : List Record) : SortedMap Kind Nat :=
  records.foldl (fun counts record => counts.adjust record.kind fun count => count.getD 0 + 1) .empty

def collisionUnder (side : Side) (groups : SortedMap Key (List Record)) (key : Key) :
    Option KeyCollision :=
  match groups.get? key with
  | some (first :: second :: rest) =>
    some ⟨key, side, sortedTexts ((first :: second :: rest).map (·.nativeId))⟩
  | _ => none

def of (cluster backend : List Record) : Correlation :=
  let clusterGroups := claimants .cluster cluster
  let backendGroups := claimants .backend backend
  let keys := (SortedMap.ofKeys (clusterGroups.keys ++ backendGroups.keys) fun _ => some ()).keys
  let placed := cluster.map (fun record => (Placement.of .cluster record, record))
    ++ backend.map (fun record => (Placement.of .backend record, record))
  { pairs := SortedMap.ofKeys keys fun key =>
      Pair.ofClaimants ((clusterGroups.get? key).getD []) ((backendGroups.get? key).getD [])
    unmatchable := countKinds ((placed.filter (·.1.isUnmatchable)).map (·.2))
    uncorrelated := countKinds ((placed.filter (·.1.isSettled)).map (·.2))
    settled := SortedMap.ofKeys (placed.filterMap (·.1.settledKey?)) fun _ => some ()
    collisions := keys.flatMap fun key =>
      (collisionUnder .cluster clusterGroups key).toList
        ++ (collisionUnder .backend backendGroups key).toList }

/-- The keys that a scan leaves alone because of collisions. -/
def excludedKeys (correlation : Correlation) : SortedMap Key Unit :=
  SortedMap.ofKeys (correlation.collisions.map (·.key)) fun _ => some ()

def healthyCount (correlation : Correlation) : Nat :=
  (correlation.pairs.values.filter (·.isHealthy)).length

def discrepancies (correlation : Correlation) : SortedMap Key Pair :=
  correlation.pairs.filter fun _ pair => !pair.isHealthy

def unmatchableTotal (correlation : Correlation) : Nat :=
  total correlation.unmatchable.values

end Correlation

end OrphanWatch
