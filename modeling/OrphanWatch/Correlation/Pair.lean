import OrphanWatch.Inventory.Basic

/-!
Pairs: what the two sides hold under one key.

A pair always has a record on at least one side, so its three shapes are its three verdicts.
-/

namespace OrphanWatch

/-- Which side alone holds a record that ought to be on both. -/
inductive OrphanSide where
  | clusterOnly
  | backendOnly
  deriving DecidableEq, Repr, Ord

instance : Std.TransOrd OrphanSide where
  eq_swap := by intro a b; cases a <;> cases b <;> rfl
  isLE_trans := by intro a b c; cases a <;> cases b <;> cases c <;> decide

instance : Std.LawfulEqOrd OrphanSide where
  compare_self := by intro a; cases a <;> rfl
  eq_of_compare := by intro a b; cases a <;> cases b <;> decide

namespace OrphanSide

def all : List OrphanSide := [clusterOnly, backendOnly]

def holder : OrphanSide → Side
  | clusterOnly => .cluster
  | backendOnly => .backend

def label : OrphanSide → String
  | clusterOnly => "cluster_only"
  | backendOnly => "backend_only"

def name : OrphanSide → String
  | clusterOnly => "clusterOnly"
  | backendOnly => "backendOnly"

end OrphanSide

inductive Pair where
  | healthy (cluster backend : Record)
  | clusterOnly (record : Record)
  | backendOnly (record : Record)
  deriving DecidableEq, Repr

namespace Pair

/-- Pairs the records that claim one key on the two sides. There is no pair if no record claims it, and
none if several of one side do. -/
def ofClaimants : List Record → List Record → Option Pair
  | [cluster], [backend] => some (healthy cluster backend)
  | [cluster], [] => some (clusterOnly cluster)
  | [], [backend] => some (backendOnly backend)
  | _, _ => none

def cluster? : Pair → Option Record
  | healthy cluster _ => some cluster
  | clusterOnly record => some record
  | backendOnly _ => none

def backend? : Pair → Option Record
  | healthy _ backend => some backend
  | clusterOnly _ => none
  | backendOnly record => some record

def isHealthy : Pair → Bool
  | healthy .. => true
  | _ => false

def orphan? : Pair → Option (OrphanSide × Record)
  | healthy .. => none
  | clusterOnly record => some (.clusterOnly, record)
  | backendOnly record => some (.backendOnly, record)

def verdict : Pair → String
  | healthy .. => "healthy"
  | clusterOnly _ => OrphanSide.clusterOnly.name
  | backendOnly _ => OrphanSide.backendOnly.name

theorem orphan?_eq_none_iff {pair : Pair} : pair.orphan? = none ↔ pair.isHealthy = true := by
  cases pair <;> simp [orphan?, isHealthy]

end Pair

end OrphanWatch
