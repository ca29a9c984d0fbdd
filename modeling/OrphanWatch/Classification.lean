import OrphanWatch.Findings

/-!
Classification: carrying the candidates from one scan to the next.

The candidates go through four passes: expired ones are evicted, every pair is applied, the keys of
bound claims are settled, and what is found nowhere any more is resolved as vanished.
-/

namespace OrphanWatch

structure Round where
  /-- The generation that the scan makes. -/
  generation : Nat
  now : Instant
  policy : Policy
  /-- The age below which a backend snapshot is left alone, in nanoseconds. -/
  retention : Int
  deriving DecidableEq, Repr

def Round.withholds (round : Round) (record : Record) : Bool :=
  record.kind == .backendSnapshot
    && record.createdAt.any fun created => decide (round.now.since created < round.retention)

structure Classification where
  candidates : SortedMap Key Candidate
  newCandidates : Nat
  newConfirmed : List Candidate
  resolved : List Candidate
  evicted : Nat
  withinRetention : Nat
  deriving DecidableEq, Repr

namespace Classification

def evict (round : Round) (candidates : SortedMap Key Candidate) : Classification :=
  let kept := candidates.filter fun _ candidate => !candidate.isExpired round.generation
  { candidates := kept
    newCandidates := 0
    newConfirmed := []
    resolved := []
    evicted := candidates.size - kept.size
    withinRetention := 0 }

def resolveAt (round : Round) (resolution : Resolution) (state : Classification) (key : Key) :
    Classification :=
  match state.candidates.get? key with
  | some candidate =>
    match candidate.resolve resolution round.generation round.now with
    | (ended, .resolved) =>
      { state with
        candidates := state.candidates.insert key ended
        resolved := state.resolved ++ [ended] }
    | _ => state
  | none => state

/-- Stores a candidate that was just observed, and notes whether that confirmed it. -/
def store (state : Classification) (key : Key) (observed : Candidate × Transition) :
    Classification :=
  { state with
    candidates := state.candidates.insert key observed.1
    newConfirmed :=
      if observed.2 = .confirmed then state.newConfirmed ++ [observed.1] else state.newConfirmed }

def continuing? (state : Classification) (key : Key) (side : OrphanSide) : Option Candidate :=
  (state.candidates.get? key).filter fun candidate => candidate.isActive && candidate.side == side

/-- Follows a key that one side alone holds: goes on with its candidate or starts a new one. -/
def followOrphan (round : Round) (state : Classification) (key : Key) (side : OrphanSide)
    (record : Record) : Classification :=
  if side = .backendOnly ∧ round.withholds record = true then
    { state with withinRetention := state.withinRetention + 1 }
  else
    match state.continuing? key side with
    | some candidate =>
      state.store key (candidate.observe record round.generation round.now round.policy)
    | none =>
      let fresh := Candidate.start key side record round.generation round.now
      let started := state.store key (fresh.evaluate round.now round.policy)
      { started with newCandidates := started.newCandidates + 1 }

def applyPair (round : Round) (state : Classification) (entry : Key × Pair) : Classification :=
  match entry.2.orphan? with
  | none => state.resolveAt round .matched entry.1
  | some (side, record) => state.followOrphan round entry.1 side record

def isGone (correlation : Correlation) (skipped : List Scope) (key : Key) : Bool :=
  !correlation.pairs.contains key && !correlation.excludedKeys.contains key
    && !skipped.contains key.scope

/-- The candidates after a scan that found `correlation`, with the scopes `skipped` left out. -/
def run (round : Round) (skipped : List Scope) (correlation : Correlation)
    (candidates : SortedMap Key Candidate) : Classification :=
  let paired := correlation.pairs.toList.foldl (applyPair round) (evict round candidates)
  let settled := correlation.settled.keys.foldl (resolveAt round .matched) paired
  (settled.candidates.keys.filter (isGone correlation skipped)).foldl
    (resolveAt round .vanished) settled

end Classification

end OrphanWatch
