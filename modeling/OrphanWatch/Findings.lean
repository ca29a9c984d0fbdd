import OrphanWatch.Report

/-!
The findings, generation by generation.

The store holds one snapshot. A batch replaces it as a whole, and only if its generation is the next
one; a batch that was made from an older snapshot is refused.
-/

namespace OrphanWatch

/-- The findings of one generation. -/
structure Snapshot where
  generation : Nat
  committedAt : Option Instant
  candidates : SortedMap Key Candidate
  usage : Option Usage
  deriving DecidableEq, Repr

namespace Snapshot

def initial : Snapshot := ⟨0, none, .empty, none⟩

def filter (snapshot : Snapshot) (side : Option OrphanSide) (state : Option CandidateState) :
    List Candidate :=
  snapshot.candidates.values.filter fun candidate =>
    side.all (candidate.side == ·) && state.all (candidate.state == ·)

def confirmed (snapshot : Snapshot) : List Candidate :=
  snapshot.filter none (some .confirmed)

def countInState (snapshot : Snapshot) (state : CandidateState) : Nat :=
  (snapshot.filter none (some state)).length

def activeCount (snapshot : Snapshot) : Nat :=
  (snapshot.candidates.values.filter (·.isActive)).length

end Snapshot

/-- The findings proposed for the next generation. -/
structure Batch where
  generation : Nat
  committedAt : Instant
  candidates : SortedMap Key Candidate
  usage : Option Usage
  deriving DecidableEq, Repr

def Batch.toSnapshot (batch : Batch) : Snapshot :=
  ⟨batch.generation, some batch.committedAt, batch.candidates, batch.usage⟩

structure Store where
  snapshot : Snapshot
  lastReport : Option CycleReport
  deriving DecidableEq, Repr

namespace Store

def initial : Store := ⟨.initial, none⟩

def generation (store : Store) : Nat :=
  store.snapshot.generation

def commit (store : Store) (batch : Batch) : Except MonitorError Store :=
  if batch.generation = store.generation + 1 then
    .ok { store with snapshot := batch.toSnapshot }
  else
    .error (.commitFailure
      ("batch generation " ++ toString batch.generation ++ " does not follow committed generation "
        ++ toString store.generation))

def recordReport (store : Store) (report : CycleReport) : Store :=
  { store with lastReport := some report }

end Store

end OrphanWatch
