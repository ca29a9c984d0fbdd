import OrphanWatch.Correlation.Pair
import OrphanWatch.Key

/-!
Candidates: keys found on one side only, followed from scan to scan.

A candidate is confirmed as an orphan when it was observed often enough and for long enough
(`Policy.isMetBy`). It is resolved when both sides hold its key, or neither does, and a resolved
candidate stays for one more scan (`Candidate.isExpired`).
-/

namespace OrphanWatch

inductive CandidateState where
  | candidate
  | confirmed
  | resolved
  deriving DecidableEq, Repr, Ord

instance : Std.TransOrd CandidateState where
  eq_swap := by intro a b; cases a <;> cases b <;> rfl
  isLE_trans := by intro a b c; cases a <;> cases b <;> cases c <;> decide

instance : Std.LawfulEqOrd CandidateState where
  compare_self := by intro a; cases a <;> rfl
  eq_of_compare := by intro a b; cases a <;> cases b <;> decide

namespace CandidateState

def all : List CandidateState := [candidate, confirmed, resolved]

def label : CandidateState → String
  | candidate => "candidate"
  | confirmed => "confirmed"
  | resolved => "resolved"

def parse (text : String) : Except String CandidateState :=
  match Text.lowercase text with
  | "candidate" => .ok candidate
  | "confirmed" => .ok confirmed
  | "resolved" => .ok resolved
  | _ => .error ("Invalid candidate state: " ++ text)

end CandidateState

/-- Reads a side, in any case, with hyphens for underscores or with neither. -/
def OrphanSide.parse (text : String) : Except String OrphanSide :=
  let plain := (Text.lowercase text).map fun c => if c = '-' then '_' else c
  match plain with
  | "cluster_only" | "clusteronly" | "cluster" => .ok clusterOnly
  | "backend_only" | "backendonly" | "backend" => .ok backendOnly
  | _ => .error ("Invalid orphan side: " ++ text)

inductive Resolution where
  /-- Both sides hold the key. -/
  | matched
  /-- Neither side holds the key. -/
  | vanished
  deriving DecidableEq, Repr

def Resolution.name : Resolution → String
  | matched => "matched"
  | vanished => "vanished"

inductive Transition where
  | created
  | advanced
  | confirmed
  | resolved
  | unchanged
  deriving DecidableEq, Repr

/-- A key that only one side holds. -/
structure Candidate where
  key : Key
  side : OrphanSide
  kind : Kind
  nativeId : String
  sizeBytes : Nat
  firstObservedAt : Instant
  lastObservedAt : Instant
  /-- The number of scans in a row that saw the key on this side only. -/
  observations : Nat
  state : CandidateState
  /-- The generation that last changed the candidate. -/
  lastGeneration : Nat
  confirmedAt : Option Instant
  resolvedAt : Option Instant
  resolution : Option Resolution
  deriving DecidableEq, Repr

structure Policy where
  /-- The least number of observations in a row. -/
  observations : Nat
  /-- The least time since the first observation, in nanoseconds. -/
  minAge : Int
  deriving DecidableEq, Repr

namespace Candidate

def maxObservations : Nat := 0xffffffff

def age (candidate : Candidate) (now : Instant) : Int :=
  now.since candidate.firstObservedAt

def isActive (candidate : Candidate) : Bool :=
  candidate.state != .resolved

def isConfirmed (candidate : Candidate) : Bool :=
  candidate.state == .confirmed

def isExpired (candidate : Candidate) (generation : Nat) : Bool :=
  candidate.state == .resolved && candidate.lastGeneration < generation

end Candidate

namespace Policy

def standard : Policy := ⟨3, Span.ofSeconds 86400⟩

def isMetBy (policy : Policy) (candidate : Candidate) (now : Instant) : Bool :=
  policy.observations ≤ candidate.observations && policy.minAge ≤ candidate.age now

end Policy

namespace Candidate

def start (key : Key) (side : OrphanSide) (record : Record) (generation : Nat) (now : Instant) :
    Candidate :=
  { key, side
    kind := record.kind
    nativeId := record.nativeId
    sizeBytes := record.sizeBytes
    firstObservedAt := now
    lastObservedAt := now
    observations := 1
    state := .candidate
    lastGeneration := generation
    confirmedAt := none
    resolvedAt := none
    resolution := none }

def evaluate (candidate : Candidate) (now : Instant) (policy : Policy) : Candidate × Transition :=
  if candidate.state = .candidate ∧ policy.isMetBy candidate now = true then
    ({ candidate with state := .confirmed, confirmedAt := some now }, .confirmed)
  else (candidate, .advanced)

/-- Counts one more scan in which the key was on this side only. -/
def recount (candidate : Candidate) (record : Record) (generation : Nat) (now : Instant) :
    Candidate :=
  { candidate with
    observations := min (candidate.observations + 1) maxObservations
    lastObservedAt := now
    lastGeneration := generation
    nativeId := record.nativeId
    sizeBytes := record.sizeBytes }

def observe (candidate : Candidate) (record : Record) (generation : Nat) (now : Instant)
    (policy : Policy) : Candidate × Transition :=
  (candidate.recount record generation now).evaluate now policy

def resolve (candidate : Candidate) (resolution : Resolution) (generation : Nat) (now : Instant) :
    Candidate × Transition :=
  if candidate.state = .resolved then (candidate, .unchanged)
  else
    ({ candidate with
        state := .resolved
        resolution := some resolution
        resolvedAt := some now
        lastGeneration := generation }, .resolved)

end Candidate

end OrphanWatch
