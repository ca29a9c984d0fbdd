import OrphanWatch.Error

/-!
Sources that hold their records in memory.
-/

namespace OrphanWatch

/-- The longest time that anything is waited for, in milliseconds: thirty years of 365 days. -/
def longestWait : Nat := 30 * 365 * 24 * 3600 * 1000

structure Source where
  side : Side
  name : String
  records : List Record
  /-- Why the source cannot be reached, if it cannot. -/
  failure : Option String
  /-- The time that every answer is delayed, in milliseconds. -/
  delay : Nat
  /-- The kinds that the source cannot list. -/
  unlisted : List Kind
  /-- The number of times that the source was asked for a kind. -/
  calls : Nat
  deriving DecidableEq, Repr

namespace Source

def empty (side : Side) (name : String) : Source :=
  ⟨side, name, [], none, 0, [], 0⟩

def push (source : Source) (record : Record) : Source :=
  { source with records := source.records ++ [record] }

def unlist (source : Source) (kind : Kind) : Source :=
  { source with unlisted := kind :: source.unlisted }

def relist (source : Source) (kind : Kind) : Source :=
  { source with unlisted := source.unlisted.filter (· != kind) }

def ask (source : Source) : Source :=
  { source with calls := source.calls + 1 }

def answerTime (source : Source) : Nat :=
  min source.delay longestWait

def answer (source : Source) (kind : Kind) : Except MonitorError (List Record) :=
  match source.failure with
  | some cause => .error (.sourceUnavailable source.side cause)
  | none =>
    if source.unlisted.contains kind then
      .error (.kindNotListed kind (source.name ++ " does not serve this kind"))
    else .ok (source.records.filter (·.kind == kind))

def isHealthy (source : Source) : Bool :=
  source.failure.isNone

end Source

end OrphanWatch
