import OrphanWatch.Source.Basic

/-!
Scripted sources.

A script says what happens when a kind is listed, before the source itself is asked: a delay, then
another writer's commit, then the cancel signal, then a failure.
-/

namespace OrphanWatch

/-- What happens before a source is asked for a kind. -/
structure Script where
  /-- In milliseconds. -/
  delay : Nat
  /-- Whether another writer commits to the store. This happens once. -/
  commitsBehind : Bool
  /-- Whether the scan is cancelled. This happens once. -/
  cancels : Bool
  /-- The failure that takes the place of the source's answer. -/
  failure : Option MonitorError
  deriving DecidableEq, Repr

namespace Script

def empty : Script := ⟨0, false, false, none⟩

def performed (script : Script) : Script :=
  { script with commitsBehind := false, cancels := false }

end Script

structure ScriptedSource extends Source where
  scripts : SortedMap Kind Script
  deriving DecidableEq, Repr

namespace ScriptedSource

def empty (side : Side) (name : String) : ScriptedSource :=
  ⟨.empty side name, .empty⟩

def script (source : ScriptedSource) (kind : Kind) : Script :=
  (source.scripts.get? kind).getD .empty

def rescript (source : ScriptedSource) (kind : Kind) (change : Script → Script) : ScriptedSource :=
  { source with scripts := source.scripts.insert kind (change (source.script kind)) }

/-- A source whose first kind is scripted to fail is not healthy. -/
def isHealthy (source : ScriptedSource) : Bool :=
  source.toSource.isHealthy
    && source.side.kinds.head?.all fun kind => (source.script kind).failure.isNone

end ScriptedSource

end OrphanWatch
