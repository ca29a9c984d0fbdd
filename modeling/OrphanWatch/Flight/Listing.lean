import OrphanWatch.Monitor
import OrphanWatch.Source.Script

/-!
The listing of one kind, while a scan is in flight.

A clock counts milliseconds. A listing is polled whenever something may have happened: it waits for the
delay of its script, plays the script, asks the source, waits for the delay of the source, and then has
the answer.
-/

namespace OrphanWatch

/-- All that scans in flight can touch. -/
structure Scene where
  /-- The time in milliseconds. -/
  clock : Nat
  monitor : Monitor
  cluster : ScriptedSource
  backend : ScriptedSource
  /-- Whether a script cancelled the scan that was asked for directly. -/
  signalled : Bool
  deriving DecidableEq, Repr

namespace Scene

def source (scene : Scene) : Side → ScriptedSource
  | .cluster => scene.cluster
  | .backend => scene.backend

def mapSource (scene : Scene) (side : Side) (change : ScriptedSource → ScriptedSource) : Scene :=
  match side with
  | .cluster => { scene with cluster := change scene.cluster }
  | .backend => { scene with backend := change scene.backend }

def engine (scene : Scene) : Engine :=
  scene.monitor.engine

def mapEngine (scene : Scene) (change : Engine → Engine) : Scene :=
  { scene with monitor := scene.monitor.mapEngine change }

/-- Another writer's empty findings, which follow the current ones. -/
def intruder (store : Store) : Batch :=
  ⟨store.generation + 1, .epoch, .empty, none⟩

def intrude (store : Store) : Store :=
  (store.commit (intruder store)).toOption.getD store

def perform (scene : Scene) (kind : Kind) : Scene :=
  let script := (scene.source kind.side).script kind
  let scene := scene.mapSource kind.side (·.rescript kind Script.performed)
  let scene :=
    if script.commitsBehind then
      scene.mapEngine fun engine => { engine with store := intrude engine.store }
    else scene
  if script.cancels then { scene with signalled := true } else scene

end Scene

structure Timer where
  /-- When the waiting began. -/
  since : Nat
  due : Nat
  deriving DecidableEq, Repr

inductive Listing where
  | fresh
  /-- Waits for the delay of the script. -/
  | held (timer : Timer)
  /-- Waits for the delay of the source. -/
  | waiting (timer : Timer)
  /-- The answer; `none` if the source cannot list the kind. -/
  | answered (records : Option (List Record))
  deriving DecidableEq, Repr

namespace Listing

/-- The answer of a source. That it cannot list the kind is an answer, too. -/
def ofAnswer : Except MonitorError (List Record) → Except MonitorError Listing
  | .ok records => .ok (answered (some records))
  | .error (.kindNotListed ..) => .ok (answered none)
  | .error error => .error error

def timer? : Listing → Option Timer
  | held timer | waiting timer => some timer
  | fresh | answered _ => none

end Listing

namespace Scene

def timer (scene : Scene) (delay : Nat) : Timer :=
  ⟨scene.clock, scene.clock + min delay longestWait⟩

def reply (scene : Scene) (kind : Kind) : Except MonitorError Listing :=
  Listing.ofAnswer ((scene.source kind.side).answer kind)

def ask (scene : Scene) (kind : Kind) : Scene × Except MonitorError Listing :=
  let scene := scene.perform kind
  let source := scene.source kind.side
  match (source.script kind).failure with
  | some error => (scene, Listing.ofAnswer (.error error))
  | none =>
    let scene := scene.mapSource kind.side fun source => { source with toSource := source.ask }
    if source.delay = 0 then (scene, scene.reply kind)
    else (scene, .ok (.waiting (scene.timer source.delay)))

def poll (scene : Scene) (kind : Kind) : Listing → Scene × Except MonitorError Listing
  | .fresh =>
    let delay := ((scene.source kind.side).script kind).delay
    if delay = 0 then scene.ask kind else (scene, .ok (.held (scene.timer delay)))
  | .held timer =>
    if timer.due ≤ scene.clock then scene.ask kind else (scene, .ok (.held timer))
  | .waiting timer =>
    if timer.due ≤ scene.clock then (scene, scene.reply kind) else (scene, .ok (.waiting timer))
  | .answered records => (scene, .ok (.answered records))

/-- Lets the listings of a side go on, one after another. The first failure is that of the side, and
those behind it are not polled. -/
def pollAll (scene : Scene) :
    List (Kind × Listing) → Scene × Except MonitorError (List (Kind × Listing))
  | [] => (scene, .ok [])
  | (kind, listing) :: rest =>
    match scene.poll kind listing with
    | (scene, .error error) => (scene, .error error)
    | (scene, .ok listing) =>
      let (scene, others) := scene.pollAll rest
      (scene, others.map ((kind, listing) :: ·))

end Scene

end OrphanWatch
