import OrphanWatch.Flight.Listing

/-!
A scan in flight.

Both sides are fetched at the same time, each kind on its own. A side is done when all its kinds are
listed, when one of them fails, when its time is over, or when the scan is cancelled; cancelling is looked
at first, the deadline last. The scan is concluded when both sides are done.

The cluster goes first whenever both sides can go on. A runtime may let the sides take turns in going first; that
makes a difference only where the script of one side cancels the scan, and the other is polled at the same time.
-/

namespace OrphanWatch

inductive Fetching where
  | running (listings : List (Kind × Listing))
  | done (fetch : Fetch)
  deriving DecidableEq, Repr

namespace Fetching

def fresh (side : Side) : Fetching :=
  running (side.kinds.map fun kind => (kind, .fresh))

def listings : Fetching → List (Kind × Listing)
  | running listings => listings
  | done _ => []

def inventory? (listings : List (Kind × Listing)) : Option Inventory :=
  listings.foldr
    (fun entry rest =>
      match entry, rest with
      | (_, .answered (some records)), some inventory =>
        some { inventory with records := records ++ inventory.records }
      | (kind, .answered none), some inventory =>
        some { inventory with unlisted := kind :: inventory.unlisted }
      | _, _ => none)
    (some ⟨[], []⟩)

end Fetching

inductive Origin where
  /-- Someone who waits for it, and may have fixed a time at which it is cancelled. -/
  | direct (cancelAt : Option Nat)
  | schedule
  deriving DecidableEq, Repr

structure Flight where
  origin : Origin
  attempt : Attempt
  /-- When it began. -/
  since : Nat
  /-- When the sides have to be done. -/
  deadline : Nat
  cluster : Fetching
  backend : Fetching
  deriving DecidableEq, Repr

inductive Progress where
  | flying (flight : Flight)
  | landed (result : Except MonitorError CycleReport)

namespace Flight

def nanosPerMilli : Nat := 1000000

def launch (scene : Scene) (origin : Origin) (now : Instant) : Scene × Flight :=
  let (engine, attempt) := scene.engine.begin now
  (scene.mapEngine fun _ => engine,
    { origin, attempt
      since := scene.clock
      deadline := scene.clock + engine.config.fetchTimeout / nanosPerMilli
      cluster := .fresh .cluster
      backend := .fresh .backend })

def isCancelled (flight : Flight) (scene : Scene) : Bool :=
  match flight.origin with
  | .direct cancelAt => scene.signalled || cancelAt.any (· ≤ scene.clock)
  | .schedule => scene.monitor.stopped

def pollSide (flight : Flight) (scene : Scene) (side : Side) : Fetching → Scene × Fetching
  | .done fetch => (scene, .done fetch)
  | .running listings =>
    if flight.isCancelled scene then (scene, .done .cancelled)
    else
      match scene.pollAll listings with
      | (scene, .error error) => (scene, .done (.ofError side error))
      | (scene, .ok listings) =>
        match Fetching.inventory? listings with
        | some inventory => (scene, .done (.fetched inventory))
        | none =>
          if flight.deadline ≤ scene.clock then
            (scene, .done (.timedOut side scene.engine.config.fetchTimeout))
          else (scene, .running listings)

/-- Lets both sides go on, the cluster first. A cancellation that the cluster's listing brings about is noticed by
the backend at once, one that the backend's brings about is noticed by the cluster at the next poll. -/
def pollSides (flight : Flight) (scene : Scene) : Scene × Flight :=
  let (scene, cluster) := flight.pollSide scene .cluster flight.cluster
  let (scene, backend) := flight.pollSide scene .backend flight.backend
  (scene, { flight with cluster, backend })

def elapsed (flight : Flight) (scene : Scene) : Nat :=
  (scene.clock - flight.since) * nanosPerMilli

def poll (flight : Flight) (scene : Scene) : Scene × Progress :=
  let (scene, flight) := flight.pollSides scene
  match flight.cluster, flight.backend with
  | .done cluster, .done backend =>
    let (engine, result) :=
      scene.engine.conclude flight.attempt cluster backend (flight.isCancelled scene)
        (flight.elapsed scene)
    (scene.mapEngine fun _ => engine, .landed result)
  | _, _ => (scene, .flying flight)

def timers (flight : Flight) : List Timer :=
  let cancellation : List Timer :=
    match flight.origin with
    | .direct (some due) => [⟨flight.since, due⟩]
    | _ => []
  cancellation ++ [⟨flight.since, flight.deadline⟩]
    ++ (flight.cluster.listings ++ flight.backend.listings).filterMap fun entry => entry.2.timer?

end Flight

end OrphanWatch
