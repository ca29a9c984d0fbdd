import OrphanWatch.Text.FormEncoding
import OrphanWatch.Timeline
import OrphanWatch.View

/-!
The web interface.

It shows the findings, the status and the usage, and it starts scans. Every route has one path, which is
matched as it is; a path that is no route is not found, and a method that the route does not have is not
allowed.
-/

namespace OrphanWatch.Api

open Json (ofFields ofNat ofOption optionalField)

def version : String := "0.2.0"

inductive Body where
  | json (value : Json)
  | text (value : String)
  deriving Repr

structure Response where
  status : Nat
  body : Body
  deriving Repr

def Response.ok (value : Json) : Response := ⟨200, .json value⟩

def Response.empty (status : Nat) : Response := ⟨status, .text ""⟩

def Response.refusal (status : Nat) (error message : String) : Response :=
  ⟨status, .json (ofFields [("error", .string error), ("message", .string message)])⟩

inductive Route where
  | findings
  | orphans
  | status
  | usage
  | scans
  | health
  | ready
  deriving DecidableEq, Repr

namespace Route

def ofPath? : String → Option Route
  | "/v1/findings" => some findings
  | "/v1/orphans" => some orphans
  | "/v1/status" => some status
  | "/v1/usage" => some usage
  | "/v1/scans" => some scans
  | "/health" => some health
  | "/ready" => some ready
  | _ => none

end Route

structure OrphanQuery where
  side : Option String
  state : Option String
  deriving DecidableEq, Repr

namespace OrphanQuery

def take (query : OrphanQuery) (field : String × String) : Except String OrphanQuery :=
  let duplicate := "Failed to deserialize query string: duplicate field "
  match field with
  | ("side", value) =>
    if query.side.isSome then .error (duplicate ++ "`side`")
    else .ok { query with side := some value }
  | ("state", value) =>
    if query.state.isSome then .error (duplicate ++ "`state`")
    else .ok { query with state := some value }
  | _ => .ok query

def ofText (query : String) : Except String OrphanQuery :=
  (Text.formFields query).foldlM take ⟨none, none⟩

end OrphanQuery

def findings (snapshot : Snapshot) : Response :=
  .ok snapshot.toJson

/-- The candidates of the given side and state. A bad side is reported before a bad state. -/
def filtered (snapshot : Snapshot) (query : OrphanQuery) : Response :=
  match query.side.mapM OrphanSide.parse with
  | .error message => .refusal 400 "invalid_side" message
  | .ok side =>
    match query.state.mapM CandidateState.parse with
    | .error message => .refusal 400 "invalid_state" message
    | .ok state => .ok (.array ((snapshot.filter side state).map Candidate.toJson))

def orphans (snapshot : Snapshot) (query : String) : Response :=
  match OrphanQuery.ofText query with
  | .error message => ⟨400, .text message⟩
  | .ok query => filtered snapshot query

def status (monitor : Monitor) : Response :=
  let engine := monitor.engine
  let snapshot := engine.store.snapshot
  .ok (ofFields
    ([("version", .string version), ("phase", .string engine.phase.name),
      ("generation", ofNat snapshot.generation),
      ("committedAt", ofOption Instant.toJson snapshot.committedAt),
      ("cyclesStarted", ofNat engine.attempts),
      ("scanIntervalSecs", ofNat (monitor.interval / 1000)),
      ("scanRunning", .bool monitor.inFlight), ("overruns", ofNat monitor.overruns),
      ("activeCandidates", ofNat snapshot.activeCount),
      ("confirmedOrphans", ofNat (snapshot.countInState .confirmed))]
      ++ optionalField "lastCycle" CycleReport.toJson engine.store.lastReport))

/-- The drift that belongs to an account: that of the last report, if it is the one that committed the
account. -/
def driftOf (usage : Usage) (lastReport : Option CycleReport) : Option Drift :=
  (lastReport.filter fun report =>
    report.outcome == .committed && report.generation == usage.generation).bind (·.drift)

/-- The usage of a snapshot, with the last report as it is when the snapshot was read before. -/
def usage (snapshot : Snapshot) (lastReport : Option CycleReport) : Response :=
  match snapshot.usage with
  | none => .refusal 404 "no_usage" "No scan has been committed yet"
  | some usage =>
    .ok (ofFields
      (("usage", usage.toJson) :: optionalField "drift" Drift.toJson (driftOf usage lastReport)))

def ready (health : SortedMap String Bool) : Response :=
  let ready := health.values.all id
  let body :=
    ofFields
      [("ready", .bool ready),
        ("sources", .object (health.toList.map fun (name, up) => (name, .bool up)))]
  ⟨if ready then 200 else 503, .json body⟩

def scanResponse : Except MonitorError Nat → Response
  | .ok cycle =>
    ⟨202, .json (ofFields [("cycleId", ofNat cycle), ("status", .string "started")])⟩
  | .error .scanInProgress =>
    .refusal 409 "scan_in_progress" MonitorError.scanInProgress.message
  | .error error =>
    if error.isTransient then .refusal 503 "scan_unavailable" error.message
    else .refusal 500 "internal_error" error.message

def view (timeline : Timeline) (query : String) : Route → Option Response
  | .findings => some (findings timeline.engine.store.snapshot)
  | .orphans => some (orphans timeline.engine.store.snapshot query)
  | .status => some (status timeline.monitor)
  | .usage => some (usage timeline.engine.store.snapshot timeline.engine.store.lastReport)
  | .health => some ⟨200, .text "ok"⟩
  | .ready => some (ready timeline.health)
  | .scans => none

def isSchemeChar (c : Char) : Bool :=
  c.isAlphanum || c == '+' || c == '-' || c == '.'

/-- An address without scheme and server, if it has them. The path of a bare server is `/`. -/
def localPart (address : List Char) : List Char :=
  match address.dropWhile isSchemeChar with
  | ':' :: '/' :: '/' :: rest =>
    match rest.dropWhile fun c => c != '/' && c != '?' && c != '#' with
    | '/' :: path => '/' :: path
    | query => '/' :: query
  | _ => address

def splitAddress (address : String) : String × String :=
  let address := String.ofList ((localPart address.toList).takeWhile (· != '#'))
  (Text.splitOnce '?' address).getD (address, "")

def startScan (timeline : Timeline) : Timeline × Response :=
  match timeline.trigger with
  | .ok (timeline, cycle) => (timeline, scanResponse (.ok cycle))
  | .error error => (timeline, scanResponse (.error error))

/-- Answers a request. Asking for the options is allowed everywhere, and `HEAD` is answered as `GET`
without a body. -/
def respond (timeline : Timeline) (method address : String) : Timeline × Response :=
  let (path, query) := splitAddress address
  if method = "OPTIONS" then (timeline, .empty 200)
  else
    match Route.ofPath? path with
    | none => (timeline, .empty 404)
    | some route =>
      match view timeline query route, method with
      | some response, "GET" => (timeline, response)
      | some response, "HEAD" => (timeline, .empty response.status)
      | none, "POST" => startScan timeline
      | _, _ => (timeline, .empty 405)

end OrphanWatch.Api
