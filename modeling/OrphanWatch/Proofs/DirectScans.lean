import Mathlib.Data.List.Forall2
import OrphanWatch.Proofs.Flight
import OrphanWatch.Proofs.IncompleteScans

/-!
# Scans that are asked for one after another

Someone asks a timeline for scans; in between, time passes and the sources come to hold something else. Such a run
is a run of the engine, of the scans that its sources give (`Timeline.exists_scanAll_runRequests`). So what holds of
runs of an engine holds of the sources and their failures: a scan in which some kind fails to be listed leaves the
findings alone, and so does every other that is not committed (`Timeline.incomplete_requests_leave_no_trace`).
-/

namespace OrphanWatch

/-- A scan that is asked for, and what the sources hold by then. -/
structure Request where
  /-- How long to wait before, in milliseconds. -/
  pause : Nat
  cluster : ScriptedSource
  backend : ScriptedSource
  now : Instant
  cancelAfter : Option Nat

namespace Request

def place (request : Request) (scene : Scene) : Scene :=
  { scene with cluster := request.cluster, backend := request.backend }

def source (request : Request) : Side → ScriptedSource
  | .cluster => request.cluster
  | .backend => request.backend

def answer (request : Request) (kind : Kind) : Answer :=
  match ((request.source kind.side).script kind).failure with
  | some error => .error error
  | none => (request.source kind.side).answer kind

def IsQuiet (request : Request) : Prop :=
  ∀ kind : Kind, ((request.source kind.side).script kind).commitsBehind = false

structure IsMetBy (request : Request) (scan : Scan) : Prop where
  now : scan.now = request.now
  answer : scan.answer = request.answer

theorem source_place (request : Request) (scene : Scene) (side : Side) :
    (request.place scene).source side = request.source side := by
  cases side <;> rfl

theorem isQuiet_place {request : Request} (hquiet : request.IsQuiet) (scene : Scene) :
    (request.place scene).IsQuiet := by
  intro kind
  rw [Scene.script, source_place]
  exact hquiet kind

theorem answer_place (request : Request) (scene : Scene) : (request.place scene).answer = request.answer := by
  funext kind
  rw [Scene.answer, Scene.script, source_place]
  rfl

end Request

namespace Timeline

def runRequest (timeline : Timeline) (request : Request) : Timeline × Except MonitorError CycleReport :=
  let waited := timeline.advance request.pause
  { waited with scene := request.place waited.scene }.runScanAt request.now request.cancelAfter

def runRequests (timeline : Timeline) (requests : List Request) : Timeline :=
  requests.foldl (fun timeline request => (timeline.runRequest request).1) timeline

def requestResults (timeline : Timeline) : List Request → List (Except MonitorError CycleReport)
  | [] => []
  | request :: rest => (timeline.runRequest request).2 :: (timeline.runRequest request).1.requestResults rest

variable {timeline : Timeline}

/-- A run of requests starts from a timeline that was just created. -/
theorem idle_and_isFresh_of_create {config : EngineConfig} {interval : Nat} {cluster backend : ScriptedSource}
    {today : Instant} (hcreate : create config interval cluster backend today = .ok timeline) :
    timeline.tasks = [] ∧ timeline.engine.IsFresh := by
  simp only [create, bind, Except.bind] at hcreate
  split at hcreate
  · cases hcreate
  · next engine hengine =>
      split at hcreate
      · cases hcreate
      · next monitor hmonitor =>
          cases hcreate
          have hsame : monitor.engine = engine := by
            unfold Monitor.create at hmonitor
            split at hmonitor <;> cases hmonitor
            rfl
          refine ⟨rfl, ?_⟩
          rw [Timeline.engine, Scene.engine, hsame]
          exact Engine.isFresh_of_create hengine

/-- Without tasks, only the clock moves. -/
theorem advance_of_idle (hidle : timeline.tasks = []) (millis : Nat) :
    ∃ clock, timeline.advance millis = timeline.atClock clock := by
  rw [advance]
  split
  · exact ⟨timeline.clock, rfl⟩
  · rw [waitUntil, settle_of_idle hidle, nextDue?_of_idle hidle, Option.getD_none,
      if_neg (fun h => Nat.lt_irrefl _ h.2)]
    exact ⟨_, rfl⟩

/-- One request is one scan of the engine. -/
theorem exists_scan_runRequest (hidle : timeline.tasks = []) {request : Request} (hquiet : request.IsQuiet) :
    (∃ scan, request.IsMetBy scan ∧ timeline.engine.scan scan =
        ((timeline.runRequest request).1.engine, (timeline.runRequest request).2))
      ∧ (timeline.runRequest request).1.tasks = [] := by
  obtain ⟨clock, hadvance⟩ := advance_of_idle hidle request.pause
  let placed : Timeline :=
    { timeline.atClock clock with scene := request.place (timeline.atClock clock).scene }
  have hrun : timeline.runRequest request = placed.runScanAt request.now request.cancelAfter := by
    rw [runRequest, hadvance]
  obtain ⟨⟨scan, hnow, hanswer, hscan⟩, htasks, -⟩ := runScanAt_eq_scan placed hidle
    (Request.isQuiet_place hquiet _) request.now request.cancelAfter
  rw [Request.answer_place] at hanswer
  rw [hrun]
  exact ⟨⟨scan, ⟨hnow, hanswer⟩, hscan⟩, htasks⟩

/-- **Requests one after another are a run of the engine.** -/
theorem exists_scanAll_runRequests (hidle : timeline.tasks = []) {requests : List Request}
    (hquiet : ∀ request ∈ requests, request.IsQuiet) :
    (∃ scans, List.Forall₂ Request.IsMetBy requests scans
        ∧ timeline.engine.scanAll scans = (timeline.runRequests requests).engine
        ∧ timeline.engine.results scans = timeline.requestResults requests)
      ∧ (timeline.runRequests requests).tasks = [] := by
  induction requests generalizing timeline with
  | nil => exact ⟨⟨[], .nil, rfl, rfl⟩, hidle⟩
  | cons request rest ih =>
      obtain ⟨⟨scan, hmet, hscan⟩, hidle'⟩ :=
        exists_scan_runRequest hidle (hquiet request List.mem_cons_self)
      obtain ⟨⟨scans, hscans, hall, hresults⟩, htasks⟩ :=
        ih hidle' fun later hlater => hquiet later (List.mem_cons_of_mem _ hlater)
      refine ⟨⟨scan :: scans, .cons hmet hscans, ?_, ?_⟩, htasks⟩
      · rw [Engine.scanAll_cons, hscan]
        exact hall
      · rw [Engine.results, hscan, requestResults, hresults]

/-- **Requests that are not served in full leave no trace in the findings.** The findings are those of the scans that
committed, and the generation is their number. -/
theorem incomplete_requests_leave_no_trace (hidle : timeline.tasks = []) (hfresh : timeline.engine.IsFresh)
    {requests : List Request} (hquiet : ∀ request ∈ requests, request.IsQuiet) :
    (∀ before request after, requests = before ++ request :: after →
      let prior := timeline.runRequests before
      let next := (prior.runRequest request).1
      let result := (prior.runRequest request).2
      (∀ report, result = .ok report → report.cycle = before.length + 1 ∧ report.outcome ≠ .commitFailed)
        ∧ ((∃ kind, (request.answer kind).fails = true) → isInterrupted result = true)
        ∧ (isInterrupted result = true → next.engine.store.snapshot = prior.engine.store.snapshot)
        ∧ (isInterrupted result = false →
          isCommitted result = true ∧ next.engine.store.generation = prior.engine.store.generation + 1))
      ∧ (∃ scans, List.Forall₂ Request.IsMetBy requests scans
        ∧ (timeline.runRequests requests).engine.store.snapshot =
          (timeline.engine.scanAll (timeline.engine.uninterrupted scans)).store.snapshot)
      ∧ (timeline.runRequests requests).engine.store.generation =
        ((timeline.requestResults requests).filter isCommitted).length
      ∧ (timeline.runRequests requests).engine.attempts = requests.length := by
  constructor
  · rintro before request after rfl
    intro prior next result
    have hbefore : ∀ earlier ∈ before, earlier.IsQuiet :=
      fun earlier hmem => hquiet earlier (List.mem_append_left _ hmem)
    obtain ⟨⟨scans, hscans, hall, -⟩, hidle'⟩ := exists_scanAll_runRequests hidle hbefore
    obtain ⟨⟨scan, hmet, hscan⟩, -⟩ := exists_scan_runRequest hidle'
      (hquiet request (List.mem_append_right _ List.mem_cons_self))
    have hattempts : prior.engine.attempts = before.length := by
      rw [← hall, (Engine.scanAll_settings timeline.engine scans).2.2, hfresh.unused, Nat.zero_add,
        hscans.length_eq]
    have hcommitted : isCommitted result = scan.inventories?.isSome
        ∧ isInterrupted result = scan.inventories?.isNone := by
      have hends := Engine.isCommitted_scan prior.engine scan
      rw [hscan] at hends
      exact hends
    have hsnapshot : next.engine.store.snapshot =
        prior.engine.store.snapshot.after prior.engine.policy prior.engine.retention scan := by
      have hafter := Engine.snapshot_scan prior.engine scan
      rw [hscan] at hafter
      exact hafter
    refine ⟨fun report hresult => ?_, fun hfails => ?_, fun hinterrupted => ?_, fun hcomplete => ?_⟩
    · have hreport : (prior.engine.scan scan).2 = .ok report := by rw [hscan]; exact hresult
      obtain ⟨hcycle, houtcome⟩ := Engine.report_of_scan hreport
      exact ⟨by rw [hcycle, hattempts], houtcome⟩
    · have hincomplete : scan.IsIncomplete := .inl (hmet.answer ▸ hfails)
      rw [hcommitted.2, Scan.inventories?_eq_none_of_isIncomplete hincomplete]
      rfl
    · rw [hcommitted.2, Option.isNone_iff_eq_none] at hinterrupted
      rw [hsnapshot, Snapshot.after, hinterrupted]
    · rw [hcommitted.2, Option.isNone_eq_false_iff] at hcomplete
      refine ⟨hcommitted.1.trans hcomplete, ?_⟩
      obtain ⟨inventories, hinventories⟩ := Option.isSome_iff_exists.1 hcomplete
      rw [Store.generation, hsnapshot, Snapshot.after, hinventories]
      rfl
  · obtain ⟨⟨scans, hscans, hall, hresults⟩, -⟩ := exists_scanAll_runRequests hidle hquiet
    refine ⟨⟨scans, hscans, ?_⟩, ?_, ?_⟩
    · rw [← hall, Engine.snapshot_scanAll, Engine.snapshot_scanAll, Engine.uninterrupted_eq_filter,
        Engine.foldl_after_filter]
    · rw [← hall, ← hresults, Engine.generation_scanAll, Store.generation, hfresh.empty]
      exact Nat.zero_add _
    · rw [← hall, (Engine.scanAll_settings timeline.engine scans).2.2, hfresh.unused, Nat.zero_add,
        hscans.length_eq]

end Timeline

end OrphanWatch
