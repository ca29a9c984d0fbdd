import OrphanWatch.Proofs.Polling

/-!
# What a scan that is cancelled leaves behind

A flight takes turns with others, who do what they like in between: the clock moves, the flight is cancelled,
other scans begin and end, other writers commit. When it lands, either the engine is what the others made of it,
in its idle phase, and the flight was cancelled; or each follower got the report of the flight, once
(`Flight.leaves_no_trace_or_one_report`). A flight that is still fetching when it is cancelled does not report.

There is a gap. A fetch that is cancelled by what it waits for can be the one that ends the fetching, and if the
other fetch had failed before, nobody asks again (`Flight.degraded_although_cancelled`).
-/

namespace OrphanWatch

namespace Engine

/-- What the end of an attempt makes of an engine. Only a report of what failed gets out of an attempt that was
cancelled. -/
def Ends (engine after : Engine) (cancelled : Bool) : Except MonitorError CycleReport → Prop
  | .error error => error = .cancelled ∧ after = engine.setPhase .idle
  | .ok report =>
      after.inboxes = engine.inboxes.map (· ++ [.report report])
        ∧ after.store.lastReport = some report ∧ after.phase = .idle
        ∧ (cancelled = true →
          report.outcome = .degraded ∧ ∃ source ∈ report.sources, source.available = false)

/-- An attempt with a cancelled fetch is abandoned, whatever came of the other. -/
theorem conclude_of_cancelled (engine : Engine) (attempt : Attempt) {cluster backend : Fetch}
    (hfetch : cluster = .cancelled ∨ backend = .cancelled) (cancelled : Bool) (elapsed : Nat) :
    engine.conclude attempt cluster backend cancelled elapsed = engine.abandon := by
  rcases hfetch with rfl | rfl
  · rfl
  · cases cluster <;> rfl

theorem ends_abandon (engine : Engine) (cancelled : Bool) :
    engine.Ends engine.abandon.1 cancelled engine.abandon.2 :=
  ⟨rfl, rfl⟩

theorem ends_conclude (engine : Engine) (attempt : Attempt) (cluster backend : Fetch)
    (cancelled : Bool) (elapsed : Nat) :
    engine.Ends (engine.conclude attempt cluster backend cancelled elapsed).1 cancelled
      (engine.conclude attempt cluster backend cancelled elapsed).2 := by
  obtain ⟨-, hresult⟩ | ⟨⟨error, hfailed⟩, -, -, hresult⟩ |
    ⟨left, right, -, -, hnot, ⟨-, hresult⟩ | ⟨-, error, hresult⟩⟩ :=
    conclude_cases engine attempt cluster backend cancelled elapsed
  · rw [hresult]
    exact engine.ends_abandon cancelled
  · rw [hresult]
    refine ⟨rfl, rfl, rfl, fun _ => ⟨rfl, ?_⟩⟩
    rcases hfailed with rfl | rfl
    · exact ⟨_, List.mem_cons_self, rfl⟩
    · exact ⟨_, List.mem_cons_of_mem _ List.mem_cons_self, rfl⟩
  · rw [hresult, hnot]
    exact ⟨rfl, rfl, rfl, Bool.noConfusion⟩
  · rw [hresult, hnot]
    exact ⟨rfl, rfl, rfl, Bool.noConfusion⟩

/-- What others make of an engine in some turns of a flight. The numbers say how often another writer commits in
the middle of a poll. -/
def met (engine : Engine) (course : List (Turn × Nat)) : Engine :=
  course.foldl (fun engine entry => (entry.1.others engine).intruded entry.2) engine

theorem met_eq_self {engine : Engine} {course : List (Turn × Nat)}
    (hcourse : ∀ entry ∈ course, entry.1.others = id ∧ entry.2 = 0) : engine.met course = engine := by
  induction course with
  | nil => rfl
  | cons entry rest ih =>
      obtain ⟨⟨move, others⟩, commits⟩ := entry
      obtain ⟨hothers, hcommits⟩ := hcourse _ List.mem_cons_self
      cases hothers
      cases hcommits
      exact ih fun other hother => hcourse other (List.mem_cons_of_mem _ hother)

end Engine

namespace Progress

def report? : Progress → Option CycleReport
  | .landed (.ok report) => some report
  | .landed (.error _) => none
  | .flying _ => none

theorem eq_of_report? {progress : Progress} {report : CycleReport} (h : progress.report? = some report) :
    progress = .landed (.ok report) := by
  cases progress with
  | flying next => cases h
  | landed result =>
      cases result with
      | error error => cases h
      | ok other =>
          cases h
          rfl

end Progress

def Turn.IsQuiet (turn : Turn) : Prop :=
  ∀ scene : Scene, scene.IsQuiet → (turn.move scene).IsQuiet

namespace Flight

def taken (flight : Flight) (scene : Scene) : List Turn → List Turn
  | [] => []
  | turn :: rest =>
    match flight.poll (turn.apply scene) with
    | (polled, .flying next) => turn :: next.taken polled rest
    | (_, .landed _) => [turn]

theorem taken_prefix (flight : Flight) (scene : Scene) (turns : List Turn) :
    flight.taken scene turns <+: turns := by
  fun_induction taken flight scene turns with
  | case1 flight scene => exact List.prefix_rfl
  | case2 flight scene turn rest polled next hpoll ih => exact (List.prefix_cons_inj turn).2 ih
  | case3 flight scene turn rest polled result hpoll => exact List.prefix_append [turn] rest

def Leaves (flight : Flight) (engine : Engine) (after : Scene) : Progress → Prop
  | .flying next => after.engine = engine ∧ next.IsUnderWay ∧ next.origin = flight.origin
  | .landed result => engine.Ends after.engine (flight.isCancelled after) result

theorem isUnderWay_launch (scene : Scene) (origin : Origin) (now : Instant) :
    (launch scene origin now).2.IsUnderWay :=
  ⟨_, .inl rfl⟩

theorem isCancelled_congr {first second : Flight} (horigin : first.origin = second.origin) :
    first.isCancelled = second.isCancelled := by
  funext scene
  rw [isCancelled, isCancelled, horigin]

theorem isCancelled_mapEngine (flight : Flight) (scene : Scene) (change : Engine → Engine) :
    flight.isCancelled (scene.mapEngine change) = flight.isCancelled scene := by
  rw [isCancelled, isCancelled]
  cases flight.origin with
  | direct cancelAt => rfl
  | schedule => rfl

theorem Leaves.of_origin {first second : Flight} (horigin : first.origin = second.origin) {engine : Engine}
    {after : Scene} {progress : Progress} (h : first.Leaves engine after progress) :
    second.Leaves engine after progress := by
  cases progress with
  | flying next => exact ⟨h.1, h.2.1, h.2.2.trans horigin⟩
  | landed result =>
      rw [Leaves, isCancelled_congr horigin] at h
      exact h

/-- A flight that is cancelled while it fetches is abandoned as soon as it goes on. -/
theorem poll_of_isUnderWay {flight : Flight} {scene : Scene} (hway : flight.IsUnderWay)
    (hcancelled : flight.isCancelled scene = true) :
    flight.poll scene = (scene.mapEngine (·.setPhase .idle), .landed (.error .cancelled)) := by
  have hrunning : ∀ side listings,
      flight.pollSide scene side (.running listings) = (scene, .done .cancelled) :=
    fun side listings => if_pos hcancelled
  obtain ⟨cluster, hcluster⟩ := pollSide_of_isCancelled hcancelled .cluster flight.cluster
  obtain ⟨backend, hbackend⟩ := pollSide_of_isCancelled hcancelled .backend flight.backend
  have hfetch : cluster = .cancelled ∨ backend = .cancelled := by
    obtain ⟨listings, hlistings | hlistings⟩ := hway
    · rw [hlistings, hrunning] at hcluster
      cases hcluster
      exact .inl rfl
    · rw [hlistings, hrunning] at hbackend
      cases hbackend
      exact .inr rfl
  simp only [poll, pollSides, hcluster, hbackend]
  rw [Engine.conclude_of_cancelled _ _ hfetch]
  rfl

/-- A poll changes nothing until the flight lands, but other writers may commit meanwhile. -/
theorem leaves_poll (flight : Flight) (scene : Scene) :
    ∃ commits, flight.Leaves (scene.engine.intruded commits) (flight.poll scene).1 (flight.poll scene).2
      ∧ (scene.IsQuiet → commits = 0 ∧ (flight.poll scene).1.IsQuiet) := by
  obtain ⟨hpolled, horigin, -⟩ := flight.polled_pollSides scene
  obtain ⟨commits, hmonitor, hnone⟩ := hpolled.monitor
  have hengine : (flight.pollSides scene).1.engine = scene.engine.intruded commits := by
    rw [Scene.engine, hmonitor]
    rfl
  refine ⟨commits, ?_⟩
  rcases flight.poll_cases scene with ⟨cluster, backend, -, -, hpoll⟩ | ⟨hway, hpoll⟩
  · rw [hpoll]
    refine ⟨?_, fun hquiet => ⟨hnone hquiet, hpolled.quiet hquiet⟩⟩
    rw [Leaves, isCancelled_mapEngine, ← hengine]
    exact Engine.ends_conclude _ _ _ _ _ _
  · rw [hpoll]
    exact ⟨⟨hengine, hway, horigin⟩, fun hquiet => ⟨hnone hquiet, hpolled.quiet hquiet⟩⟩

/-- Whatever goes on around a flight, it leaves the engine as others have made it, or with its one report on top. -/
theorem leaves_fly {flight : Flight} (hway : flight.IsUnderWay) (scene : Scene) (turns : List Turn) :
    ∃ course : List (Turn × Nat), course.map (·.1) = flight.taken scene turns
      ∧ flight.Leaves (scene.engine.met course) (flight.fly scene turns).1 (flight.fly scene turns).2
      ∧ (scene.IsQuiet → (∀ turn ∈ turns, turn.IsQuiet) → ∀ entry ∈ course, entry.2 = 0) := by
  -- By induction on the turns: a flight that goes on hands the engine on as the others left it.
  induction turns generalizing flight scene with
  | nil =>
      refine ⟨[], rfl, ⟨rfl, hway, rfl⟩, fun _ _ entry hentry => ?_⟩
      cases hentry
  | cons turn rest ih =>
      obtain ⟨commits, hleaves, hquiet⟩ := flight.leaves_poll (turn.apply scene)
      have hfirst : scene.IsQuiet → (∀ other ∈ turn :: rest, other.IsQuiet) →
          (turn.apply scene).IsQuiet :=
        fun hscene hturns => hturns turn List.mem_cons_self scene hscene
      cases hpoll : flight.poll (turn.apply scene) with
      | mk polled progress =>
          rw [hpoll] at hleaves hquiet
          cases progress with
          | landed result =>
              rw [fly_cons_of_landed rest hpoll, taken, hpoll]
              refine ⟨[(turn, commits)], rfl, hleaves, fun hscene hturns entry hentry => ?_⟩
              rw [List.mem_singleton.1 hentry]
              exact (hquiet (hfirst hscene hturns)).1
          | flying next =>
              obtain ⟨hengine, hway', horigin⟩ := hleaves
              obtain ⟨course, hcourse, hleft, hnone⟩ := ih hway' polled
              rw [fly_cons_of_flying rest hpoll, taken, hpoll]
              refine ⟨(turn, commits) :: course, ?_, ?_, fun hscene hturns entry hentry => ?_⟩
              · exact congrArg (turn :: ·) hcourse
              · have hmet : polled.engine.met course = scene.engine.met ((turn, commits) :: course) := by
                  rw [hengine]
                  rfl
                rw [hmet] at hleft
                exact Leaves.of_origin horigin hleft
              · obtain ⟨hzero, hpolled⟩ := hquiet (hfirst hscene hturns)
                rcases List.mem_cons.1 hentry with rfl | hentry
                · exact hzero
                · exact hnone hpolled (fun other hother => hturns other (List.mem_cons_of_mem _ hother))
                    entry hentry

theorem fly_append_of_flying {flight next : Flight} {scene flown : Scene} {turns : List Turn}
    (hfly : flight.fly scene turns = (flown, .flying next)) (more : List Turn) :
    flight.fly scene (turns ++ more) = next.fly flown more := by
  induction turns generalizing flight scene with
  | nil =>
      cases hfly
      rfl
  | cons turn rest ih =>
      rw [List.cons_append]
      cases hpoll : flight.poll (turn.apply scene) with
      | mk polled progress =>
          cases progress with
          | landed result =>
              rw [fly_cons_of_landed rest hpoll] at hfly
              cases hfly
          | flying after =>
              rw [fly_cons_of_flying rest hpoll] at hfly
              rw [fly_cons_of_flying _ hpoll]
              exact ih hfly

/-- **A flight leaves no trace or one report**, whatever others do in the meantime, and whenever it is cancelled.
Its launch only counts. What it leaves when it lands is what its end makes of the engine that the others left.
If it is cancelled while it is still fetching, it leaves no trace, and none if it is cancelled later, but before
its findings are offered to the store, unless a side had failed. -/
theorem leaves_no_trace_or_one_report (scene : Scene) (origin : Origin) (now : Instant)
    (turns : List Turn) :
    let launched := launch scene origin now
    let flown := launched.2.fly launched.1 turns
    launched.1 = scene.mapEngine (fun engine =>
        { engine with attempts := engine.attempts + 1, phase := .fetchingBoth })
      ∧ (∃ course : List (Turn × Nat), course.map (·.1) = launched.2.taken launched.1 turns
        ∧ launched.2.Leaves (launched.1.engine.met course) flown.1 flown.2
        ∧ (scene.IsQuiet → (∀ turn ∈ turns, turn.IsQuiet) → ∀ entry ∈ course, entry.2 = 0))
      ∧ (∀ next turn, flown.2 = .flying next → next.isCancelled (turn.apply flown.1) = true →
        launched.2.fly launched.1 (turns ++ [turn]) =
          ((turn.apply flown.1).mapEngine (·.setPhase .idle), .landed (.error .cancelled)))
      ∧ ∀ (engine : Engine) (attempt : Attempt) (cluster backend : Fetch) (cancelled : Bool) (elapsed : Nat),
        engine.Ends (engine.conclude attempt cluster backend cancelled elapsed).1 cancelled
            (engine.conclude attempt cluster backend cancelled elapsed).2
          ∧ (cluster = .cancelled ∨ backend = .cancelled →
            engine.conclude attempt cluster backend cancelled elapsed = engine.abandon) := by
  intro launched flown
  have hway : launched.2.IsUnderWay := isUnderWay_launch scene origin now
  obtain ⟨course, hcourse, hleaves, hnone⟩ := leaves_fly hway launched.1 turns
  refine ⟨rfl, ⟨course, hcourse, hleaves, hnone⟩, fun next turn hflying hcancelled => ?_,
    fun engine attempt cluster backend cancelled elapsed => ?_⟩
  · have hflown : launched.2.fly launched.1 turns = (flown.1, .flying next) := by
      rw [← hflying]
    have hnext : flown.1.engine = launched.1.engine.met course ∧ next.IsUnderWay
        ∧ next.origin = launched.2.origin := by
      rw [hflying] at hleaves
      exact hleaves
    rw [fly_append_of_flying hflown]
    exact fly_cons_of_landed [] (poll_of_isUnderWay hnext.2.1 hcancelled)
  · exact ⟨engine.ends_conclude attempt cluster backend cancelled elapsed,
      fun hfetch => engine.conclude_of_cancelled attempt hfetch cancelled elapsed⟩

/-- The cluster is out of reach, and the backend takes a second for its volumes. Before it answers, it cancels
the scan that is waited for. -/
def outage : Scene where
  clock := 0
  monitor := ⟨(Engine.ofPolicy ⟨1, 0⟩ 0).addFollower, 1, false, false, 0, false⟩
  cluster := { ScriptedSource.empty .cluster "cluster" with failure := some "connection refused" }
  backend := (ScriptedSource.empty .backend "backend").rescript .backendVolume fun _ => ⟨1000, false, true, none⟩
  signalled := false

/-- A scan that is cancelled half a second later, when the cluster has failed, but the backend has not answered. -/
theorem no_trace_of_cancelled_outage :
    let launched := launch outage (.direct (some 500)) .epoch
    let flown := launched.2.fly launched.1 [.waitUntil 0]
    let landed := launched.2.fly launched.1 [.waitUntil 0, .waitUntil 500]
    (∃ course, launched.2.Leaves (launched.1.engine.met course) flown.1 flown.2 ∧ ∀ entry ∈ course, entry.2 = 0)
      ∧ (∃ next, flown.2 = .flying next ∧ next.isCancelled ((Turn.waitUntil 500).apply flown.1) = true)
      ∧ landed.2 = .landed (.error .cancelled)
      ∧ landed.1.engine = { outage.engine with attempts := 1 } := by
  intro launched flown landed
  have hquiet : outage.IsQuiet := by
    intro kind
    cases kind <;> rfl
  have hturns : ∀ turn ∈ [Turn.waitUntil 0], turn.IsQuiet := by
    intro turn hturn scene hscene
    rw [List.mem_singleton.1 hturn]
    exact hscene
  have hflown : ∃ next, flown.2 = .flying next
      ∧ next.isCancelled ((Turn.waitUntil 500).apply flown.1) = true := ⟨_, rfl, rfl⟩
  obtain ⟨-, ⟨course, -, hleaves, hnone⟩, hlanded, -⟩ :=
    leaves_no_trace_or_one_report outage (.direct (some 500)) .epoch [.waitUntil 0]
  obtain ⟨next, hflying, hcancelled⟩ := hflown
  have heq := hlanded next (.waitUntil 500) hflying hcancelled
  refine ⟨⟨course, hleaves, hnone hquiet hturns⟩, ⟨next, hflying, hcancelled⟩, congrArg (·.2) heq, ?_⟩
  rw [show landed.1 = _ from congrArg (·.1) heq]
  rfl

/-- A scan that is not cancelled otherwise reports what failed, although it was cancelled before the backend
had answered. -/
theorem degraded_although_cancelled :
    let launched := launch outage (.direct none) .epoch
    let flown := launched.2.fly launched.1 [.waitUntil 0]
    let woken := (Turn.waitUntil 1000).apply flown.1
    let landed := launched.2.fly launched.1 [.waitUntil 0, .waitUntil 1000]
    (∃ next error listings, flown.2 = .flying next ∧ next.cluster = .done (.failed error)
        ∧ next.backend = .running listings ∧ (.backendVolume, .held ⟨0, 1000⟩) ∈ listings
        ∧ next.isCancelled woken = false)
      ∧ (woken.perform .backendVolume).signalled = true
      ∧ ∃ report, landed.2 = .landed (.ok report) ∧ report.outcome = .degraded
        ∧ landed.1.engine.inboxes = [[.report report]] ∧ launched.2.isCancelled landed.1 = true := by
  intro launched flown woken landed
  have hreported : landed.2.report?.any (fun report =>
      decide (report.outcome = .degraded ∧ landed.1.engine.inboxes = [[.report report]])) = true := by
    decide +kernel
  obtain ⟨report, hreport, hlanded⟩ := (Option.any_eq_true _ _).1 hreported
  obtain ⟨hdegraded, hinboxes⟩ := of_decide_eq_true hlanded
  refine ⟨⟨_, _, _, rfl, rfl, rfl, List.mem_cons_self, rfl⟩, rfl, report, ?_, hdegraded, hinboxes, ?_⟩
  · exact Progress.eq_of_report? hreport
  · decide +kernel

end Flight

/-- **A direct scan of an idle timeline** does to its engine what the end of its flight does, and nothing else. -/
theorem Timeline.ends_runScanAt (timeline : Timeline) (hidle : timeline.tasks = [])
    (hquiet : timeline.scene.IsQuiet) (now : Instant) (cancelAfter : Option Nat) :
    let launched := Flight.launch { timeline.scene with signalled := false }
      (.direct (cancelAfter.map fun millis => (timeline.scene.timer millis).due)) now
    let scanned := timeline.runScanAt now cancelAfter
    (timeline.engine.begin now).1.Ends scanned.1.engine (launched.2.isCancelled scanned.1.scene) scanned.2 := by
  intro launched scanned
  obtain ⟨⟨clocks, hfly⟩, -⟩ := exists_fly_runScanAt timeline hidle hquiet now cancelAfter
  have hway : launched.2.IsUnderWay := Flight.isUnderWay_launch _ _ now
  have hwaits : ∀ turn ∈ clocks.map Turn.waitUntil, turn.IsQuiet ∧ turn.others = id := by
    intro turn hturn
    obtain ⟨clock, -, rfl⟩ := List.mem_map.1 hturn
    exact ⟨fun scene hscene => hscene, rfl⟩
  obtain ⟨course, hcourse, hleaves, hnone⟩ :=
    Flight.leaves_fly hway launched.1 (clocks.map Turn.waitUntil)
  have hmet : launched.1.engine.met course = launched.1.engine := by
    apply Engine.met_eq_self
    intro entry hentry
    have htaken : entry.1 ∈ course.map (·.1) := List.mem_map_of_mem hentry
    rw [hcourse] at htaken
    have hturn := (Flight.taken_prefix _ _ _).subset htaken
    exact ⟨(hwaits _ hturn).2, hnone hquiet (fun turn hturn => (hwaits turn hturn).1) entry hentry⟩
  rw [hfly, hmet] at hleaves
  exact hleaves

end OrphanWatch
