import Mathlib.Data.List.Perm.Basic
import OrphanWatch.Proofs.Polling
import OrphanWatch.Proofs.Schedule

/-!
# Timelines as runs of their schedules

Whatever goes on in a timeline while its schedule is at work is a run of the schedule, step by step: what holds
of a schedule in whatever order the steps come (`Schedule.single_flight`) holds of every timeline in which
nobody else scans or commits (`Timeline.Runs`).

The order in which a timeline lets its tasks go on does not matter here. It is enough that no task is lost and
none comes up twice (`Timeline.perm_ready`).
-/

namespace OrphanWatch

def Task.attempt? : Task → Option (Option Attempt)
  | ticker _ => none
  | scan flight => some (flight.map (·.attempt))

def Task.attempts (tasks : List Task) : List (Option Attempt) :=
  tasks.filterMap Task.attempt?

/-- A scene with some tasks is where the schedule has got to. Who may wait for a scan is of no account. -/
structure Schedule.Matches (schedule : Schedule) (scene : Scene) (tasks : List Task) : Prop where
  quiet : scene.IsQuiet
  monitor : ∃ awaitable, scene.monitor = { schedule.monitor with awaitable }
  jobs : (Task.attempts tasks).Perm (schedule.jobs.map (·.attempt))

def Timeline.Runs (start : Schedule) (timeline : Timeline) : Prop :=
  ∃ actions, (start.run actions).Matches timeline.scene timeline.tasks

theorem Schedule.run_append (schedule : Schedule) (first second : List Schedule.Action) :
    schedule.run (first ++ second) = (schedule.run first).run second :=
  List.foldl_append

namespace Schedule.Matches

variable {schedule : Schedule} {scene : Scene} {tasks : List Task}

theorem of_attempts (h : schedule.Matches scene tasks) {others : List Task}
    (hperm : (Task.attempts others).Perm (Task.attempts tasks)) : schedule.Matches scene others :=
  ⟨h.quiet, h.monitor, hperm.trans h.jobs⟩

theorem engine_eq (h : schedule.Matches scene tasks) : scene.engine = schedule.monitor.engine := by
  obtain ⟨awaitable, hmonitor⟩ := h.monitor
  rw [Scene.engine, hmonitor]

/-- The first of the tasks is the job at some place, and the others are the other jobs. -/
theorem exists_place {attempt : Option Attempt} {attempts : List (Option Attempt)} {jobs : List Job}
    (hperm : (attempt :: attempts).Perm (jobs.map (·.attempt))) :
    ∃ place number, jobs[place]? = some ⟨number, attempt⟩
      ∧ attempts.Perm ((jobs.eraseIdx place).map (·.attempt)) := by
  obtain ⟨⟨number, begun⟩, hjob, rfl⟩ := List.mem_map.1 (hperm.mem_iff.1 List.mem_cons_self)
  obtain ⟨place, hplace, hget⟩ := List.getElem_of_mem hjob
  have hjobs : ((⟨number, begun⟩ : Job) :: jobs.eraseIdx place).Perm jobs := by
    rw [← hget]
    exact List.getElem_cons_eraseIdx_perm hplace
  refine ⟨place, number, ?_, ?_⟩
  · rw [List.getElem?_eq_getElem hplace, hget]
  · exact (hperm.trans (hjobs.map (·.attempt)).symm).cons_inv

/-- A scan of the schedule that takes off is a job that begins. -/
theorem begin (h : schedule.Matches scene (.scan none :: tasks)) (now : Instant) :
    ∃ place, (schedule.begin place now).Matches (Flight.launch scene .schedule now).1
      (.scan (some (Flight.launch scene .schedule now).2) :: tasks) := by
  obtain ⟨place, number, hplace, hothers⟩ := exists_place h.jobs
  obtain ⟨awaitable, hmonitor⟩ := h.monitor
  have hbound : place < schedule.jobs.length := (List.getElem?_eq_some_iff.1 hplace).1
  refine ⟨place, ?_⟩
  rw [begin_of_waiting hplace]
  refine ⟨h.quiet, ⟨awaitable, ?_⟩, ?_⟩
  · simp only [Flight.launch, Scene.mapEngine, Scene.engine, Monitor.mapEngine, hmonitor]
    rfl
  · have hset := (List.set_perm_cons_eraseIdx hbound
      ⟨number, some (schedule.monitor.engine.begin now).2⟩).map (·.attempt)
    refine List.Perm.trans ?_ hset.symm
    have hattempt : (Flight.launch scene .schedule now).2.attempt =
        (schedule.monitor.engine.begin now).2 := by
      rw [← h.engine_eq]
      rfl
    simp only [Task.attempts, List.filterMap_cons, Task.attempt?, Option.map_some, hattempt, List.map_cons]
    exact hothers.cons _

/-- A scan that is polled goes on or lands, and then its job is finished. -/
theorem poll {flight : Flight} (h : schedule.Matches scene (.scan (some flight) :: tasks)) :
    (∃ polled next, flight.poll scene = (polled, .flying next)
      ∧ schedule.Matches polled (.scan (some next) :: tasks))
    ∨ ∃ landed result action, flight.poll scene = (landed, .landed result)
      ∧ (schedule.act action).Matches { landed with monitor := landed.monitor.land } tasks := by
  obtain ⟨hpolled, -, hattempt⟩ := flight.polled_pollSides scene
  have hquiet := hpolled.quiet h.quiet
  have hsame := hpolled.monitor_eq h.quiet
  obtain ⟨awaitable, hmonitor⟩ := h.monitor
  rcases flight.poll_cases scene with ⟨cluster, backend, -, -, hpoll⟩ | ⟨-, hpoll⟩
  · obtain ⟨place, number, hplace, hothers⟩ := exists_place h.jobs
    let polled := (flight.pollSides scene).1
    refine .inr ⟨_, _, .finish place cluster backend (flight.isCancelled polled) (flight.elapsed polled),
      hpoll, ?_⟩
    rw [act, finish_of_flying hplace]
    have hengine : polled.engine = schedule.monitor.engine := by
      rw [← h.engine_eq, Scene.engine, Scene.engine, hsame]
    refine ⟨hquiet, ⟨awaitable, ?_⟩, hothers⟩
    simp only [Scene.mapEngine, Monitor.mapEngine, Monitor.land, hsame, hmonitor]
    rw [hengine]
    rfl
  · refine .inl ⟨_, _, hpoll, hquiet, ⟨awaitable, hsame.trans hmonitor⟩, ?_⟩
    have hjobs := h.jobs
    simp only [Task.attempts, List.filterMap_cons, Task.attempt?, Option.map_some, hattempt] at hjobs ⊢
    exact hjobs

theorem stopped_eq (h : schedule.Matches scene tasks) : scene.monitor.stopped = schedule.monitor.stopped := by
  obtain ⟨awaitable, hmonitor⟩ := h.monitor
  rw [hmonitor]

theorem inFlight_eq (h : schedule.Matches scene tasks) :
    scene.monitor.inFlight = schedule.monitor.inFlight := by
  obtain ⟨awaitable, hmonitor⟩ := h.monitor
  rw [hmonitor]

theorem launch (h : schedule.Matches scene tasks) (event : Event) :
    (schedule.launch event).Matches
      { scene with monitor := { scene.monitor with inFlight := true, awaitable := true } }
      (tasks ++ [.scan none]) := by
  obtain ⟨awaitable, hmonitor⟩ := h.monitor
  refine ⟨h.quiet, ⟨true, ?_⟩, ?_⟩
  · rw [hmonitor]
    rfl
  · have hjobs := h.jobs.append_right [none]
    rw [Task.attempts, List.filterMap_append]
    rw [Task.attempts] at hjobs
    simpa [Schedule.launch, spawn, withMonitor, log, Task.attempt?] using hjobs

theorem tick (h : schedule.Matches scene tasks) (now : Instant) :
    (∃ monitor number, scene.monitor.tick now = (monitor, .started number)
      ∧ (schedule.tick now).Matches { scene with monitor } (tasks ++ [.scan none]))
    ∨ ∃ monitor tick, scene.monitor.tick now = (monitor, tick) ∧ (∀ number, tick ≠ .started number)
      ∧ (schedule.tick now).Matches { scene with monitor } tasks := by
  obtain ⟨awaitable, hmonitor⟩ := h.monitor
  cases hstopped : schedule.monitor.stopped with
  | true =>
      have hstopped' := h.stopped_eq.trans hstopped
      refine .inr ⟨scene.monitor, .ignored, ?_, fun number => Tick.noConfusion, ?_⟩
      · simp only [Monitor.tick, Monitor.trigger_of_stopped hstopped']
      · rw [tick_of_stopped hstopped]
        exact ⟨h.quiet, h.monitor, h.jobs⟩
  | false =>
      have hstopped' := h.stopped_eq.trans hstopped
      cases hflying : schedule.monitor.inFlight with
      | true =>
          have hflying' := h.inFlight_eq.trans hflying
          refine .inr ⟨(scene.monitor.recordOverrun now).1, .dropped (scene.monitor.recordOverrun now).2, ?_,
            fun number => Tick.noConfusion, ?_⟩
          · simp only [Monitor.tick, Monitor.trigger_of_inFlight hstopped' hflying']
          · rw [tick_of_inFlight hstopped hflying]
            refine ⟨h.quiet, ⟨awaitable, ?_⟩, h.jobs⟩
            rw [hmonitor]
            rfl
      | false =>
          have hflying' := h.inFlight_eq.trans hflying
          refine .inl ⟨{ scene.monitor with inFlight := true, awaitable := true },
            scene.monitor.engine.attempts + 1, ?_, ?_⟩
          · simp only [Monitor.tick, Monitor.trigger_of_idle hstopped' hflying']
          · rw [tick_of_idle hstopped hflying]
            exact h.launch _

end Schedule.Matches

/-! ### Tasks -/

namespace Timeline

variable {schedule : Schedule} {timeline : Timeline} {pending : List Task}

theorem exists_run_ticker {timer : Option Timer}
    (h : schedule.Matches timeline.scene (.ticker timer :: (pending ++ timeline.tasks))) :
    ∃ actions, (schedule.run actions).Matches timeline.runTicker.scene
      (pending ++ timeline.runTicker.tasks) := by
  have hothers : schedule.Matches timeline.scene (pending ++ timeline.tasks) :=
    ⟨h.quiet, h.monitor, h.jobs⟩
  unfold runTicker
  split
  · obtain ⟨awaitable, hmonitor⟩ := h.monitor
    refine ⟨[], hothers.quiet, ⟨false, ?_⟩, hothers.jobs⟩
    exact congrArg (fun monitor : Monitor => { monitor with awaitable := false }) hmonitor
  · refine ⟨[.tick timeline.today], ?_⟩
    rcases hothers.tick timeline.today with ⟨monitor, number, htick, hmatches⟩ |
      ⟨monitor, tick, htick, hnone, hmatches⟩
    · have htick : timeline.monitor.tick timeline.today = (monitor, .started number) := htick
      rw [htick]
      refine hmatches.of_attempts (.of_eq ?_)
      simp [Task.attempts, Task.attempt?, spawn, withMonitor]
      rfl
    · have htick : timeline.monitor.tick timeline.today = (monitor, tick) := htick
      have hattempts : Task.attempts (pending ++ (timeline.tasks ++
            [.ticker (some (timeline.scene.timer monitor.interval))])) =
          Task.attempts (pending ++ timeline.tasks) := by
        simp [Task.attempts, Task.attempt?]
      rw [htick]
      cases tick with
      | started number => exact absurd rfl (hnone number)
      | dropped overrun => exact hmatches.of_attempts (.of_eq hattempts)
      | ignored => exact hmatches.of_attempts (.of_eq hattempts)

theorem exists_run_flight (timeline : Timeline) {flight : Flight}
    (h : schedule.Matches timeline.scene (.scan (some flight) :: (pending ++ timeline.tasks))) :
    ∃ actions, (schedule.run actions).Matches (timeline.runScan (some flight)).scene
      (pending ++ (timeline.runScan (some flight)).tasks) := by
  rcases h.poll with ⟨polled, next, hpoll, hmatches⟩ | ⟨landed, result, action, hpoll, hmatches⟩
  · have hscan : timeline.runScan (some flight) =
        { timeline with scene := polled }.spawn (.scan (some next)) := by
      simp only [runScan, hpoll]
    have hperm : (pending ++ (timeline.tasks ++ [Task.scan (some next)])).Perm
        (Task.scan (some next) :: (pending ++ timeline.tasks)) := by
      rw [← List.append_assoc]
      exact List.perm_append_singleton _ _
    rw [hscan]
    exact ⟨[], hmatches.of_attempts (hperm.filterMap _)⟩
  · refine ⟨[action], ?_⟩
    simp only [runScan, hpoll]
    exact hmatches

theorem exists_run_scan {flight : Option Flight}
    (h : schedule.Matches timeline.scene (.scan flight :: (pending ++ timeline.tasks))) :
    ∃ actions, (schedule.run actions).Matches (timeline.runScan flight).scene
      (pending ++ (timeline.runScan flight).tasks) := by
  cases flight with
  | some flight => exact exists_run_flight timeline h
  | none =>
      obtain ⟨place, hlaunched⟩ := h.begin timeline.today
      let launched := Flight.launch timeline.scene .schedule timeline.today
      have hscan : timeline.runScan none = { timeline with scene := launched.1 }.runScan (some launched.2) :=
        rfl
      obtain ⟨actions, hmatches⟩ := exists_run_flight { timeline with scene := launched.1 } hlaunched
      rw [hscan]
      exact ⟨.begin place timeline.today :: actions, hmatches⟩

/-- The tasks that take a turn do so one after another; those that still wait for it are not lost. -/
theorem exists_run_foldl (timeline : Timeline) (ready : List Task)
    (h : schedule.Matches timeline.scene (ready ++ timeline.tasks)) :
    ∃ actions, (schedule.run actions).Matches (ready.foldl runTask timeline).scene
      (ready.foldl runTask timeline).tasks := by
  induction ready generalizing timeline schedule with
  | nil => exact ⟨[], h⟩
  | cons task rest ih =>
      have hturn : ∃ actions, (schedule.run actions).Matches (timeline.runTask task).scene
          (rest ++ (timeline.runTask task).tasks) := by
        cases task with
        | ticker timer => exact exists_run_ticker h
        | scan flight => exact exists_run_scan h
      obtain ⟨first, hfirst⟩ := hturn
      obtain ⟨second, hsecond⟩ := ih (timeline.runTask task) hfirst
      rw [List.foldl_cons]
      refine ⟨first ++ second, ?_⟩
      rw [Schedule.run_append]
      exact hsecond

theorem hasBegun_of_wokenSince? {task : Task} (hwoken : (timeline.wokenSince? task).isSome = true) :
    task.hasBegun = true := by
  cases task with
  | ticker timer =>
      cases timer with
      | none => simp [wokenSince?, Task.dueSince?, Task.timers, Task.hasBegun] at hwoken
      | some timer => rfl
  | scan flight =>
      cases flight with
      | none => simp [wokenSince?, Task.dueSince?, Task.timers, Task.hasBegun] at hwoken
      | some flight => rfl

/-- Every task takes a turn or sleeps on. -/
theorem perm_ready (timeline : Timeline) :
    (timeline.ready.1 ++ timeline.ready.2).Perm timeline.tasks := by
  let woken : Task → Bool := fun task => (timeline.wokenSince? task).isSome
  let entries := timeline.tasks.filterMap fun task =>
    (timeline.wokenSince? task).map fun since => (since, task)
  have hwoken : entries.map (·.2) = timeline.tasks.filter woken := by
    simp only [entries, List.map_filterMap]
    rw [← List.filterMap_eq_filter]
    apply List.filterMap_congr
    intro task _
    cases hsince : timeline.wokenSince? task <;> simp [woken, hsince, Option.guard]
  have hordered := (List.mergeSort_perm entries fun a b => a.1 ≤ b.1).map (·.2)
  rw [hwoken] at hordered
  -- Of those that are not woken, the ones that have not begun take a turn, too.
  have hfresh : (timeline.tasks.filter fun task => !woken task).filter (fun task => !task.hasBegun) =
      timeline.tasks.filter fun task => !task.hasBegun := by
    rw [List.filter_filter]
    apply List.filter_congr
    intro task _
    cases hbegun : task.hasBegun with
    | true => rfl
    | false =>
        cases htask : woken task with
        | false => rfl
        | true => rw [hasBegun_of_wokenSince? htask] at hbegun; cases hbegun
  have hasleep : (timeline.tasks.filter fun task => !woken task).filter (fun task => !!task.hasBegun) =
      timeline.tasks.filter fun task => task.hasBegun && (timeline.wokenSince? task).isNone := by
    rw [List.filter_filter]
    apply List.filter_congr
    intro task _
    simp [woken]
  have hrest := List.filter_append_perm (fun task : Task => !task.hasBegun)
    (timeline.tasks.filter fun task => !woken task)
  rw [hfresh, hasleep] at hrest
  have hall := List.filter_append_perm woken timeline.tasks
  rw [ready]
  simp only [List.append_assoc]
  exact (hordered.append hrest).trans hall

namespace Runs

variable {start : Schedule}

theorem ready (h : Runs start timeline) : Runs start timeline.runReady := by
  obtain ⟨before, hmatches⟩ := h
  have hready : (start.run before).Matches timeline.scene (timeline.ready.1 ++ timeline.ready.2) :=
    hmatches.of_attempts (timeline.perm_ready.filterMap _)
  obtain ⟨actions, hrun⟩ := exists_run_foldl { timeline with tasks := timeline.ready.2 } timeline.ready.1 hready
  refine ⟨before ++ actions, ?_⟩
  rw [Schedule.run_append]
  exact hrun

theorem settle (h : Runs start timeline) : Runs start timeline.settle :=
  h.ready.ready

theorem atClock (h : Runs start timeline) (clock : Nat) : Runs start (timeline.atClock clock) := by
  obtain ⟨actions, hmatches⟩ := h
  exact ⟨actions, hmatches.quiet, hmatches.monitor, hmatches.jobs⟩

theorem waitUntil (h : Runs start timeline) (target : Nat) : Runs start (timeline.waitUntil target) := by
  fun_induction Timeline.waitUntil timeline target with
  | case1 timeline settled due hdue ih => exact ih (h.settle.atClock due)
  | case2 timeline settled due hdue => exact h.settle.atClock target

theorem advance (h : Runs start timeline) (millis : Nat) : Runs start (timeline.advance millis) := by
  rw [Timeline.advance]
  split
  · exact h
  · exact h.waitUntil _

theorem ticking (h : Runs start timeline) : Runs start (timeline.spawn (.ticker none)) := by
  obtain ⟨actions, hmatches⟩ := h
  refine ⟨actions, hmatches.of_attempts (.of_eq ?_)⟩
  simp [Task.attempts, Task.attempt?, spawn]

theorem shutdown (h : Runs start timeline) : Runs start timeline.shutdown := by
  obtain ⟨actions, hmatches⟩ := h
  obtain ⟨awaitable, hmonitor⟩ := hmatches.monitor
  have hstopped : Runs start (timeline.withMonitor timeline.monitor.stop.takeWait.1) := by
    refine ⟨actions ++ [.stop], ?_⟩
    rw [Schedule.run_append]
    refine ⟨hmatches.quiet, ⟨false, ?_⟩, hmatches.jobs⟩
    have hstop := congrArg (fun monitor : Monitor => monitor.stop.takeWait.1) hmonitor
    exact hstop
  simp only [Timeline.shutdown]
  split
  · exact hstopped.settle
  · exact hstopped

/-- A trigger that is answered with a number starts the job of this number. -/
theorem trigger (h : Runs start timeline) {next : Timeline} {number : Nat}
    (htrigger : timeline.trigger = .ok (next, number)) :
    ∃ actions, (start.run actions).Matches timeline.scene timeline.tasks
      ∧ ((start.run actions).act .trigger).Matches next.scene next.tasks
      ∧ (start.run actions).act .trigger = (start.run actions).launch (.answered (.ok number)) := by
  obtain ⟨actions, hmatches⟩ := h
  refine ⟨actions, hmatches, ?_⟩
  rw [Timeline.trigger, monitor] at htrigger
  cases hstopped : timeline.scene.monitor.stopped with
  | true =>
      rw [Monitor.trigger_of_stopped hstopped] at htrigger
      cases htrigger
  | false =>
      cases hflying : timeline.scene.monitor.inFlight with
      | true =>
          rw [Monitor.trigger_of_inFlight hstopped hflying] at htrigger
          cases htrigger
      | false =>
          rw [Monitor.trigger_of_idle hstopped hflying] at htrigger
          cases htrigger
          have hlaunch : (start.run actions).act .trigger =
              (start.run actions).launch (.answered (.ok (timeline.scene.monitor.engine.attempts + 1))) := by
            rw [Schedule.act, Schedule.trigger_of_idle (hmatches.stopped_eq.symm.trans hstopped)
              (hmatches.inFlight_eq.symm.trans hflying), ← hmatches.engine_eq]
            rfl
          rw [hlaunch]
          exact ⟨hmatches.launch _, rfl⟩

/-- **A timeline never has two scans of its schedule.** The flag of the monitor tells whether it has one. -/
theorem length_attempts_le {engine : Engine} {interval : Nat} {monitor : Monitor}
    (hcreate : Monitor.create engine interval = .ok monitor)
    (h : Runs (.ofMonitor monitor) timeline) :
    (Task.attempts timeline.tasks).length ≤ 1
      ∧ (timeline.monitor.inFlight = true ↔ Task.attempts timeline.tasks ≠ []) := by
  obtain ⟨actions, hmatches⟩ := h
  have horderly := (Schedule.isOrderly_ofMonitor hcreate).run actions
  have hlength := hmatches.jobs.length_eq
  rw [List.length_map] at hlength
  constructor
  · rw [hlength]
    exact horderly.length_jobs_le
  · rw [Timeline.monitor, hmatches.inFlight_eq, horderly.inFlight_iff, ← List.length_pos_iff,
      ← List.length_pos_iff, hlength]

end Runs

/-- A timeline without tasks is where the schedule starts. -/
theorem runs_of_idle (hquiet : timeline.scene.IsQuiet) (hidle : timeline.tasks = []) :
    Runs (.ofMonitor timeline.monitor) timeline := by
  refine ⟨[], hquiet, ⟨timeline.monitor.awaitable, rfl⟩, ?_⟩
  rw [hidle]
  exact .nil

end Timeline

end OrphanWatch
