import OrphanWatch.Monitor.Schedule
import OrphanWatch.Proofs.Scan

/-!
# One scan at a time

In whatever order ticks, triggers and the steps of the jobs come, a schedule has at most one job, the number
given out for a job is the one that its attempt takes, and every tick before the end of the schedule starts a
job or counts as one overrun (`Schedule.single_flight`).

The number is a guess: it is the next one of the engine when the job is started, and the attempt takes its own
when it begins. The guess is right because the flag of the monitor is up for exactly as long as there is a job,
so that nothing else begins in between. For the same reason the findings are those of the job's start when it
ends, and no job is refused.
-/

namespace OrphanWatch

/-- The number of a job is the next one before it begins and the last one then, and the findings stay those
that it started from. -/
def Job.Fits (job : Job) (engine : Engine) : Prop :=
  match job.attempt with
  | none => job.number = engine.attempts + 1
  | some attempt =>
    job.number = engine.attempts ∧ attempt.cycle = job.number ∧ attempt.base = engine.store.snapshot

namespace Monitor

variable {monitor : Monitor}

theorem trigger_of_stopped (hstopped : monitor.stopped = true) : monitor.trigger = .error .cancelled := by
  rw [trigger, if_pos hstopped]

theorem trigger_of_inFlight (hstopped : monitor.stopped = false) (hbusy : monitor.inFlight = true) :
    monitor.trigger = .error .scanInProgress := by
  rw [trigger, if_neg (Bool.eq_false_iff.1 hstopped), if_pos hbusy]

theorem trigger_of_idle (hstopped : monitor.stopped = false) (hidle : monitor.inFlight = false) :
    monitor.trigger =
      .ok ({ monitor with inFlight := true, awaitable := true }, monitor.engine.attempts + 1) := by
  rw [trigger, if_neg (Bool.eq_false_iff.1 hstopped), if_neg (Bool.eq_false_iff.1 hidle)]

end Monitor

namespace Schedule

namespace Event

def started? : Event → Option Nat
  | ticked (.started number) | answered (.ok number) => some number
  | _ => none

def began? : Event → Option Nat
  | began _ attempt => some attempt.cycle
  | _ => none

def finished? : Event → Option Nat
  | finished number _ => some number
  | _ => none

def overrun? : Event → Option ScanOverrun
  | ticked (.dropped overrun) => some overrun
  | _ => none

def delivery? : Event → Option Delivery
  | ticked (.dropped overrun) => some (.overrun overrun)
  | finished _ (.ok report) => some (.report report)
  | _ => none

/-- A job makes the attempt and gives the report of its number, and the store does not refuse it. -/
def IsFaithful : Event → Prop
  | began number attempt => attempt.cycle = number
  | finished number (.ok report) => report.cycle = number ∧ report.outcome ≠ .commitFailed
  | finished _ (.error error) => error = .cancelled
  | _ => True

end Event

def waiting (schedule : Schedule) : List Nat :=
  (schedule.jobs.filter (·.attempt.isNone)).map (·.number)

def flying (schedule : Schedule) : List Nat :=
  (schedule.jobs.filter (·.attempt.isSome)).map (·.number)

def events {α : Type} (schedule : Schedule) (select : Event → Option α) : List α :=
  schedule.history.filterMap select

structure IsOrderly (start : Engine) (schedule : Schedule) : Prop where
  single : (schedule.monitor.inFlight = false ∧ schedule.jobs = []) ∨
    ∃ job, schedule.monitor.inFlight = true ∧ schedule.jobs = [job] ∧ job.Fits schedule.monitor.engine
  begun : ∃ count, schedule.monitor.engine.attempts = start.attempts + count
    ∧ schedule.events Event.began? = List.range' (start.attempts + 1) count
  started : schedule.events Event.started? = schedule.events Event.began? ++ schedule.waiting
  finished : schedule.events Event.began? = schedule.events Event.finished? ++ schedule.flying
  faithful : ∀ event ∈ schedule.history, event.IsFaithful
  totals : (schedule.events Event.overrun?).map (·.total) = List.range' 1 schedule.monitor.overruns
  inboxes : schedule.monitor.engine.inboxes =
    start.inboxes.map (· ++ schedule.events Event.delivery?)
  stopped : schedule.monitor.stopped = true ↔ Event.stopped ∈ schedule.history

variable {start : Engine} {schedule : Schedule}

section Log

variable {α : Type} {event : Event} {select : Event → Option α}

theorem events_log (schedule : Schedule) (event : Event) (select : Event → Option α) :
    (schedule.log event).events select = schedule.events select ++ (select event).toList := by
  rw [events, log, List.filterMap_append]
  cases hselect : select event <;> simp [events, hselect]

theorem events_log_none (hselect : select event = none) :
    (schedule.log event).events select = schedule.events select := by
  rw [events_log, hselect, Option.toList_none, List.append_nil]

theorem events_log_some {value : α} (hselect : select event = some value) :
    (schedule.log event).events select = schedule.events select ++ [value] := by
  rw [events_log, hselect, Option.toList_some]

theorem mem_history_log {other : Event} :
    other ∈ (schedule.log event).history ↔ other ∈ schedule.history ∨ other = event := by
  simp [log]

end Log

theorem run_append_singleton (schedule : Schedule) (actions : List Action) (action : Action) :
    schedule.run (actions ++ [action]) = (schedule.run actions).act action := by
  rw [run, List.foldl_append]
  rfl

/-! ### Triggers and ticks -/

def launch (schedule : Schedule) (event : Event) : Schedule :=
  ((schedule.withMonitor { schedule.monitor with inFlight := true, awaitable := true }).log event).spawn
    (schedule.monitor.engine.attempts + 1)

theorem trigger_of_stopped (hstopped : schedule.monitor.stopped = true) :
    schedule.trigger = schedule.log (.answered (.error .cancelled)) := by
  rw [trigger, Monitor.trigger_of_stopped hstopped]

theorem trigger_of_inFlight (hstopped : schedule.monitor.stopped = false)
    (hbusy : schedule.monitor.inFlight = true) :
    schedule.trigger = schedule.log (.answered (.error .scanInProgress)) := by
  rw [trigger, Monitor.trigger_of_inFlight hstopped hbusy]

theorem trigger_of_idle (hstopped : schedule.monitor.stopped = false)
    (hidle : schedule.monitor.inFlight = false) :
    schedule.trigger = schedule.launch (.answered (.ok (schedule.monitor.engine.attempts + 1))) := by
  rw [trigger, Monitor.trigger_of_idle hstopped hidle]
  rfl

theorem tick_of_stopped (hstopped : schedule.monitor.stopped = true) (now : Instant) :
    schedule.tick now = schedule.log (.ticked .ignored) := by
  simp only [tick, Monitor.tick, Monitor.trigger_of_stopped hstopped]
  rfl

theorem tick_of_inFlight (hstopped : schedule.monitor.stopped = false)
    (hbusy : schedule.monitor.inFlight = true) (now : Instant) :
    schedule.tick now = (schedule.withMonitor (schedule.monitor.recordOverrun now).1).log
      (.ticked (.dropped (schedule.monitor.recordOverrun now).2)) := by
  simp only [tick, Monitor.tick, Monitor.trigger_of_inFlight hstopped hbusy]

theorem tick_of_idle (hstopped : schedule.monitor.stopped = false)
    (hidle : schedule.monitor.inFlight = false) (now : Instant) :
    schedule.tick now =
      schedule.launch (.ticked (.started (schedule.monitor.engine.attempts + 1))) := by
  simp only [tick, Monitor.tick, Monitor.trigger_of_idle hstopped hidle]
  rfl

/-! ### Jobs -/

theorem begin_of_waiting {place number : Nat} (hplace : schedule.jobs[place]? = some ⟨number, none⟩)
    (now : Instant) :
    schedule.begin place now =
      ({ schedule with
          monitor := schedule.monitor.mapEngine fun _ => (schedule.monitor.engine.begin now).1
          jobs := schedule.jobs.set place ⟨number, some (schedule.monitor.engine.begin now).2⟩ } :
        Schedule).log (.began number (schedule.monitor.engine.begin now).2) := by
  rw [begin, hplace]

theorem begin_of_not_waiting {place : Nat} {now : Instant}
    (hplace : ∀ number, schedule.jobs[place]? ≠ some ⟨number, none⟩) :
    schedule.begin place now = schedule := by
  unfold begin
  split
  · next number hwaiting => exact absurd hwaiting (hplace number)
  · rfl

theorem finish_of_flying {place number : Nat} {attempt : Attempt}
    (hplace : schedule.jobs[place]? = some ⟨number, some attempt⟩) (cluster backend : Fetch)
    (cancelled : Bool) (elapsed : Nat) :
    let concluded := schedule.monitor.engine.conclude attempt cluster backend cancelled elapsed
    schedule.finish place cluster backend cancelled elapsed =
      ({ schedule with
          monitor := (schedule.monitor.mapEngine fun _ => concluded.1).land
          jobs := schedule.jobs.eraseIdx place } : Schedule).log (.finished number concluded.2) := by
  intro concluded
  rw [finish, hplace]

theorem finish_of_not_flying {place : Nat} {cluster backend : Fetch} {cancelled : Bool} {elapsed : Nat}
    (hplace : ∀ number attempt, schedule.jobs[place]? ≠ some ⟨number, some attempt⟩) :
    schedule.finish place cluster backend cancelled elapsed = schedule := by
  unfold finish
  split
  · next number attempt hflying => exact absurd hflying (hplace number attempt)
  · rfl

/-! ### Steps -/

theorem inboxes_deliver {engine : Engine} {inboxes : List (List Delivery)} {delivered : List Delivery}
    (hinboxes : engine.inboxes = inboxes.map (· ++ delivered)) (delivery : Delivery) :
    (engine.deliver delivery).inboxes = inboxes.map (· ++ (delivered ++ [delivery])) := by
  rw [Engine.deliver, hinboxes, List.map_map]
  apply List.map_congr_left
  intro inbox _
  exact List.append_assoc inbox delivered [delivery]

namespace IsOrderly

theorem jobs_eq_nil (h : schedule.IsOrderly start) (hidle : schedule.monitor.inFlight = false) :
    schedule.jobs = [] := by
  rcases h.single with ⟨-, hjobs⟩ | ⟨job, hbusy, -⟩
  · exact hjobs
  · rw [hidle] at hbusy
    cases hbusy

/-- A schedule has one job at most. -/
theorem length_jobs_le (h : schedule.IsOrderly start) : schedule.jobs.length ≤ 1 := by
  rcases h.single with ⟨-, hjobs⟩ | ⟨job, -, hjobs, -⟩
  · rw [hjobs]
    exact Nat.zero_le 1
  · rw [hjobs]
    exact Nat.le_refl 1

/-- The flag is up as long as there is a job. -/
theorem inFlight_iff (h : schedule.IsOrderly start) :
    schedule.monitor.inFlight = true ↔ schedule.jobs ≠ [] := by
  rcases h.single with ⟨hidle, hjobs⟩ | ⟨job, hbusy, hjobs, -⟩
  · rw [hidle, hjobs]
    exact iff_of_false Bool.false_ne_true (fun hne => hne rfl)
  · rw [hbusy, hjobs]
    exact iff_of_true rfl (List.cons_ne_nil _ _)

theorem faithful_log (h : schedule.IsOrderly start) {event : Event} (hfaithful : event.IsFaithful) :
    ∀ other ∈ (schedule.log event).history, other.IsFaithful := by
  intro other hother
  rcases mem_history_log.1 hother with hbefore | rfl
  · exact h.faithful other hbefore
  · exact hfaithful

theorem stopped_log (h : schedule.IsOrderly start) {event : Event} (hevent : event ≠ .stopped) :
    schedule.monitor.stopped = true ↔ Event.stopped ∈ (schedule.log event).history := by
  rw [mem_history_log, h.stopped]
  exact (or_iff_left hevent.symm).symm

theorem log (h : schedule.IsOrderly start) {event : Event}
    (hevent : event = .ticked .ignored ∨ ∃ error, event = .answered (.error error)) :
    (schedule.log event).IsOrderly start := by
  have hsilent : event.started? = none ∧ event.began? = none ∧ event.finished? = none
      ∧ event.overrun? = none ∧ event.delivery? = none ∧ event.IsFaithful ∧ event ≠ .stopped := by
    rcases hevent with rfl | ⟨error, rfl⟩ <;> exact ⟨rfl, rfl, rfl, rfl, rfl, trivial, Event.noConfusion⟩
  obtain ⟨hstarted, hbegan, hfinished, hoverrun, hdelivery, hfaithful, hstopped⟩ := hsilent
  refine ⟨h.single, ?_, ?_, ?_, h.faithful_log hfaithful, ?_, ?_, h.stopped_log hstopped⟩
  · rw [events_log_none hbegan]
    exact h.begun
  · rw [events_log_none hstarted, events_log_none hbegan]
    exact h.started
  · rw [events_log_none hbegan, events_log_none hfinished]
    exact h.finished
  · rw [events_log_none hoverrun]
    exact h.totals
  · rw [events_log_none hdelivery]
    exact h.inboxes

/-- A job is started with the number that the next attempt takes. -/
theorem launch (h : schedule.IsOrderly start) (hidle : schedule.monitor.inFlight = false) {event : Event}
    (hstarted : event.started? = some (schedule.monitor.engine.attempts + 1)) :
    (schedule.launch event).IsOrderly start := by
  have hothers : event.began? = none ∧ event.finished? = none ∧ event.overrun? = none
      ∧ event.delivery? = none ∧ event.IsFaithful ∧ event ≠ .stopped := by
    unfold Event.started? at hstarted
    split at hstarted
    · exact ⟨rfl, rfl, rfl, rfl, trivial, Event.noConfusion⟩
    · exact ⟨rfl, rfl, rfl, rfl, trivial, Event.noConfusion⟩
    · cases hstarted
  obtain ⟨hbegan, hfinished, hoverrun, hdelivery, hfaithful, hstopped⟩ := hothers
  have hevents : ∀ {α : Type} (select : Event → Option α),
      (schedule.launch event).events select = (schedule.log event).events select := fun _ => rfl
  have hjobs : (schedule.launch event).jobs = [⟨schedule.monitor.engine.attempts + 1, none⟩] := by
    rw [Schedule.launch, spawn]
    exact congrArg (· ++ [_]) (h.jobs_eq_nil hidle)
  refine ⟨.inr ⟨_, rfl, hjobs, rfl⟩, ?_, ?_, ?_, h.faithful_log hfaithful, ?_, ?_, h.stopped_log hstopped⟩
  · rw [hevents, events_log_none hbegan]
    exact h.begun
  · rw [hevents, hevents, events_log_some hstarted, events_log_none hbegan, h.started, waiting, waiting,
      h.jobs_eq_nil hidle, hjobs]
    simp
  · rw [hevents, hevents, events_log_none hbegan, events_log_none hfinished, h.finished, flying, flying,
      h.jobs_eq_nil hidle, hjobs]
    rfl
  · rw [hevents, events_log_none hoverrun]
    exact h.totals
  · rw [hevents, events_log_none hdelivery]
    exact h.inboxes

theorem overrun (h : schedule.IsOrderly start) (now : Instant) :
    ((schedule.withMonitor (schedule.monitor.recordOverrun now).1).log
      (.ticked (.dropped (schedule.monitor.recordOverrun now).2))).IsOrderly start := by
  let overrun := (schedule.monitor.recordOverrun now).2
  refine ⟨h.single, ?_, ?_, ?_, h.faithful_log trivial, ?_, ?_, h.stopped_log Event.noConfusion⟩
  · rw [events_log_none rfl]
    exact h.begun
  · rw [events_log_none rfl, events_log_none rfl]
    exact h.started
  · rw [events_log_none rfl, events_log_none rfl]
    exact h.finished
  · rw [events_log, List.map_append]
    calc (schedule.events Event.overrun?).map (·.total) ++ [schedule.monitor.overruns + 1]
        = List.range' 1 schedule.monitor.overruns ++ [1 + schedule.monitor.overruns] := by
          rw [h.totals, Nat.add_comm]
      _ = List.range' 1 (schedule.monitor.overruns + 1) := List.range'_1_concat.symm
  · rw [events_log]
    exact inboxes_deliver h.inboxes (.overrun overrun)

/-- If there is a job at all, it is the only one. -/
theorem eq_of_getElem? (h : schedule.IsOrderly start) {place : Nat} {job : Job}
    (hplace : schedule.jobs[place]? = some job) :
    place = 0 ∧ schedule.jobs = [job] ∧ schedule.monitor.inFlight = true
      ∧ job.Fits schedule.monitor.engine := by
  rcases h.single with ⟨-, hjobs⟩ | ⟨only, hbusy, hjobs, hfits⟩
  · rw [hjobs] at hplace
    cases hplace
  · rw [hjobs] at hplace
    cases place with
    | zero =>
        cases hplace
        exact ⟨rfl, hjobs, hbusy, hfits⟩
    | succ place => cases hplace

theorem begin (h : schedule.IsOrderly start) (place : Nat) (now : Instant) :
    (schedule.begin place now).IsOrderly start := by
  by_cases hwaiting : ∃ number, schedule.jobs[place]? = some ⟨number, none⟩
  · obtain ⟨number, hplace⟩ := hwaiting
    obtain ⟨rfl, hjobs, hbusy, hfits⟩ := h.eq_of_getElem? hplace
    obtain ⟨count, hattempts, hbegun⟩ := h.begun
    obtain rfl : number = schedule.monitor.engine.attempts + 1 := hfits
    have hstarted := h.started
    have hfinished := h.finished
    rw [waiting, hjobs] at hstarted
    rw [flying, hjobs] at hfinished
    rw [begin_of_waiting hplace, hjobs]
    refine ⟨.inr ⟨_, hbusy, rfl, rfl, rfl, rfl⟩, ⟨count + 1, ?_, ?_⟩, ?_, ?_, h.faithful_log rfl, ?_, ?_,
      h.stopped_log Event.noConfusion⟩
    · exact congrArg (· + 1) hattempts
    · rw [events_log]
      calc schedule.events Event.began? ++ [schedule.monitor.engine.attempts + 1]
          = List.range' (start.attempts + 1) count ++ [start.attempts + 1 + count] := by
            rw [hbegun, hattempts, Nat.add_right_comm]
        _ = List.range' (start.attempts + 1) (count + 1) := List.range'_1_concat.symm
    · rw [events_log_none rfl, events_log]
      exact hstarted.trans (List.append_nil _).symm
    · rw [events_log, events_log_none rfl]
      exact congrArg (· ++ [_]) (hfinished.trans (List.append_nil _))
    · rw [events_log_none rfl]
      exact h.totals
    · rw [events_log_none rfl]
      exact h.inboxes
  · rw [begin_of_not_waiting (not_exists.1 hwaiting)]
    exact h

theorem finish (h : schedule.IsOrderly start) (place : Nat) (cluster backend : Fetch) (cancelled : Bool)
    (elapsed : Nat) : (schedule.finish place cluster backend cancelled elapsed).IsOrderly start := by
  by_cases hflying : ∃ number attempt, schedule.jobs[place]? = some ⟨number, some attempt⟩
  · obtain ⟨number, attempt, hplace⟩ := hflying
    obtain ⟨rfl, hjobs, hbusy, hlast, hcycle, hbase⟩ := h.eq_of_getElem? hplace
    have hstarted := h.started
    have hfinished := h.finished
    rw [waiting, hjobs] at hstarted
    rw [flying, hjobs] at hfinished
    rw [finish_of_flying hplace, hjobs]
    have hclosed := schedule.monitor.engine.conclude_eq_abandon_or_close attempt cluster backend cancelled
      elapsed
    generalize schedule.monitor.engine.conclude attempt cluster backend cancelled elapsed = concluded
      at hclosed ⊢
    have hfaithful : (Event.finished number concluded.2).IsFaithful := by
      rcases hclosed with rfl | ⟨store, report, rfl, hreport, hcommitted⟩
      · rfl
      · -- Nothing else has committed since the job began, so its findings are not refused.
        exact ⟨hreport.trans hcycle, hcommitted (congrArg Snapshot.generation hbase)⟩
    have hattempts : concluded.1.attempts = schedule.monitor.engine.attempts := by
      rcases hclosed with rfl | ⟨store, report, rfl, -⟩ <;> rfl
    refine ⟨.inl ⟨rfl, rfl⟩, ?_, ?_, ?_, h.faithful_log hfaithful, ?_, ?_, h.stopped_log Event.noConfusion⟩
    · obtain ⟨count, hcount, hbegun⟩ := h.begun
      rw [events_log_none rfl]
      exact ⟨count, hattempts.trans hcount, hbegun⟩
    · rw [events_log_none rfl, events_log_none rfl]
      exact hstarted
    · rw [events_log_none rfl, events_log]
      exact hfinished.trans (List.append_nil _).symm
    · rw [events_log_none rfl]
      exact h.totals
    · rcases hclosed with rfl | ⟨store, report, rfl, -⟩
      · rw [events_log_none rfl]
        exact h.inboxes
      · rw [events_log]
        exact inboxes_deliver h.inboxes (.report report)
  · rw [finish_of_not_flying fun number attempt hplace => hflying ⟨number, attempt, hplace⟩]
    exact h

theorem stop (h : schedule.IsOrderly start) :
    ((schedule.withMonitor schedule.monitor.stop).log .stopped).IsOrderly start := by
  refine ⟨h.single, ?_, ?_, ?_, h.faithful_log trivial, ?_, ?_, ?_⟩
  · rw [events_log_none rfl]
    exact h.begun
  · rw [events_log_none rfl, events_log_none rfl]
    exact h.started
  · rw [events_log_none rfl, events_log_none rfl]
    exact h.finished
  · rw [events_log_none rfl]
    exact h.totals
  · rw [events_log_none rfl]
    exact h.inboxes
  · rw [mem_history_log]
    exact iff_of_true rfl (.inr rfl)

theorem act (h : schedule.IsOrderly start) (action : Action) : (schedule.act action).IsOrderly start := by
  cases action with
  | tick now =>
      cases hstopped : schedule.monitor.stopped with
      | true =>
          rw [Schedule.act, tick_of_stopped hstopped]
          exact h.log (.inl rfl)
      | false =>
          cases hidle : schedule.monitor.inFlight with
          | true =>
              rw [Schedule.act, tick_of_inFlight hstopped hidle]
              exact h.overrun now
          | false =>
              rw [Schedule.act, tick_of_idle hstopped hidle]
              exact h.launch hidle rfl
  | trigger =>
      cases hstopped : schedule.monitor.stopped with
      | true =>
          rw [Schedule.act, trigger_of_stopped hstopped]
          exact h.log (.inr ⟨_, rfl⟩)
      | false =>
          cases hidle : schedule.monitor.inFlight with
          | true =>
              rw [Schedule.act, trigger_of_inFlight hstopped hidle]
              exact h.log (.inr ⟨_, rfl⟩)
          | false =>
              rw [Schedule.act, trigger_of_idle hstopped hidle]
              exact h.launch hidle rfl
  | begin place now => exact h.begin place now
  | finish place cluster backend cancelled elapsed => exact h.finish place cluster backend cancelled elapsed
  | stop => exact h.stop

/-- A schedule is orderly after any run. -/
theorem run (h : schedule.IsOrderly start) (actions : List Action) :
    (schedule.run actions).IsOrderly start := by
  induction actions using List.reverseRecOn with
  | nil => exact h
  | append_singleton before action ih =>
      rw [run_append_singleton]
      exact ih.act action

/-- The numbers that were given out are increasing: a job that has not begun has the next one. -/
theorem pairwise_started (h : schedule.IsOrderly start) :
    (schedule.events Event.started?).Pairwise (· < ·) := by
  obtain ⟨count, hattempts, hbegun⟩ := h.begun
  have hincreasing : (schedule.events Event.began?).Pairwise (· < ·) := by
    rw [hbegun]
    exact List.pairwise_lt_range' 1
  rw [h.started, List.pairwise_append]
  refine ⟨hincreasing, ?_, fun number hnumber next hnext => ?_⟩
  · rcases h.single with ⟨-, hjobs⟩ | ⟨⟨number, begun⟩, -, hjobs, -⟩
    · rw [waiting, hjobs]
      exact .nil
    · rw [waiting, hjobs]
      cases begun with
      | none => exact List.pairwise_singleton _ _
      | some attempt => exact .nil
  · have hlast : number < start.attempts + 1 + count := by
      rw [hbegun, List.mem_range'_1] at hnumber
      exact hnumber.2
    rw [waiting, List.mem_map] at hnext
    obtain ⟨job, hjob, rfl⟩ := hnext
    obtain ⟨hmem, hwaits⟩ := List.mem_filter.1 hjob
    rcases h.single with ⟨-, hjobs⟩ | ⟨only, -, hjobs, hfits⟩
    · rw [hjobs] at hmem
      cases hmem
    · rw [hjobs] at hmem
      obtain rfl := List.mem_singleton.1 hmem
      rw [Job.Fits, Option.isNone_iff_eq_none.1 hwaits] at hfits
      simp only at hfits
      omega

end IsOrderly

theorem isOrderly_ofMonitor {engine : Engine} {interval : Nat} {monitor : Monitor}
    (hcreate : Monitor.create engine interval = .ok monitor) : (ofMonitor monitor).IsOrderly engine := by
  rw [Monitor.create] at hcreate
  split at hcreate
  · cases hcreate
  · cases hcreate
    refine ⟨.inl ⟨rfl, rfl⟩, ⟨0, rfl, rfl⟩, rfl, rfl, List.forall_mem_nil _, rfl, ?_, ?_⟩
    · exact ((List.map_congr_left fun _ _ => List.append_nil _).trans (List.map_id _)).symm
    · exact iff_of_false Bool.false_ne_true List.not_mem_nil

/-- **Single flight with faithful numbers.** Whatever the order of ticks, triggers, steps of the jobs and the
end of the schedule: there is at most one job, which ends without having been refused; the numbers given out
are those that the attempts take, in this order, and they are increasing; and what triggers and ticks do is
settled by whether the schedule was stopped and whether there is a job. -/
theorem single_flight {engine : Engine} {interval : Nat} {monitor : Monitor}
    (hcreate : Monitor.create engine interval = .ok monitor) (actions : List Action) :
    let schedule := (ofMonitor monitor).run actions
    let next := schedule.monitor.engine.attempts + 1
    (schedule.jobs.length ≤ 1 ∧ (schedule.monitor.inFlight = true ↔ schedule.jobs ≠ []))
      ∧ (∀ event ∈ schedule.history, event.IsFaithful)
      ∧ (schedule.events Event.started? = schedule.events Event.began? ++ schedule.waiting
        ∧ schedule.events Event.began? = schedule.events Event.finished? ++ schedule.flying
        ∧ (schedule.events Event.started?).Pairwise (· < ·))
      ∧ (Event.stopped ∉ schedule.history →
        (schedule.jobs = [] → schedule.act .trigger = schedule.launch (.answered (.ok next))
          ∧ ∀ now, schedule.act (.tick now) = schedule.launch (.ticked (.started next)))
        ∧ (schedule.jobs ≠ [] →
          schedule.act .trigger = schedule.log (.answered (.error .scanInProgress))
          ∧ ∀ now, ∃ overrun : ScanOverrun, overrun.total = schedule.monitor.overruns + 1
            ∧ schedule.act (.tick now) = (schedule.withMonitor
              { schedule.monitor with
                overruns := overrun.total
                engine := schedule.monitor.engine.deliver (.overrun overrun) }).log
              (.ticked (.dropped overrun))))
      ∧ (Event.stopped ∈ schedule.history →
        schedule.act .trigger = schedule.log (.answered (.error .cancelled))
        ∧ ∀ now, schedule.act (.tick now) = schedule.log (.ticked .ignored))
      ∧ (schedule.events Event.overrun?).map (·.total) = List.range' 1 schedule.monitor.overruns
      ∧ schedule.monitor.engine.inboxes =
        engine.inboxes.map (· ++ schedule.events Event.delivery?) := by
  intro schedule next
  have h : schedule.IsOrderly engine := (isOrderly_ofMonitor hcreate).run actions
  refine ⟨⟨h.length_jobs_le, h.inFlight_iff⟩, h.faithful, ⟨h.started, h.finished, h.pairwise_started⟩, fun hrunning => ?_,
    fun hended => ?_, h.totals, h.inboxes⟩
  · have hstopped : schedule.monitor.stopped = false := Bool.eq_false_iff.2 fun hstopped =>
      hrunning (h.stopped.1 hstopped)
    constructor
    · intro hjobs
      have hidle : schedule.monitor.inFlight = false := Bool.eq_false_iff.2 fun hflying =>
        h.inFlight_iff.1 hflying hjobs
      exact ⟨trigger_of_idle hstopped hidle, fun now => tick_of_idle hstopped hidle now⟩
    · intro hjobs
      have hflying := h.inFlight_iff.2 hjobs
      exact ⟨trigger_of_inFlight hstopped hflying,
        fun now => ⟨(schedule.monitor.recordOverrun now).2, rfl, tick_of_inFlight hstopped hflying now⟩⟩
  · have hstopped := h.stopped.2 hended
    exact ⟨trigger_of_stopped hstopped, fun now => tick_of_stopped hstopped now⟩

/-- Two scans, of which the first is met by a trigger and a tick, and a trigger after the end. -/
theorem single_flight_of_two_scans :
    let engine := Engine.ofPolicy ⟨1, 0⟩ 0
    let monitor : Monitor := ⟨engine, 1, false, false, 0, false⟩
    let fetched : Fetch := .fetched ⟨[], []⟩
    let actions : List Action :=
      [.trigger, .trigger, .begin 0 ⟨1, 0⟩, .tick ⟨2, 0⟩, .finish 0 fetched fetched false 0,
        .tick ⟨3, 0⟩, .begin 0 ⟨3, 0⟩, .stop, .finish 0 .cancelled .cancelled false 0]
    let schedule := (ofMonitor monitor).run actions
    Monitor.create engine 1 = .ok monitor
      ∧ schedule.events Event.started? = [1, 2] ∧ schedule.events Event.finished? = [1, 2]
      ∧ schedule.monitor.overruns = 1 ∧ (∀ event ∈ schedule.history, event.IsFaithful)
      ∧ schedule.act .trigger = schedule.log (.answered (.error .cancelled)) := by
  intro engine monitor fetched actions schedule
  have hcreate : Monitor.create engine 1 = .ok monitor := rfl
  have horderly : schedule.IsOrderly engine := (isOrderly_ofMonitor hcreate).run actions
  have hstopped : schedule.monitor.stopped = true := by decide +kernel
  have hended : Event.stopped ∈ schedule.history := horderly.stopped.1 hstopped
  obtain ⟨-, hfaithful, -, -, hafter, -⟩ := single_flight hcreate actions
  exact ⟨hcreate, by decide +kernel, by decide +kernel, by decide +kernel, hfaithful, (hafter hended).1⟩

end Schedule

end OrphanWatch
