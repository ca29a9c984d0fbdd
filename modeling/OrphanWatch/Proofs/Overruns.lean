import OrphanWatch.Proofs.Schedule

/-!
# Which scan an overrun names

A tick that finds a job in flight is dropped, and the overrun says which scan is under way. It takes the number from
the engine, which counts the attempts that have begun, while a job is in flight from the moment it is started. So
the overrun names the job if it has begun; a tick that comes before that names the scan before it
(`Schedule.overrun_names_begun_job`, `Schedule.overrun_before_job_begins`).
-/

namespace OrphanWatch

namespace Schedule

def IsInFlight (history : List Event) (number : Nat) : Prop :=
  number ∈ history.filterMap Event.started? ∧ number ∉ history.filterMap Event.finished?

def HasBegun (history : List Event) (number : Nat) : Prop :=
  ∃ attempt, Event.began number attempt ∈ history

/-- Only the job with the number is in flight. The overrun names it if it has begun, and else the scan before it. -/
structure Meets (overrun : ScanOverrun) (history : List Event) (number : Nat) : Prop where
  inFlight : IsInFlight history number
  only : ∀ other, IsInFlight history other → other = number
  begun : HasBegun history number → overrun.inFlight = number
  waiting : ¬ HasBegun history number → overrun.inFlight + 1 = number

variable {start : Engine} {schedule : Schedule}

namespace IsOrderly

/-- All jobs that were started have finished, but for the one that is there. -/
theorem started_eq (h : schedule.IsOrderly start) {job : Job} (hjobs : schedule.jobs = [job]) :
    schedule.events Event.started? = schedule.events Event.finished? ++ [job.number] := by
  rw [h.started, h.finished, List.append_assoc, flying, waiting, hjobs]
  cases hattempt : job.attempt <;> simp [hattempt]

theorem hasBegun_iff (h : schedule.IsOrderly start) {number : Nat} :
    HasBegun schedule.history number ↔ number ∈ schedule.events Event.began? := by
  rw [events, List.mem_filterMap]
  constructor
  · rintro ⟨attempt, hbegan⟩
    exact ⟨_, hbegan, congrArg some (h.faithful _ hbegan)⟩
  · rintro ⟨event, hevent, hcycle⟩
    unfold Event.began? at hcycle
    split at hcycle
    · next other attempt =>
        have hnumber : attempt.cycle = other := h.faithful _ hevent
        cases hcycle
        exact ⟨attempt, hnumber ▸ hevent⟩
    · cases hcycle

theorem isInFlight_iff (h : schedule.IsOrderly start) {job : Job} (hjobs : schedule.jobs = [job]) {number : Nat} :
    IsInFlight schedule.history number ↔ number = job.number := by
  have hstarted := h.started_eq hjobs
  have hincreasing := h.pairwise_started
  rw [hstarted, List.pairwise_append] at hincreasing
  change number ∈ schedule.events Event.started? ∧ number ∉ schedule.events Event.finished? ↔ _
  rw [hstarted, List.mem_append, List.mem_singleton]
  constructor
  · rintro ⟨hfinished | hnumber, hopen⟩
    · exact absurd hfinished hopen
    · exact hnumber
  · rintro rfl
    refine ⟨.inr rfl, fun hfinished => ?_⟩
    exact Nat.lt_irrefl _ (hincreasing.2.2 _ hfinished _ (List.mem_singleton_self _))

/-- A job takes the number of its attempt when it begins, and not before. -/
theorem hasBegun_job_iff (h : schedule.IsOrderly start) {job : Job} (hjobs : schedule.jobs = [job])
    (hfits : job.Fits schedule.monitor.engine) :
    HasBegun schedule.history job.number ↔ job.attempt.isSome = true := by
  rw [h.hasBegun_iff]
  cases hattempt : job.attempt with
  | none =>
      simp only [Job.Fits, hattempt] at hfits
      obtain ⟨count, hattempts, hbegun⟩ := h.begun
      refine iff_of_false (fun hmem => ?_) Bool.false_ne_true
      rw [hbegun, List.mem_range'_1] at hmem
      omega
  | some attempt =>
      refine iff_of_true ?_ rfl
      rw [h.finished, flying, hjobs]
      simp [hattempt]

/-- An overrun names the job in flight if it has begun, and else the scan before it. -/
theorem exists_meets (h : schedule.IsOrderly start) (hbusy : schedule.monitor.inFlight = true) (now : Instant) :
    ∃ number, Meets (schedule.monitor.recordOverrun now).2 schedule.history number := by
  rcases h.single with ⟨hidle, -⟩ | ⟨job, -, hjobs, hfits⟩
  · rw [hidle] at hbusy
    cases hbusy
  have hbegun := h.hasBegun_job_iff hjobs hfits
  -- The overrun carries the number of the last attempt. A job that has begun made it, and one that waits comes next.
  refine ⟨job.number, (h.isInFlight_iff hjobs).2 rfl, fun other => (h.isInFlight_iff hjobs).1, fun hhas => ?_,
    fun hhas => ?_⟩
  · obtain ⟨attempt, hattempt⟩ := Option.isSome_iff_exists.1 (hbegun.1 hhas)
    simp only [Job.Fits, hattempt] at hfits
    exact hfits.1.symm
  · have hattempt : job.attempt = none := Option.not_isSome_iff_eq_none.1 (mt hbegun.2 hhas)
    simp only [Job.Fits, hattempt] at hfits
    exact hfits.symm

end IsOrderly

/-- An action makes one event at most, and a dropped tick only while a job is in flight. -/
theorem history_act (schedule : Schedule) (action : Action) :
    (schedule.act action).history = schedule.history ∨
      ∃ event, (schedule.act action).history = schedule.history ++ [event]
        ∧ ∀ overrun, event = .ticked (.dropped overrun) →
          schedule.monitor.inFlight = true ∧ ∃ now, overrun = (schedule.monitor.recordOverrun now).2 := by
  cases action with
  | tick now =>
      right
      cases hstopped : schedule.monitor.stopped with
      | true =>
          refine ⟨.ticked .ignored, ?_, fun overrun hsame => by cases hsame⟩
          rw [act, tick_of_stopped hstopped]
          rfl
      | false =>
          cases hbusy : schedule.monitor.inFlight with
          | true =>
              refine ⟨.ticked (.dropped (schedule.monitor.recordOverrun now).2), ?_, ?_⟩
              · rw [act, tick_of_inFlight hstopped hbusy]
                rfl
              · rintro overrun hsame
                cases hsame
                exact ⟨rfl, now, rfl⟩
          | false =>
              refine ⟨.ticked (.started (schedule.monitor.engine.attempts + 1)), ?_,
                fun overrun hsame => by cases hsame⟩
              rw [act, tick_of_idle hstopped hbusy]
              rfl
  | trigger =>
      right
      rw [act, trigger]
      split
      · exact ⟨_, rfl, fun overrun hsame => by cases hsame⟩
      · exact ⟨_, rfl, fun overrun hsame => by cases hsame⟩
  | begin place now =>
      rw [act, begin]
      split
      · exact .inr ⟨_, rfl, fun overrun hsame => by cases hsame⟩
      · exact .inl rfl
  | finish place cluster backend cancelled elapsed =>
      rw [act, finish]
      split
      · exact .inr ⟨_, rfl, fun overrun hsame => by cases hsame⟩
      · exact .inl rfl
  | stop => exact .inr ⟨.stopped, rfl, fun overrun hsame => by cases hsame⟩

theorem exists_meets_run (h : schedule.IsOrderly start) (hnone : schedule.history = []) (actions : List Action) :
    ∀ before overrun after,
      (schedule.run actions).history = before ++ .ticked (.dropped overrun) :: after →
        ∃ number, Meets overrun before number := by
  induction actions using List.reverseRecOn with
  | nil =>
      intro before overrun after hsplit
      rw [run, List.foldl_nil, hnone] at hsplit
      cases before <;> cases hsplit
  | append_singleton actions action ih =>
      intro before overrun after hsplit
      rw [run_append_singleton] at hsplit
      have horderly := h.run actions
      rcases history_act (schedule.run actions) action with hsame | ⟨event, hlonger, hdropped⟩
      · exact ih before overrun after (hsame ▸ hsplit)
      · rw [hlonger] at hsplit
        rcases List.eq_nil_or_concat after with rfl | ⟨rest, last, rfl⟩
        · obtain ⟨rfl, hevent⟩ := List.append_inj' hsplit rfl
          obtain ⟨hbusy, now, rfl⟩ := hdropped overrun (List.singleton_inj.1 hevent)
          exact horderly.exists_meets hbusy now
        · have hlast : (schedule.run actions).history ++ [event] =
              (before ++ .ticked (.dropped overrun) :: rest) ++ [last] := by
            rw [hsplit, List.concat_eq_append, List.append_assoc, List.cons_append]
          exact ih before overrun rest (List.append_inj' hlast rfl).1

/-- **An overrun names the scan that has begun.** Whatever the order of ticks, triggers, steps of the jobs and the
end of the schedule: a job runs under the number that was given out for it, and when a tick is dropped, there is
exactly one job in flight, whose number the overrun carries if the job has begun by then. If it has not, the
overrun carries the number before. -/
theorem overrun_names_begun_job {engine : Engine} {interval : Nat} {monitor : Monitor}
    (hcreate : Monitor.create engine interval = .ok monitor) (actions : List Action) :
    let schedule := (ofMonitor monitor).run actions
    (∀ number attempt, Event.began number attempt ∈ schedule.history → attempt.cycle = number)
      ∧ ∀ before overrun after, schedule.history = before ++ .ticked (.dropped overrun) :: after →
        ∃ number, Meets overrun before number := by
  intro schedule
  have h := isOrderly_ofMonitor hcreate
  have hhistory : (ofMonitor monitor).history = [] := rfl
  exact ⟨fun number attempt hbegan => (h.run actions).faithful _ hbegan, exists_meets_run h hhistory actions⟩

/-- A tick that comes after the first job has begun. -/
theorem overrun_of_second_tick :
    let engine := Engine.ofPolicy ⟨1, 0⟩ 0
    let monitor : Monitor := ⟨engine, 1, false, false, 0, false⟩
    let schedule := (ofMonitor monitor).run [.tick ⟨0, 0⟩, .begin 0 ⟨0, 0⟩, .tick ⟨1, 0⟩]
    let before := ((ofMonitor monitor).run [.tick ⟨0, 0⟩, .begin 0 ⟨0, 0⟩]).history
    Monitor.create engine 1 = .ok monitor
      ∧ schedule.history = before ++ [.ticked (.dropped ⟨⟨1, 0⟩, 1, 1⟩)]
      ∧ HasBegun before 1 ∧ ∃ number, Meets ⟨⟨1, 0⟩, 1, 1⟩ before number := by
  intro engine monitor schedule before
  have hcreate : Monitor.create engine 1 = .ok monitor := rfl
  have hhistory : schedule.history = before ++ [.ticked (.dropped ⟨⟨1, 0⟩, 1, 1⟩)] := rfl
  have hbegun : HasBegun before 1 := ⟨_, .tail _ (.head _)⟩
  exact ⟨hcreate, hhistory, hbegun, (overrun_names_begun_job hcreate _).2 before _ [] hhistory⟩

/-- A tick that comes between a trigger and the beginning of its job. The job is the only one in flight, and it runs
under the number 1, while the overrun carries 0. -/
theorem overrun_before_job_begins :
    let engine := Engine.ofPolicy ⟨1, 0⟩ 0
    let monitor : Monitor := ⟨engine, 1, false, false, 0, false⟩
    let schedule := (ofMonitor monitor).run [.trigger, .tick ⟨1, 0⟩, .begin 0 ⟨1, 0⟩]
    Monitor.create engine 1 = .ok monitor
      ∧ ∃ (overrun : ScanOverrun) (attempt : Attempt),
        schedule.history =
          [.answered (.ok 1), .ticked (.dropped overrun), .began 1 attempt]
        ∧ (∀ number, IsInFlight [.answered (.ok 1)] number ↔ number = 1)
        ∧ attempt.cycle = 1 ∧ overrun.inFlight = 0 := by
  intro engine monitor schedule
  refine ⟨rfl, _, _, rfl, fun number => ?_, rfl, rfl⟩
  simp [IsInFlight, Event.started?, Event.finished?]

end Schedule

end OrphanWatch
