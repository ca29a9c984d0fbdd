import OrphanWatch.Monitor.Shutdown
import OrphanWatch.Proofs.Schedule

/-!
# Who waits for the last scan

A scan that is under way when the schedule is stopped is waited for by the one caller who is given the right to.
When that caller returns, or when nobody waits any more and somebody has returned, the schedule is at rest: there
is no scan, and nothing that happens later changes the engine (`Shutdown.returns_at_rest`). All others return at
once, while the scan goes on and may still commit (`Shutdown.second_caller_does_not_wait`).
-/

namespace OrphanWatch

namespace Schedule

variable {engine : Engine} {schedule : Schedule}

/-- The end of a schedule is for good. A scan that is under way after an action was so before, with the right to
wait for it as it was, or the schedule has not been stopped and the right is there. -/
theorem flags_act (schedule : Schedule) (action : Action) :
    (schedule.monitor.stopped = true → (schedule.act action).monitor.stopped = true)
      ∧ ((schedule.act action).monitor.inFlight = true →
        (schedule.monitor.inFlight = true
            ∧ (schedule.act action).monitor.awaitable = schedule.monitor.awaitable)
          ∨ (schedule.monitor.stopped = false ∧ (schedule.act action).monitor.awaitable = true)) := by
  cases action with
  | tick now =>
      rw [act]
      cases hstopped : schedule.monitor.stopped with
      | true =>
          rw [tick_of_stopped hstopped]
          exact ⟨fun _ => hstopped, fun hbusy => .inl ⟨hbusy, rfl⟩⟩
      | false =>
          refine ⟨fun hended => absurd hended Bool.false_ne_true, fun hbusy => ?_⟩
          cases hidle : schedule.monitor.inFlight with
          | true =>
              rw [tick_of_inFlight hstopped hidle]
              exact .inl ⟨rfl, rfl⟩
          | false =>
              rw [tick_of_idle hstopped hidle]
              exact .inr ⟨rfl, rfl⟩
  | trigger =>
      rw [act]
      cases hstopped : schedule.monitor.stopped with
      | true =>
          rw [trigger_of_stopped hstopped]
          exact ⟨fun _ => hstopped, fun hbusy => .inl ⟨hbusy, rfl⟩⟩
      | false =>
          refine ⟨fun hended => absurd hended Bool.false_ne_true, fun hbusy => ?_⟩
          cases hidle : schedule.monitor.inFlight with
          | true =>
              rw [trigger_of_inFlight hstopped hidle]
              exact .inl ⟨rfl, rfl⟩
          | false =>
              rw [trigger_of_idle hstopped hidle]
              exact .inr ⟨rfl, rfl⟩
  | begin place now =>
      rw [act]
      by_cases hwaiting : ∃ number, schedule.jobs[place]? = some ⟨number, none⟩
      · obtain ⟨number, hplace⟩ := hwaiting
        rw [begin_of_waiting hplace]
        exact ⟨id, fun hbusy => .inl ⟨hbusy, rfl⟩⟩
      · rw [begin_of_not_waiting (not_exists.1 hwaiting)]
        exact ⟨id, fun hbusy => .inl ⟨hbusy, rfl⟩⟩
  | finish place cluster backend cancelled elapsed =>
      rw [act]
      by_cases hflying : ∃ number attempt, schedule.jobs[place]? = some ⟨number, some attempt⟩
      · obtain ⟨number, attempt, hplace⟩ := hflying
        rw [finish_of_flying hplace]
        exact ⟨id, fun hbusy => absurd hbusy Bool.false_ne_true⟩
      · rw [finish_of_not_flying fun number attempt hplace => hflying ⟨number, attempt, hplace⟩]
        exact ⟨id, fun hbusy => .inl ⟨hbusy, rfl⟩⟩
  | stop => exact ⟨fun _ => rfl, fun hbusy => .inl ⟨hbusy, rfl⟩⟩

/-- A schedule that was stopped and has no job does nothing any more. -/
theorem engine_act_of_no_job (hstopped : schedule.monitor.stopped = true) (hjobs : schedule.jobs = [])
    (action : Action) :
    (schedule.act action).monitor.engine = schedule.monitor.engine ∧ (schedule.act action).jobs = [] := by
  have hplace : ∀ (place : Nat) (job : Job), schedule.jobs[place]? ≠ some job := by
    intro place job
    rw [hjobs]
    exact Option.some_ne_none job ∘ Eq.symm
  cases action with
  | tick now =>
      rw [act, tick_of_stopped hstopped]
      exact ⟨rfl, hjobs⟩
  | trigger =>
      rw [act, trigger_of_stopped hstopped]
      exact ⟨rfl, hjobs⟩
  | begin place now =>
      rw [act, begin_of_not_waiting fun number => hplace place _]
      exact ⟨rfl, hjobs⟩
  | finish place cluster backend cancelled elapsed =>
      rw [act, finish_of_not_flying fun number attempt => hplace place _]
      exact ⟨rfl, hjobs⟩
  | stop => exact ⟨rfl, hjobs⟩

theorem IsOrderly.takeWait (h : schedule.IsOrderly engine) :
    (schedule.withMonitor schedule.monitor.takeWait.1).IsOrderly engine :=
  ⟨h.single, h.begun, h.started, h.finished, h.faithful, h.totals, h.inboxes, h.stopped⟩

end Schedule

namespace Shutdown

/-- What holds all the time: as long as a scan is under way, nobody has asked for the right to wait yet, or
somebody waits. -/
structure IsAttended (engine : Engine) (shutdown : Shutdown) : Prop where
  orderly : shutdown.schedule.IsOrderly engine
  stopped : shutdown.callers ≠ [] → shutdown.monitor.stopped = true
  attended : shutdown.monitor.inFlight = true →
    (shutdown.monitor.awaitable = true ∧ ∀ caller ∈ shutdown.callers, caller = .asking)
      ∨ (.waiting ∈ shutdown.callers ∧ .waited ∉ shutdown.callers)

variable {engine : Engine} {shutdown : Shutdown}

theorem run_append_singleton (shutdown : Shutdown) (actions : List Action) (action : Action) :
    shutdown.run (actions ++ [action]) = (shutdown.run actions).act action :=
  List.foldl_append

theorem mem_set_of_ne {callers : List Caller} {place : Nat} {caller other moved : Caller}
    (hplace : callers[place]? = some other) (hmem : caller ∈ callers) (hne : caller ≠ other) :
    caller ∈ callers.set place moved := by
  obtain ⟨i, hi⟩ := List.mem_iff_getElem?.1 hmem
  have hdiffers : place ≠ i := by
    rintro rfl
    exact hne (Option.some.inj (hi.symm.trans hplace))
  exact List.mem_of_getElem? ((List.getElem?_set_ne hdiffers).trans hi)

namespace IsAttended

/-- While a scan is under way, nobody has come back from waiting for it. -/
theorem not_mem_waited (h : shutdown.IsAttended engine) (hbusy : shutdown.monitor.inFlight = true) :
    .waited ∉ shutdown.callers := by
  intro hmem
  rcases h.attended hbusy with ⟨-, hasking⟩ | ⟨-, hwaited⟩
  · cases hasking .waited hmem
  · exact hwaited hmem

theorem proceed (h : shutdown.IsAttended engine) (action : Schedule.Action) :
    (shutdown.act (.proceed action)).IsAttended engine := by
  obtain ⟨hstays, hflags⟩ := Schedule.flags_act shutdown.schedule action
  refine ⟨h.orderly.act action, fun hcallers => hstays (h.stopped hcallers), fun hbusy => ?_⟩
  rcases hflags hbusy with ⟨hbefore, hsame⟩ | ⟨hrunning, hawaitable⟩
  · rcases h.attended hbefore with ⟨hawaitable, hasking⟩ | hwaiting
    · exact .inl ⟨hsame.trans hawaitable, hasking⟩
    · exact .inr hwaiting
  · have hnone : shutdown.callers = [] := by
      by_contra hcallers
      exact Bool.false_ne_true (hrunning.symm.trans (h.stopped hcallers))
    refine .inl ⟨hawaitable, fun caller hmem => ?_⟩
    rw [act, hnone] at hmem
    cases hmem

theorem call (h : shutdown.IsAttended engine) : shutdown.call.IsAttended engine := by
  refine ⟨h.orderly.act .stop, fun _ => rfl, fun hbusy => ?_⟩
  rcases h.attended hbusy with ⟨hawaitable, hasking⟩ | ⟨hwaiting, hwaited⟩
  · refine .inl ⟨hawaitable, fun caller hmem => ?_⟩
    rcases List.mem_append.1 hmem with hold | hnew
    · exact hasking caller hold
    · exact List.mem_singleton.1 hnew
  · refine .inr ⟨List.mem_append_left _ hwaiting, fun hmem => ?_⟩
    rcases List.mem_append.1 hmem with hold | hnew
    · exact hwaited hold
    · cases List.mem_singleton.1 hnew

/-- The right to wait goes to a caller who waits, if there is anything to wait for. -/
theorem ask (h : shutdown.IsAttended engine) (place : Nat) : (shutdown.ask place).IsAttended engine := by
  unfold Shutdown.ask
  split
  · next hplace =>
      have hstopped := h.stopped (List.ne_nil_of_mem (List.mem_of_getElem? hplace))
      refine ⟨h.orderly.takeWait, fun _ => hstopped, fun hbusy => .inr ?_⟩
      have hbusy : shutdown.monitor.inFlight = true := hbusy
      have hwaited : ∀ moved, moved ≠ .waited → .waited ∉ shutdown.callers.set place moved := by
        intro moved hmoved hmem
        rcases List.mem_or_eq_of_mem_set hmem with hold | hnew
        · exact h.not_mem_waited hbusy hold
        · exact hmoved hnew.symm
      have hwaits : shutdown.monitor.takeWait.2 = shutdown.monitor.awaitable := by
        rw [Monitor.takeWait, hbusy, Bool.and_true]
      simp only [hwaits]
      cases hawaitable : shutdown.monitor.awaitable with
      | true =>
          have hlt : place < shutdown.callers.length := (List.getElem?_eq_some_iff.1 hplace).1
          exact ⟨List.mem_set hlt _, hwaited .waiting Caller.noConfusion⟩
      | false =>
          -- The right is gone, so that somebody else has it.
          rcases h.attended hbusy with ⟨hright, -⟩ | ⟨hwaiting, -⟩
          · rw [hawaitable] at hright
            cases hright
          · exact ⟨mem_set_of_ne hplace hwaiting Caller.noConfusion,
              hwaited .passed Caller.noConfusion⟩
  · exact h

theorem wake (h : shutdown.IsAttended engine) (place : Nat) : (shutdown.wake place).IsAttended engine := by
  unfold Shutdown.wake
  split
  · next hplace =>
      split
      · exact h
      · next hidle =>
          have hstopped := h.stopped (List.ne_nil_of_mem (List.mem_of_getElem? hplace))
          exact ⟨h.orderly, fun _ => hstopped, fun hbusy => absurd hbusy hidle⟩
  · exact h

/-- After any run a scan under way is attended. -/
theorem run (h : shutdown.IsAttended engine) (actions : List Action) :
    (shutdown.run actions).IsAttended engine := by
  induction actions using List.reverseRecOn with
  | nil => exact h
  | append_singleton before action ih =>
      rw [run_append_singleton]
      cases action with
      | proceed action => exact ih.proceed action
      | call => exact ih.call
      | ask caller => exact ih.ask caller
      | wake caller => exact ih.wake caller

end IsAttended

theorem isAttended_ofMonitor {interval : Nat} {monitor : Monitor}
    (hcreate : Monitor.create engine interval = .ok monitor) : (ofMonitor monitor).IsAttended engine := by
  refine ⟨Schedule.isOrderly_ofMonitor hcreate, fun hcallers => absurd rfl hcallers, fun hbusy => ?_⟩
  rw [Monitor.create] at hcreate
  split at hcreate
  · cases hcreate
  · cases hcreate
    cases hbusy

/-- A shutdown at rest stays at rest, whoever calls. -/
theorem engine_run_of_no_job (hstopped : shutdown.monitor.stopped = true)
    (hjobs : shutdown.schedule.jobs = []) (actions : List Action) :
    (shutdown.run actions).monitor.engine = shutdown.monitor.engine
      ∧ (shutdown.run actions).monitor.stopped = true ∧ (shutdown.run actions).schedule.jobs = [] := by
  induction actions using List.reverseRecOn with
  | nil => exact ⟨rfl, hstopped, hjobs⟩
  | append_singleton before action ih =>
      obtain ⟨hengine, hended, hidle⟩ := ih
      rw [run_append_singleton]
      generalize shutdown.run before = reached at hengine hended hidle
      cases action with
      | proceed action =>
          obtain ⟨hsame, hnone⟩ := Schedule.engine_act_of_no_job hended hidle action
          exact ⟨hsame.trans hengine, (Schedule.flags_act reached.schedule action).1 hended, hnone⟩
      | call => exact ⟨hengine, rfl, hidle⟩
      | ask caller =>
          rw [act, Shutdown.ask]
          split
          · exact ⟨hengine, hended, hidle⟩
          · exact ⟨hengine, hended, hidle⟩
      | wake caller =>
          rw [act, Shutdown.wake]
          split
          · split
            · exact ⟨hengine, hended, hidle⟩
            · exact ⟨hengine, hended, hidle⟩
          · exact ⟨hengine, hended, hidle⟩

/-- **Who has waited leaves the schedule at rest**, and so does whoever has returned when nobody waits. -/
theorem returns_at_rest {interval : Nat} {monitor : Monitor}
    (hcreate : Monitor.create engine interval = .ok monitor) (actions : List Action) :
    let shutdown := (ofMonitor monitor).run actions
    .waited ∈ shutdown.callers ∨ (.passed ∈ shutdown.callers ∧ .waiting ∉ shutdown.callers) →
      shutdown.monitor.inFlight = false ∧ ∀ more, (shutdown.run more).schedule.jobs = []
        ∧ (shutdown.run more).monitor.engine = shutdown.monitor.engine := by
  intro shutdown hreturned
  have h : shutdown.IsAttended engine := (isAttended_ofMonitor hcreate).run actions
  have hcallers : shutdown.callers ≠ [] := by
    rcases hreturned with hmem | ⟨hmem, -⟩
    · exact List.ne_nil_of_mem hmem
    · exact List.ne_nil_of_mem hmem
  have hidle : shutdown.monitor.inFlight = false := by
    rw [Bool.eq_false_iff]
    intro hbusy
    rcases hreturned with hwaited | ⟨hpassed, hnobody⟩
    · exact h.not_mem_waited hbusy hwaited
    · rcases h.attended hbusy with ⟨-, hasking⟩ | ⟨hwaiting, -⟩
      · cases hasking .passed hpassed
      · exact hnobody hwaiting
  refine ⟨hidle, fun more => ?_⟩
  obtain ⟨hengine, -, hjobs⟩ :=
    engine_run_of_no_job (h.stopped hcallers) (h.orderly.jobs_eq_nil hidle) more
  exact ⟨hjobs, hengine⟩

example :
    let monitor : Monitor := ⟨Engine.ofPolicy ⟨1, 0⟩ 0, 1, false, false, 0, false⟩
    let shutdown := (ofMonitor monitor).run
      [.proceed .trigger, .proceed (.begin 0 ⟨1, 0⟩), .call, .ask 0, .wake 0,
        .proceed (.finish 0 .cancelled .cancelled true 0), .wake 0]
    Monitor.create monitor.engine 1 = .ok monitor ∧ shutdown.callers = [.waited]
      ∧ shutdown.monitor.inFlight = false := by
  decide +kernel

/-- The second of two callers returns while a scan is under way, and the scan commits afterwards. -/
theorem second_caller_does_not_wait :
    let monitor : Monitor := ⟨Engine.ofPolicy ⟨1, 0⟩ 0, 1, false, false, 0, false⟩
    let fetched : Fetch := .fetched ⟨[], []⟩
    let before := (ofMonitor monitor).run
      [.proceed .trigger, .proceed (.begin 0 ⟨1, 0⟩), .call, .call, .ask 0, .ask 1]
    let after := before.act (.proceed (.finish 0 fetched fetched false 0))
    before.callers = [.waiting, .passed] ∧ before.monitor.inFlight = true
      ∧ before.monitor.engine.store.generation = 0 ∧ after.monitor.engine.store.generation = 1 := by
  decide +kernel

end Shutdown

end OrphanWatch
