import Mathlib.Data.List.Nodup
import OrphanWatch.Engine.Fleet
import OrphanWatch.Proofs.Scan

/-!
# Cycles that overlap

Whatever the steps of the cycles of a fleet are interleaved with, the findings change only when another writer
commits, or when a cycle offers its proposal while the findings are still those that it read at its start
(`Fleet.overlapping_cycles_are_serializable`). The store compares generations alone. That suffices, because
every snapshot that anyone has read is one of those that the store held, and these are numbered without a gap.
-/

namespace OrphanWatch

namespace Stage

def report? : Stage → Option CycleReport
  | reported report | ended (.ok report) => some report
  | _ => none

def IsRefused : Stage → Prop
  | refused .. => True
  | reported report | ended (.ok report) => report.outcome = .commitFailed
  | _ => False

/-- A cycle that ends without a report was cancelled. -/
def EndsWell : Stage → Prop
  | ended (.error error) => error = .cancelled
  | _ => True

end Stage

inductive Attempt.Moves (attempt : Attempt) : Engine → Stage → Engine → Stage → Prop
  | wait (engine : Engine) (stage : Stage) : Moves attempt engine stage engine stage
  | receive (engine : Engine) (cluster backend : Fetch) :
      Moves attempt engine .fetching engine (.fetched cluster backend)
  | abandon (engine : Engine) (stage : Stage) (hopen : stage.report? = none) (hkept : ¬ stage.IsRefused) :
      Moves attempt engine stage engine.abandon.1 (.ended (.error .cancelled))
  | propose (engine : Engine) (cluster backend : Inventory) (elapsed : Nat) :
      Moves attempt engine (.fetched (.fetched cluster) (.fetched backend)) engine
        (.proposed cluster backend (engine.propose attempt cluster backend elapsed))
  | degrade (engine : Engine) (cluster backend : Fetch) (elapsed : Nat) :
      Moves attempt engine (.fetched cluster backend) engine
        (.reported
          (attempt.degradedReport engine.names cluster backend engine.store.snapshot elapsed))
  | install (engine : Engine) (cluster backend : Inventory) (proposal : Proposal)
      (hfollows : proposal.batch.generation = engine.store.generation + 1) :
      Moves attempt engine (.proposed cluster backend proposal)
        { engine with store := { engine.store with snapshot := proposal.batch.toSnapshot } }
        (.reported proposal.report)
  | refuse (engine : Engine) (cluster backend : Inventory) (proposal : Proposal)
      (error : MonitorError) (hbehind : proposal.batch.generation ≠ engine.store.generation + 1) :
      Moves attempt engine (.proposed cluster backend proposal) engine (.refused proposal error)
  | report (engine : Engine) (proposal : Proposal) (error : MonitorError) :
      Moves attempt engine (.refused proposal error) engine
        (.reported (proposal.refusedReport engine.store.snapshot error))
  | close (engine : Engine) (report : CycleReport) :
      Moves attempt engine (.reported report) (engine.close report).1 (.ended (.ok report))

namespace Engine

structure SameSettings (engine other : Engine) : Prop where
  policy : engine.policy = other.policy
  retention : engine.retention = other.retention
  names : engine.names = other.names

theorem SameSettings.trans {first second third : Engine} (hfirst : first.SameSettings second)
    (hsecond : second.SameSettings third) : first.SameSettings third :=
  ⟨hfirst.policy.trans hsecond.policy, hfirst.retention.trans hsecond.retention,
    hfirst.names.trans hsecond.names⟩

theorem SameSettings.propose_eq {engine other : Engine} (hsame : engine.SameSettings other)
    (attempt : Attempt) (cluster backend : Inventory) (elapsed : Nat) :
    engine.propose attempt cluster backend elapsed = other.propose attempt cluster backend elapsed := by
  rw [propose, propose, hsame.policy, hsame.retention, hsame.names]

variable (engine : Engine) (attempt : Attempt)

theorem moves_receive (cluster backend : Fetch) (stage : Stage) :
    attempt.Moves engine stage (engine.receive cluster backend stage).1
      (engine.receive cluster backend stage).2 := by
  cases stage with
  | fetching => exact .receive engine cluster backend
  | _ => exact .wait engine _

theorem moves_cancel (stage : Stage) :
    attempt.Moves engine stage (engine.cancel stage).1 (engine.cancel stage).2 := by
  cases stage with
  | proposed cluster backend proposal => exact .abandon engine _ rfl id
  | _ => exact .wait engine _

theorem moves_proceed (elapsed : Nat) (stage : Stage) :
    attempt.Moves engine stage (engine.proceed attempt elapsed stage).1
      (engine.proceed attempt elapsed stage).2 := by
  cases stage with
  | fetching => exact .wait engine _
  | fetched cluster backend =>
      cases cluster with
      | cancelled => exact .abandon engine _ rfl id
      | failed error =>
          cases backend with
          | cancelled => exact .abandon engine _ rfl id
          | _ => exact .degrade engine _ _ elapsed
      | fetched left =>
          cases backend with
          | cancelled => exact .abandon engine _ rfl id
          | failed error => exact .degrade engine _ _ elapsed
          | fetched right => exact .propose engine left right elapsed
  | proposed cluster backend proposal =>
      rw [proceed, Store.commit]
      by_cases hfollows : proposal.batch.generation = engine.store.generation + 1
      · rw [if_pos hfollows]
        exact .install engine cluster backend proposal hfollows
      · rw [if_neg hfollows]
        exact .refuse engine cluster backend proposal _ hfollows
  | refused proposal error => exact .report engine proposal error
  | reported report => exact .close engine report
  | ended result => exact .wait engine _

/-- The steps of an attempt that nothing comes between are the end of the attempt as the engine has it. -/
theorem proceed_eq_conclude (cluster backend : Fetch) (cancelled : Bool) (elapsed : Nat) :
    let proposed := engine.proceed attempt elapsed (.fetched cluster backend)
    let offering := if cancelled then proposed.1.cancel proposed.2 else proposed
    let offered := offering.1.proceed attempt elapsed offering.2
    let written := offered.1.proceed attempt elapsed offered.2
    let ended := written.1.proceed attempt elapsed written.2
    let result := engine.conclude attempt cluster backend cancelled elapsed
    ended = (result.1, .ended result.2) := by
  intro proposed offering offered written ended result
  cases cluster with
  | cancelled => cases cancelled <;> rfl
  | failed error => cases backend <;> cases cancelled <;> rfl
  | fetched left =>
      cases backend with
      | cancelled => cases cancelled <;> rfl
      | failed error => cases cancelled <;> rfl
      | fetched right =>
          cases cancelled with
          | true => rfl
          | false =>
              let proposal := engine.propose attempt left right elapsed
              have hoffered : offered = engine.proceed attempt elapsed (.proposed left right proposal) :=
                rfl
              cases hcommit : engine.store.commit proposal.batch with
              | ok store =>
                  have hresult : result = ({ engine with store } : Engine).close proposal.report := by
                    simp only [result, conclude, commit, Proposal.commit, Bool.false_eq_true, if_false,
                      proposal, hcommit]
                  simp only [proceed, hcommit] at hoffered
                  simp only [ended, written, hoffered, hresult, proceed]
              | error error =>
                  have hresult : result =
                      engine.close (proposal.refusedReport engine.store.snapshot error) := by
                    simp only [result, conclude, commit, Proposal.commit, Bool.false_eq_true, if_false,
                      proposal, hcommit]
                  simp only [proceed, hcommit] at hoffered
                  simp only [ended, written, hoffered, hresult, proceed]

end Engine

namespace Attempt.Moves

variable {attempt : Attempt} {engine engine' : Engine} {stage stage' : Stage}

/-- No step of a cycle touches the settings of its engine. -/
theorem sameSettings (hmoves : attempt.Moves engine stage engine' stage') :
    engine'.SameSettings engine := by
  cases hmoves <;> exact ⟨rfl, rfl, rfl⟩

theorem report?_eq (hmoves : attempt.Moves engine stage engine' stage') {report : CycleReport}
    (hreport : stage.report? = some report) : stage'.report? = some report := by
  cases hmoves with
  | wait => exact hreport
  | close => exact hreport
  | abandon _ hopen =>
      rw [hopen] at hreport
      cases hreport
  | _ => cases hreport

/-- A report is written before it is published. -/
theorem eq_reported (hmoves : attempt.Moves engine stage engine' stage') (hopen : stage.report? = none)
    {report : CycleReport} (hreport : stage'.report? = some report) : stage' = .reported report := by
  cases hmoves with
  | wait =>
      rw [hopen] at hreport
      cases hreport
  | install => cases hreport; rfl
  | degrade => cases hreport; rfl
  | report => cases hreport; rfl
  | close => cases hopen
  | _ => cases hreport

theorem isRefused (hmoves : attempt.Moves engine stage engine' stage') (hrefused : stage.IsRefused) :
    stage'.IsRefused := by
  cases hmoves with
  | wait => exact hrefused
  | report => exact rfl
  | close => exact hrefused
  | abandon _ _ hkept => exact absurd hrefused hkept
  | _ => exact hrefused.elim

theorem endsWell (hmoves : attempt.Moves engine stage engine' stage') (hends : stage.EndsWell) :
    stage'.EndsWell := by
  cases hmoves with
  | wait => exact hends
  | abandon => exact rfl
  | _ => trivial

end Attempt.Moves

/-- The findings that a cycle makes of those in the store of its engine, if it is the only one. -/
def Engine.afterCycle (engine : Engine) (now : Instant) (cluster backend : Inventory) : Snapshot :=
  ((engine.begin now).1.conclude (engine.begin now).2 (.fetched cluster) (.fetched backend) false
    0).1.store.snapshot

theorem Engine.afterCycle_eq_advanced (engine : Engine) (now : Instant) (cluster backend : Inventory) :
    engine.afterCycle now cluster backend =
      engine.store.snapshot.advanced engine.policy engine.retention now cluster backend := by
  let proposal := (engine.begin now).1.propose (engine.begin now).2 cluster backend 0
  have hfollows : proposal.batch.generation = (engine.begin now).1.store.generation + 1 := rfl
  have hcommit := commit_of_follows (engine.begin now).1 proposal hfollows
  simp only [afterCycle, conclude, Bool.false_eq_true, if_false]
  simp only [proposal] at hcommit
  rw [hcommit]
  rfl

namespace Fleet

structure IsFresh (fleet : Fleet) : Prop where
  empty : fleet.store.snapshot = .initial
  idle : fleet.cycles = []
  unread : fleet.held = []

/-- The snapshots that replace one another in a run. -/
def installed (fleet : Fleet) : List Action → List Snapshot
  | [] => []
  | action :: rest =>
    if (fleet.act action).store.snapshot = fleet.store.snapshot then (fleet.act action).installed rest
    else (fleet.act action).store.snapshot :: (fleet.act action).installed rest

def Passes (fleet : Fleet) (actions : List Action) (prior : Fleet) (action : Action) : Prop :=
  ∃ before after, actions = before ++ action :: after ∧ prior = fleet.run before

inductive Effect (fleet : Fleet) (action : Action) : Fleet → Prop
  | nothing : Effect fleet action fleet
  | begin (number : Nat) (now : Instant) (engine : Engine) (hnone : action.cycle? = none)
      (hengine : fleet.engines[number]? = some engine) :
      Effect fleet action
        { fleet with
          engines := fleet.engines.set number ((engine.withStore fleet.store).begin now).1
          cycles := fleet.cycles ++ [⟨number, ((engine.withStore fleet.store).begin now).2, .fetching⟩] }
  | intrude (batch : Batch) (haction : action = .intrude batch)
      (hfollows : batch.generation = fleet.store.generation + 1) :
      Effect fleet action { fleet with store := { fleet.store with snapshot := batch.toSnapshot } }
  | read (hnone : action.cycle? = none) : Effect fleet action fleet.read
  | move (number : Nat) (cycle : Cycle) (engine engine' : Engine) (stage : Stage)
      (hnumber : action.cycle? = some number) (hcycle : fleet.cycles[number]? = some cycle)
      (hengine : fleet.engines[cycle.engine]? = some engine)
      (hmoves : cycle.attempt.Moves (engine.withStore fleet.store) cycle.stage engine' stage) :
      Effect fleet action
        { fleet with
          store := engine'.store
          engines := fleet.engines.set cycle.engine engine'
          cycles := fleet.cycles.set number { cycle with stage } }

/-! ### Single actions -/

theorem effect_turn {fleet : Fleet} {action : Action} {number : Nat}
    (hnumber : action.cycle? = some number) {step : Engine → Attempt → Stage → Engine × Stage}
    (hstep : ∀ (engine : Engine) (attempt : Attempt) (stage : Stage),
      attempt.Moves engine stage (step engine attempt stage).1 (step engine attempt stage).2) :
    fleet.Effect action (fleet.turn number step) := by
  unfold turn
  cases hcycle : fleet.cycles[number]? with
  | none => exact .nothing
  | some cycle =>
      cases hengine : fleet.engines[cycle.engine]? with
      | none =>
          simp only [hengine]
          exact .nothing
      | some engine =>
          simp only [hengine]
          exact .move number cycle engine _ _ hnumber hcycle hengine (hstep _ _ _)

/-- Every action has one of the effects. -/
theorem effect_act (fleet : Fleet) (action : Action) : fleet.Effect action (fleet.act action) := by
  cases action with
  | begin number now =>
      simp only [act, begin]
      cases hengine : fleet.engines[number]? with
      | none => exact .nothing
      | some engine => exact .begin number now engine rfl hengine
  | intrude batch =>
      rw [act, intrude, Store.commit]
      by_cases hfollows : batch.generation = fleet.store.generation + 1
      · rw [if_pos hfollows]
        exact .intrude batch rfl hfollows
      · rw [if_neg hfollows]
        exact .nothing
  | read => exact .read rfl
  | receive number cluster backend =>
      exact effect_turn rfl fun engine attempt => engine.moves_receive attempt cluster backend
  | cancel number => exact effect_turn rfl fun engine attempt => engine.moves_cancel attempt
  | proceed number elapsed =>
      exact effect_turn rfl fun engine attempt => engine.moves_proceed attempt elapsed

namespace Effect

variable {fleet next : Fleet} {action : Action} {number : Nat} {cycle : Cycle}

/-- A cycle stays as it is, or makes a move of its own. -/
theorem cycle_cases (heffect : fleet.Effect action next) (hcycle : fleet.cycles[number]? = some cycle) :
    next.cycles[number]? = some cycle
      ∨ ∃ engine engine' stage, action.cycle? = some number
        ∧ fleet.engines[cycle.engine]? = some engine
        ∧ cycle.attempt.Moves (engine.withStore fleet.store) cycle.stage engine' stage
        ∧ next.store = engine'.store ∧ next.cycles[number]? = some { cycle with stage } := by
  have hlt : number < fleet.cycles.length := (List.getElem?_eq_some_iff.1 hcycle).1
  cases heffect with
  | nothing => exact .inl hcycle
  | intrude => exact .inl hcycle
  | read => exact .inl hcycle
  | begin =>
      refine .inl ?_
      rw [← hcycle]
      exact List.getElem?_append_left hlt
  | move other moved engine engine' stage hnumber hmoved hengine hmoves =>
      by_cases heq : other = number
      · subst heq
        rw [hcycle] at hmoved
        cases hmoved
        exact .inr ⟨engine, engine', stage, hnumber, hengine, hmoves, rfl,
          List.getElem?_set_self hlt⟩
      · refine .inl ?_
        rw [← hcycle]
        exact List.getElem?_set_ne heq

/-- A cycle that there was not before has just begun. -/
theorem stage_of_new (heffect : fleet.Effect action next) (hnew : fleet.cycles[number]? = none)
    (hcycle : next.cycles[number]? = some cycle) : cycle.stage = .fetching := by
  have hle : fleet.cycles.length ≤ number := List.getElem?_eq_none_iff.1 hnew
  cases heffect with
  | nothing => rw [hnew] at hcycle; cases hcycle
  | intrude => rw [hnew] at hcycle; cases hcycle
  | read =>
      have hsame : fleet.read.cycles[number]? = none := hnew
      rw [hsame] at hcycle
      cases hcycle
  | begin =>
      have hlast := List.mem_of_getElem? hcycle
      simp only at hcycle
      rw [List.getElem?_append_right hle, List.getElem?_singleton] at hcycle
      split at hcycle
      · cases hcycle
        rfl
      · cases hcycle
  | move other moved _ _ stage _ hmoved =>
      have hlt : other < fleet.cycles.length := (List.getElem?_eq_some_iff.1 hmoved).1
      have hne : other ≠ number := by omega
      simp only at hcycle
      rw [List.getElem?_set_ne hne, hnew] at hcycle
      cases hcycle

/-- The findings change only through another writer's commit, or through a proposal that follows them. -/
theorem snapshot_cases (heffect : fleet.Effect action next) :
    next.store.snapshot = fleet.store.snapshot
      ∨ (∃ batch, action = .intrude batch ∧ batch.generation = fleet.store.generation + 1
        ∧ next.store.snapshot = batch.toSnapshot)
      ∨ ∃ number cycle cluster backend proposal, action.cycle? = some number
        ∧ fleet.cycles[number]? = some cycle ∧ cycle.stage = .proposed cluster backend proposal
        ∧ proposal.batch.generation = fleet.store.generation + 1
        ∧ next.store.snapshot = proposal.batch.toSnapshot
        ∧ next.cycles[number]? = some { cycle with stage := .reported proposal.report } := by
  cases heffect with
  | nothing => exact .inl rfl
  | begin => exact .inl rfl
  | read => exact .inl rfl
  | intrude batch haction hfollows => exact .inr (.inl ⟨batch, haction, hfollows, rfl⟩)
  | move number cycle engine engine' stage hnumber hcycle hengine hmoves =>
      have hlt : number < fleet.cycles.length := (List.getElem?_eq_some_iff.1 hcycle).1
      generalize hstage : cycle.stage = before at hmoves
      cases hmoves with
      | install cluster backend proposal hfollows =>
          exact .inr (.inr ⟨number, cycle, cluster, backend, proposal, hnumber, hcycle, hstage,
            hfollows, rfl, List.getElem?_set_self hlt⟩)
      | _ => exact .inl rfl

/-- The base of a cycle is that of an earlier state, or what is in the store when the cycle begins. -/
theorem base_cases (heffect : fleet.Effect action next) (hcycle : cycle ∈ next.cycles) :
    (∃ before ∈ fleet.cycles, cycle.attempt.base = before.attempt.base)
      ∨ cycle.attempt.base = fleet.store.snapshot := by
  cases heffect with
  | nothing => exact .inl ⟨cycle, hcycle, rfl⟩
  | intrude => exact .inl ⟨cycle, hcycle, rfl⟩
  | read => exact .inl ⟨cycle, hcycle, rfl⟩
  | begin =>
      rcases List.mem_append.1 hcycle with hbefore | hlast
      · exact .inl ⟨cycle, hbefore, rfl⟩
      · rw [List.mem_singleton.1 hlast]
        exact .inr rfl
  | move number moved _ _ _ _ hmoved =>
      rcases List.mem_or_eq_of_mem_set hcycle with hbefore | hsame
      · exact .inl ⟨cycle, hbefore, rfl⟩
      · exact .inl ⟨moved, List.mem_of_getElem? hmoved, by rw [hsame]⟩

theorem held_cases (heffect : fleet.Effect action next) {snapshot : Snapshot}
    (hsnapshot : snapshot ∈ next.held) :
    snapshot ∈ fleet.held ∨ snapshot = fleet.store.snapshot := by
  cases heffect with
  | read =>
      rcases List.mem_append.1 hsnapshot with hbefore | hlast
      · exact .inl hbefore
      · exact .inr (List.mem_singleton.1 hlast)
  | _ => exact .inl hsnapshot

end Effect

/-! ### What a fleet knows -/

/-- The snapshots are numbered without a gap, the last of them is the current one, and every snapshot that a
cycle started from or a reader keeps is one of them. -/
structure Remembers (fleet : Fleet) (installed : List Snapshot) : Prop where
  numbered : (Snapshot.initial :: installed).map (·.generation) =
    List.range' 0 (installed.length + 1)
  current : (.initial :: installed).getLast? = some fleet.store.snapshot
  bases : ∀ cycle ∈ fleet.cycles, cycle.attempt.base ∈ Snapshot.initial :: installed
  held : ∀ snapshot ∈ fleet.held, snapshot ∈ Snapshot.initial :: installed

/-- The engines keep their settings, and an offered proposal was made with them from the base of its cycle. -/
structure Abides (origin fleet : Fleet) : Prop where
  length_engines : fleet.engines.length = origin.engines.length
  settings : ∀ (number : Nat) (engine : Engine), fleet.engines[number]? = some engine →
    ∃ first, origin.engines[number]? = some first ∧ engine.SameSettings first
  proposals : ∀ cycle ∈ fleet.cycles, ∀ cluster backend proposal,
    cycle.stage = .proposed cluster backend proposal →
      ∃ engine elapsed, origin.engines[cycle.engine]? = some engine
        ∧ proposal = engine.propose cycle.attempt cluster backend elapsed

namespace Remembers

variable {fleet next : Fleet} {action : Action} {installed : List Snapshot}

theorem current_mem (hremembers : fleet.Remembers installed) :
    fleet.store.snapshot ∈ Snapshot.initial :: installed :=
  List.mem_of_getLast? hremembers.current

/-- Snapshots of the same generation are the same. -/
theorem eq_of_generation (hremembers : fleet.Remembers installed) {first second : Snapshot}
    (hfirst : first ∈ Snapshot.initial :: installed) (hsecond : second ∈ Snapshot.initial :: installed)
    (hgeneration : first.generation = second.generation) : first = second := by
  have hnodup : ((Snapshot.initial :: installed).map (·.generation)).Nodup := by
    rw [hremembers.numbered]
    exact List.nodup_range'
  exact List.inj_on_of_nodup_map hnodup hfirst hsecond hgeneration

/-- The generation is the number of installed snapshots. -/
theorem generation_eq_length (hremembers : fleet.Remembers installed) :
    fleet.store.generation = installed.length := by
  have hlast : ((Snapshot.initial :: installed).map (·.generation)).getLast? =
      some fleet.store.snapshot.generation := by
    rw [List.getLast?_map, hremembers.current]
    rfl
  rw [hremembers.numbered, List.getLast?_range', if_neg (Nat.succ_ne_zero _)] at hlast
  have hlength := Option.some.inj hlast
  rw [Store.generation]
  omega

/-- An action adds the snapshot that it installs, if it installs one. -/
theorem effect (hremembers : fleet.Remembers installed) (heffect : fleet.Effect action next) :
    next.Remembers
      (installed ++ if next.store.snapshot = fleet.store.snapshot then [] else [next.store.snapshot])
    := by
  have hold : ∀ {snapshot : Snapshot} (added : List Snapshot),
      snapshot ∈ Snapshot.initial :: installed →
        snapshot ∈ Snapshot.initial :: (installed ++ added) := by
    intro snapshot added hmem
    rw [← List.cons_append]
    exact List.mem_append_left added hmem
  have hbases : ∀ (added : List Snapshot), ∀ cycle ∈ next.cycles,
      cycle.attempt.base ∈ Snapshot.initial :: (installed ++ added) := by
    intro added cycle hcycle
    rcases heffect.base_cases hcycle with ⟨before, hbefore, hsame⟩ | hcurrent
    · rw [hsame]
      exact hold added (hremembers.bases before hbefore)
    · rw [hcurrent]
      exact hold added hremembers.current_mem
  have hheld : ∀ (added : List Snapshot), ∀ snapshot ∈ next.held,
      snapshot ∈ Snapshot.initial :: (installed ++ added) := by
    intro added snapshot hsnapshot
    rcases heffect.held_cases hsnapshot with hbefore | hcurrent
    · exact hold added (hremembers.held snapshot hbefore)
    · rw [hcurrent]
      exact hold added hremembers.current_mem
  by_cases hsame : next.store.snapshot = fleet.store.snapshot
  · rw [if_pos hsame]
    refine ⟨?_, ?_, hbases [], hheld []⟩
    · simpa using hremembers.numbered
    · simpa [hsame] using hremembers.current
  · rw [if_neg hsame]
    have hgeneration : next.store.snapshot.generation = installed.length + 1 := by
      rw [← hremembers.generation_eq_length]
      obtain hunchanged | ⟨batch, -, hfollows, hbatch⟩ |
        ⟨_, _, _, _, proposal, -, -, -, hfollows, hproposal, -⟩ := heffect.snapshot_cases
      · exact absurd hunchanged hsame
      · rw [hbatch]
        exact hfollows
      · rw [hproposal]
        exact hfollows
    have hconcat : List.range' 0 (installed.length + 1 + 1) =
        List.range' 0 (installed.length + 1) ++ [installed.length + 1] := by
      rw [List.range'_concat]
      simp
    refine ⟨?_, ?_, hbases _, hheld _⟩
    · rw [← List.cons_append, List.map_append, hremembers.numbered, List.length_append,
        List.length_singleton, hconcat, List.map_singleton, hgeneration]
    · rw [← List.cons_append, List.getLast?_append]
      rfl

end Remembers

namespace Abides

variable {origin fleet next : Fleet} {action : Action}

theorem settings_set (habides : origin.Abides fleet) {number : Nat} {engine engine' : Engine}
    (hengine : fleet.engines[number]? = some engine) (hsame : engine'.SameSettings engine)
    (other : Nat) (found : Engine) (hfound : (fleet.engines.set number engine')[other]? = some found) :
    ∃ first, origin.engines[other]? = some first ∧ found.SameSettings first := by
  by_cases heq : number = other
  · subst heq
    have hlt : number < fleet.engines.length := (List.getElem?_eq_some_iff.1 hengine).1
    rw [List.getElem?_set_self hlt] at hfound
    cases hfound
    obtain ⟨first, hfirst, hsettings⟩ := habides.settings number engine hengine
    exact ⟨first, hfirst, hsame.trans hsettings⟩
  · rw [List.getElem?_set_ne heq] at hfound
    exact habides.settings other found hfound

theorem effect (habides : origin.Abides fleet) (heffect : fleet.Effect action next) :
    origin.Abides next := by
  cases heffect with
  | nothing => exact habides
  | intrude => exact ⟨habides.length_engines, habides.settings, habides.proposals⟩
  | read => exact ⟨habides.length_engines, habides.settings, habides.proposals⟩
  | begin number now engine hnone hengine =>
      have hsame : ((engine.withStore fleet.store).begin now).1.SameSettings engine := ⟨rfl, rfl, rfl⟩
      refine ⟨List.length_set.trans habides.length_engines, habides.settings_set hengine hsame,
        fun cycle hcycle cluster backend proposal hstage => ?_⟩
      rcases List.mem_append.1 hcycle with hbefore | hlast
      · exact habides.proposals cycle hbefore cluster backend proposal hstage
      · rw [List.mem_singleton.1 hlast] at hstage
        cases hstage
  | move number moved engine engine' stage hnumber hmoved hengine hmoves =>
      have hsame : engine'.SameSettings engine :=
        hmoves.sameSettings.trans (⟨rfl, rfl, rfl⟩ : (engine.withStore fleet.store).SameSettings engine)
      refine ⟨List.length_set.trans habides.length_engines, habides.settings_set hengine hsame,
        fun cycle hcycle cluster backend proposal hstage => ?_⟩
      rcases List.mem_or_eq_of_mem_set hcycle with hbefore | hnew
      · exact habides.proposals cycle hbefore cluster backend proposal hstage
      · rw [hnew] at hstage ⊢
        simp only at hstage
        subst hstage
        generalize hbefore : moved.stage = before at hmoves
        cases hmoves with
        | wait =>
            have hmem := List.mem_of_getElem? hmoved
            exact habides.proposals moved hmem cluster backend proposal hbefore
        | propose _ _ elapsed =>
            obtain ⟨first, hfirst, hsettings⟩ := habides.settings moved.engine engine hengine
            have hover : (engine.withStore fleet.store).SameSettings first :=
              (⟨rfl, rfl, rfl⟩ : (engine.withStore fleet.store).SameSettings engine).trans hsettings
            exact ⟨first, elapsed, hfirst, hover.propose_eq _ _ _ _⟩

end Abides

/-! ### Runs -/

theorem run_append (fleet : Fleet) (first second : List Action) :
    fleet.run (first ++ second) = (fleet.run first).run second :=
  List.foldl_append

theorem run_append_singleton (fleet : Fleet) (actions : List Action) (last : Action) :
    fleet.run (actions ++ [last]) = (fleet.run actions).act last :=
  run_append fleet actions [last]

theorem installed_append_singleton (fleet : Fleet) (actions : List Action) (last : Action) :
    fleet.installed (actions ++ [last]) =
      fleet.installed actions ++
        if (fleet.run (actions ++ [last])).store.snapshot = (fleet.run actions).store.snapshot then []
        else [(fleet.run (actions ++ [last])).store.snapshot] := by
  induction actions generalizing fleet with
  | nil => rfl
  | cons action rest ih =>
      rw [List.cons_append, installed, installed]
      have hrest := ih (fleet.act action)
      by_cases hsame : (fleet.act action).store.snapshot = fleet.store.snapshot
      · rw [if_pos hsame, if_pos hsame]
        exact hrest
      · rw [if_neg hsame, if_neg hsame, List.cons_append]
        exact congrArg _ hrest

/-- A stage that no move leaves is kept for the rest of a run. -/
theorem stage_run_of_closed {p : Stage → Prop}
    (hclosed : ∀ (attempt : Attempt) (engine engine' : Engine) (stage stage' : Stage),
      attempt.Moves engine stage engine' stage' → p stage → p stage')
    {fleet : Fleet} {number : Nat} {cycle : Cycle} (hcycle : fleet.cycles[number]? = some cycle)
    (hstage : p cycle.stage) (actions : List Action) :
    ∃ stage, (fleet.run actions).cycles[number]? = some { cycle with stage } ∧ p stage := by
  induction actions using List.reverseRecOn with
  | nil => exact ⟨cycle.stage, hcycle, hstage⟩
  | append_singleton before last ih =>
      obtain ⟨stage, hbefore, hkept⟩ := ih
      rw [run_append_singleton]
      obtain hsame | ⟨engine, engine', stage', -, -, hmoves, -, hmoved⟩ :=
        (effect_act (fleet.run before) last).cycle_cases hbefore
      · exact ⟨stage, hsame, hkept⟩
      · exact ⟨stage', hmoved, hclosed _ _ _ _ _ hmoves hkept⟩

variable {fleet : Fleet} {actions : List Action}

theorem IsFresh.not_mem_cycles (hfresh : fleet.IsFresh) (cycle : Cycle) : cycle ∉ fleet.cycles := by
  rw [hfresh.idle]
  exact List.not_mem_nil

/-- The snapshots that a run installs are numbered without a gap, and the last of them is the current one. -/
theorem remembers_run (hfresh : fleet.IsFresh) (actions : List Action) :
    (fleet.run actions).Remembers (fleet.installed actions) := by
  induction actions using List.reverseRecOn with
  | nil =>
      refine ⟨rfl, congrArg some hfresh.empty.symm, ?_, ?_⟩
      · exact fun cycle hcycle => absurd hcycle (hfresh.not_mem_cycles cycle)
      · intro snapshot hsnapshot
        have hnone : snapshot ∈ fleet.held := hsnapshot
        rw [hfresh.unread] at hnone
        cases hnone
  | append_singleton before last ih =>
      rw [installed_append_singleton, run_append_singleton]
      exact ih.effect (effect_act _ last)

/-- In a run the engines keep their settings. -/
theorem abides_run (hfresh : fleet.IsFresh) (actions : List Action) :
    fleet.Abides (fleet.run actions) := by
  induction actions using List.reverseRecOn with
  | nil =>
      exact ⟨rfl, fun number engine hengine => ⟨engine, hengine, rfl, rfl, rfl⟩,
        fun cycle hcycle => absurd hcycle (hfresh.not_mem_cycles cycle)⟩
  | append_singleton before last ih =>
      rw [run_append_singleton]
      exact ih.effect (effect_act _ last)

/-- What holds of every cycle that has just begun, and is kept by its own moves and while others act, holds of
the cycle all along a run. -/
theorem cycle_run_induction (hfresh : fleet.IsFresh) {number : Nat} {p : List Action → Cycle → Prop}
    (hbegun : ∀ actions cycle, cycle.stage = .fetching → p actions cycle)
    (hkept : ∀ before last cycle, p before cycle → p (before ++ [last]) cycle)
    (hmoved : ∀ before last cycle (engine engine' : Engine) stage, last.cycle? = some number →
      (fleet.run before).cycles[number]? = some cycle →
      cycle.attempt.Moves (engine.withStore (fleet.run before).store) cycle.stage engine' stage →
      ((fleet.run before).act last).store = engine'.store →
      ((fleet.run before).act last).cycles[number]? = some { cycle with stage } →
      p before cycle → p (before ++ [last]) { cycle with stage })
    {cycle : Cycle} (hcycle : (fleet.run actions).cycles[number]? = some cycle) : p actions cycle := by
  induction actions using List.reverseRecOn generalizing cycle with
  | nil => exact absurd (List.mem_of_getElem? hcycle) (hfresh.not_mem_cycles cycle)
  | append_singleton before last ih =>
      have heffect := effect_act (fleet.run before) last
      rw [run_append_singleton] at hcycle
      cases hold : (fleet.run before).cycles[number]? with
      | none => exact hbegun _ cycle (heffect.stage_of_new hold hcycle)
      | some old =>
          obtain hsame | ⟨engine, engine', stage, hown, -, hmoves, hstore, hnext⟩ :=
            heffect.cycle_cases hold
          · cases hcycle.symm.trans hsame
            exact hkept before last cycle (ih hold)
          · cases hcycle.symm.trans hnext
            exact hmoved before last old engine engine' stage hown hold hmoves hstore hnext (ih hold)

/-! ### Offers -/

/-- The action of a cycle that installs what the cycle by itself would have made of the current findings. -/
structure Installs (origin prior : Fleet) (action : Action) (number : Nat) (cycle : Cycle) : Prop where
  own : action.cycle? = some number
  found : prior.cycles[number]? = some cycle
  current : cycle.attempt.base = prior.store.snapshot
  sequential : ∃ engine cluster backend proposal,
    origin.engines[cycle.engine]? = some engine
      ∧ cycle.stage = .proposed cluster backend proposal
      ∧ (prior.act action).store.snapshot =
        (engine.withStore prior.store).afterCycle cycle.attempt.startedAt cluster backend
  reported : ∃ report, (prior.act action).cycles[number]? = some { cycle with stage := .reported report }
    ∧ report.outcome = .committed ∧ report.generation = (prior.act action).store.generation

variable {number : Nat} {cycle : Cycle} {cluster backend : Inventory} {proposal : Proposal}

/-- The proposal of a cycle follows the findings exactly if they are those that the cycle started from. -/
theorem follows_iff_current (hfresh : fleet.IsFresh)
    (hcycle : (fleet.run actions).cycles[number]? = some cycle)
    (hstage : cycle.stage = .proposed cluster backend proposal) :
    proposal.batch.generation = (fleet.run actions).store.generation + 1 ↔
      cycle.attempt.base = (fleet.run actions).store.snapshot := by
  have hremembers := remembers_run hfresh actions
  have hmem := List.mem_of_getElem? hcycle
  obtain ⟨engine, elapsed, -, rfl⟩ :=
    (abides_run hfresh actions).proposals cycle hmem cluster backend proposal hstage
  constructor
  · intro hfollows
    exact hremembers.eq_of_generation (hremembers.bases cycle hmem) hremembers.current_mem
      (Nat.succ.inj hfollows)
  · intro hcurrent
    exact congrArg (fun base : Snapshot => base.generation + 1) hcurrent

theorem installs_of_reported (hfresh : fleet.IsFresh) {action : Action}
    (hown : action.cycle? = some number) (hcycle : (fleet.run actions).cycles[number]? = some cycle)
    (hstage : cycle.stage = .proposed cluster backend proposal)
    (hfollows : proposal.batch.generation = (fleet.run actions).store.generation + 1)
    (hsnapshot : ((fleet.run actions).act action).store.snapshot = proposal.batch.toSnapshot)
    (hreported : ((fleet.run actions).act action).cycles[number]? =
      some { cycle with stage := .reported proposal.report }) :
    fleet.Installs (fleet.run actions) action number cycle := by
  have hcurrent := (follows_iff_current hfresh hcycle hstage).1 hfollows
  obtain ⟨engine, elapsed, hengine, rfl⟩ :=
    (abides_run hfresh actions).proposals cycle (List.mem_of_getElem? hcycle) cluster backend proposal
      hstage
  refine ⟨hown, hcycle, hcurrent, ⟨engine, cluster, backend, _, hengine, hstage, ?_⟩,
    ⟨_, hreported, rfl, ?_⟩⟩
  · rw [hsnapshot, Engine.afterCycle_eq_advanced]
    exact congrArg (fun base : Snapshot =>
      base.advanced engine.policy engine.retention cycle.attempt.startedAt cluster backend) hcurrent
  · rw [Store.generation, hsnapshot]
    rfl

/-- The findings change by another writer's commit or by a cycle whose base is still current. -/
theorem snapshot_act_cases (hfresh : fleet.IsFresh) (actions : List Action) (action : Action) :
    ((fleet.run actions).act action).store.snapshot = (fleet.run actions).store.snapshot
      ∨ (∃ batch, action = .intrude batch
        ∧ batch.generation = (fleet.run actions).store.generation + 1
        ∧ ((fleet.run actions).act action).store.snapshot = batch.toSnapshot)
      ∨ ∃ number cycle, fleet.Installs (fleet.run actions) action number cycle := by
  obtain hsame | hintruded | ⟨number, cycle, cluster, backend, proposal, hown, hcycle, hstage,
    hfollows, hsnapshot, hreported⟩ := (effect_act (fleet.run actions) action).snapshot_cases
  · exact .inl hsame
  · exact .inr (.inl hintruded)
  · exact .inr (.inr ⟨number, cycle,
      installs_of_reported hfresh hown hcycle hstage hfollows hsnapshot hreported⟩)

/-- An offer is installed if the base of its cycle is still current, and else it changes nothing. -/
theorem offer_cases (hfresh : fleet.IsFresh)
    (hcycle : (fleet.run actions).cycles[number]? = some cycle)
    (hstage : cycle.stage = .proposed cluster backend proposal) (elapsed : Nat) :
    (cycle.attempt.base = (fleet.run actions).store.snapshot →
        fleet.Installs (fleet.run actions) (.proceed number elapsed) number cycle)
      ∧ (cycle.attempt.base ≠ (fleet.run actions).store.snapshot →
        ((fleet.run actions).act (.proceed number elapsed)).store = (fleet.run actions).store
          ∧ ∃ error, ((fleet.run actions).act (.proceed number elapsed)).cycles[number]? =
            some { cycle with stage := .refused proposal error }) := by
  have habides := abides_run hfresh actions
  have hlt : number < (fleet.run actions).cycles.length := (List.getElem?_eq_some_iff.1 hcycle).1
  obtain ⟨engine, hengine⟩ : ∃ engine, (fleet.run actions).engines[cycle.engine]? = some engine := by
    obtain ⟨first, -, hfirst, -⟩ :=
      habides.proposals cycle (List.mem_of_getElem? hcycle) cluster backend proposal hstage
    have hindex := (List.getElem?_eq_some_iff.1 hfirst).1
    rw [← habides.length_engines] at hindex
    exact ⟨_, List.getElem?_eq_getElem hindex⟩
  have hiff := follows_iff_current hfresh hcycle hstage
  constructor
  · intro hcurrent
    have hfollows := hiff.2 hcurrent
    have hcommit : (fleet.run actions).store.commit proposal.batch =
        .ok { (fleet.run actions).store with snapshot := proposal.batch.toSnapshot } := by
      rw [Store.commit, if_pos hfollows]
    refine installs_of_reported hfresh rfl hcycle hstage hfollows ?_ ?_
    · simp only [act, turn, hcycle, hengine, hstage, Engine.proceed, Engine.withStore, hcommit]
    · simp only [act, turn, hcycle, hengine, hstage, Engine.proceed, Engine.withStore, hcommit]
      exact List.getElem?_set_self hlt
  · intro hstale
    have hbehind := fun hfollows => hstale (hiff.1 hfollows)
    obtain ⟨error, hcommit⟩ : ∃ error,
        (fleet.run actions).store.commit proposal.batch = .error error := by
      rw [Store.commit, if_neg hbehind]
      exact ⟨_, rfl⟩
    refine ⟨?_, error, ?_⟩
    · simp only [act, turn, hcycle, hengine, hstage, Engine.proceed, Engine.withStore, hcommit]
    · simp only [act, turn, hcycle, hengine, hstage, Engine.proceed, Engine.withStore, hcommit]
      exact List.getElem?_set_self hlt

structure Writes (prior : Fleet) (action : Action) (number : Nat) (cycle : Cycle) (report : CycleReport) :
    Prop where
  own : action.cycle? = some number
  found : prior.cycles[number]? = some cycle
  unwritten : cycle.stage.report? = none
  written : (prior.act action).cycles[number]? = some { cycle with stage := .reported report }
  moves : ∃ engine engine' : Engine, (prior.act action).store = engine'.store
    ∧ cycle.attempt.Moves (engine.withStore prior.store) cycle.stage engine' (.reported report)

/-- A cycle that has a report has written it on its way. -/
theorem exists_writes_of_report? (hfresh : fleet.IsFresh) {report : CycleReport}
    (hcycle : (fleet.run actions).cycles[number]? = some cycle)
    (hreport : cycle.stage.report? = some report) :
    ∃ before action after writing, actions = before ++ action :: after
      ∧ writing.attempt = cycle.attempt ∧ (fleet.run before).Writes action number writing report := by
  let p : List Action → Cycle → Prop := fun actions cycle => cycle.stage.report? = some report →
    ∃ before action after writing, actions = before ++ action :: after
      ∧ writing.attempt = cycle.attempt ∧ (fleet.run before).Writes action number writing report
  have hkept : ∀ earlier last old, p earlier old → p (earlier ++ [last]) old := by
    intro earlier last old hold hreported
    obtain ⟨before, action, after, writing, rfl, hattempt, hwrites⟩ := hold hreported
    exact ⟨before, action, after ++ [last], writing, by simp, hattempt, hwrites⟩
  refine cycle_run_induction (p := p) hfresh ?_ hkept ?_ hcycle hreport
  · intro actions begun hfetching hreported
    rw [hfetching] at hreported
    cases hreported
  · intro earlier last old engine engine' stage hown hold hmoves hstore hmoved hearlier hreported
    cases hbefore : old.stage.report? with
    | some first =>
        cases (hmoves.report?_eq hbefore).symm.trans hreported
        exact hkept earlier last old hearlier hbefore
    | none =>
        obtain rfl : stage = .reported report := hmoves.eq_reported hbefore hreported
        exact ⟨earlier, last, [], old, rfl, rfl, hown, hold, hbefore, hmoved, engine, engine', hstore,
          hmoves⟩

/-- A cycle that reports that it committed reports what it proposed, and has installed that on its way. -/
theorem exists_proposal_of_committed (hfresh : fleet.IsFresh) {report : CycleReport}
    (hcycle : (fleet.run actions).cycles[number]? = some cycle)
    (hreport : cycle.stage.report? = some report) (houtcome : report.outcome = .committed) :
    ∃ before action after offered engine cluster backend elapsed, actions = before ++ action :: after
      ∧ offered.attempt = cycle.attempt ∧ fleet.Installs (fleet.run before) action number offered
      ∧ let proposal := Engine.propose engine offered.attempt cluster backend elapsed
        report = proposal.report
          ∧ ((fleet.run before).act action).store.snapshot = proposal.batch.toSnapshot := by
  obtain ⟨before, action, after, offered, hactions, hattempt, hwrites⟩ :=
    exists_writes_of_report? hfresh hcycle hreport
  obtain ⟨engine, engine', hstore, hmoves⟩ := hwrites.moves
  have hunwritten := hwrites.unwritten
  generalize hstage : offered.stage = stage at hmoves hunwritten
  cases hmoves with
  | wait => cases hunwritten
  | install cluster backend proposal hfollows =>
      have hsnapshot : ((fleet.run before).act action).store.snapshot = proposal.batch.toSnapshot := by
        rw [hstore]
      have hinstalls := installs_of_reported hfresh hwrites.own hwrites.found hstage hfollows hsnapshot
        hwrites.written
      obtain ⟨first, elapsed, -, rfl⟩ :=
        (abides_run hfresh before).proposals offered (List.mem_of_getElem? hwrites.found) cluster backend
          proposal hstage
      exact ⟨before, action, after, offered, first, cluster, backend, elapsed, hactions, hattempt,
        hinstalls, rfl, hsnapshot⟩
  | degrade => cases houtcome
  | report => cases houtcome

/-- A cycle that reports that it committed has installed its findings on its way. -/
theorem exists_installs_of_committed (hfresh : fleet.IsFresh) {report : CycleReport}
    (hcycle : (fleet.run actions).cycles[number]? = some cycle)
    (hreport : cycle.stage.report? = some report) (houtcome : report.outcome = .committed) :
    ∃ prior action offered, fleet.Passes actions prior action ∧ offered.attempt = cycle.attempt
      ∧ fleet.Installs prior action number offered
      ∧ report.generation = (prior.act action).store.generation := by
  obtain ⟨before, action, after, offered, engine, cluster, backend, elapsed, hactions, hattempt,
    hinstalls, rfl, hsnapshot⟩ := exists_proposal_of_committed hfresh hcycle hreport houtcome
  refine ⟨fleet.run before, action, offered, ⟨before, after, hactions, rfl⟩, hattempt, hinstalls, ?_⟩
  rw [Store.generation, hsnapshot]
  rfl

/-- A cycle of a run that ends without a report was cancelled. -/
theorem endsWell_run (hfresh : fleet.IsFresh) (hcycle : (fleet.run actions).cycles[number]? = some cycle) :
    cycle.stage.EndsWell := by
  refine cycle_run_induction (p := fun _ cycle => cycle.stage.EndsWell) hfresh ?_ ?_ ?_ hcycle
  · intro actions begun hfetching
    rw [hfetching]
    trivial
  · exact fun _ _ _ hends => hends
  · intro before last old engine engine' stage hown hold hmoves hstore hmoved hends
    exact hmoves.endsWell hends

/-- **Cycles that overlap are serializable, and no update is lost.** The installed snapshots are numbered
1, 2, 3 and so on, and readers keep none but those. What a cycle installs is what it would have made by
itself of the findings that it replaces; a cycle commits if and only if these are the ones it began with, and
a cycle that does not commit leaves the findings alone. -/
theorem overlapping_cycles_are_serializable (fleet : Fleet) (hfresh : fleet.IsFresh)
    (actions : List Action) :
    let now := fleet.run actions
    let installed := fleet.installed actions
    (installed.map (·.generation) = List.range' 1 installed.length
      ∧ (Snapshot.initial :: installed).getLast? = some now.store.snapshot)
    ∧ (∀ snapshot ∈ now.held, snapshot ∈ Snapshot.initial :: installed)
    ∧ (∀ prior action, fleet.Passes actions prior action →
      (prior.act action).store.snapshot = prior.store.snapshot
        ∨ (∃ batch, action = .intrude batch ∧ batch.generation = prior.store.generation + 1
          ∧ (prior.act action).store.snapshot = batch.toSnapshot)
        ∨ ∃ number cycle, fleet.Installs prior action number cycle)
    ∧ (∀ prior number elapsed cycle cluster backend proposal,
      fleet.Passes actions prior (.proceed number elapsed) → prior.cycles[number]? = some cycle →
      cycle.stage = .proposed cluster backend proposal →
        (cycle.attempt.base = prior.store.snapshot →
          fleet.Installs prior (.proceed number elapsed) number cycle)
        ∧ (cycle.attempt.base ≠ prior.store.snapshot →
          (prior.act (.proceed number elapsed)).store = prior.store
            ∧ ∀ later, now.cycles[number]? = some later → later.stage.IsRefused))
    ∧ ∀ number cycle, now.cycles[number]? = some cycle →
      cycle.attempt.base ∈ Snapshot.initial :: installed
        ∧ (∀ report, cycle.stage.report? = some report → report.outcome = .committed →
          ∃ prior action offered, fleet.Passes actions prior action
            ∧ offered.attempt = cycle.attempt ∧ fleet.Installs prior action number offered
            ∧ report.generation = (prior.act action).store.generation)
        ∧ ((∀ report, cycle.stage.report? = some report → report.outcome ≠ .committed) →
          ∀ prior action, fleet.Passes actions prior action → action.cycle? = some number →
            (prior.act action).store.snapshot = prior.store.snapshot)
        ∧ cycle.stage.EndsWell := by
  intro now installed
  have hremembers := remembers_run hfresh actions
  have hlater : ∀ {before after : List Action} {action : Action},
      actions = before ++ action :: after → now = ((fleet.run before).act action).run after := by
    intro before after action hactions
    simp only [now]
    rw [hactions, run_append]
    rfl
  refine ⟨⟨?_, hremembers.current⟩, hremembers.held, ?_, ?_, fun number cycle hcycle => ⟨?_, ?_, ?_, ?_⟩⟩
  · have hnumbered := hremembers.numbered
    rw [List.map_cons, List.range'_succ] at hnumbered
    exact (List.cons.inj hnumbered).2
  · rintro prior action ⟨before, after, -, rfl⟩
    exact snapshot_act_cases hfresh before action
  · rintro prior number elapsed cycle cluster backend proposal ⟨before, after, hactions, rfl⟩ hcycle hstage
    obtain ⟨hinstalls, hrefused⟩ := offer_cases hfresh hcycle hstage elapsed
    refine ⟨hinstalls, fun hstale => ?_⟩
    obtain ⟨hstore, error, hnext⟩ := hrefused hstale
    refine ⟨hstore, fun later hlaterCycle => ?_⟩
    obtain ⟨stage, hended, hlost⟩ := stage_run_of_closed
      (fun _ _ _ _ _ hmoves => hmoves.isRefused) hnext trivial after
    rw [hlater hactions] at hlaterCycle
    cases hlaterCycle.symm.trans hended
    exact hlost
  · exact hremembers.bases cycle (List.mem_of_getElem? hcycle)
  · intro report hreport houtcome
    exact exists_installs_of_committed hfresh hcycle hreport houtcome
  · rintro huncommitted prior action ⟨before, after, hactions, rfl⟩ hown
    obtain hsame | ⟨batch, hintruded, -⟩ | ⟨other, offered, hinstalls⟩ :=
      snapshot_act_cases hfresh before action
    · exact hsame
    · rw [hintruded] at hown
      cases hown
    · -- A cycle that installed its findings says so ever after.
      cases hown.symm.trans hinstalls.own
      obtain ⟨report, hreported, houtcome, -⟩ := hinstalls.reported
      obtain ⟨stage, hended, hkept⟩ := stage_run_of_closed (p := fun stage => stage.report? = some report)
        (fun _ _ _ _ _ hmoves => hmoves.report?_eq) hreported rfl after
      rw [hlater hactions] at hcycle
      cases hcycle.symm.trans hended
      exact absurd houtcome (huncommitted report hkept)
  · exact endsWell_run hfresh hcycle

/-- Two engines begin from the same findings, and the first one to offer its proposal commits. -/
theorem overlapping_cycles_of_two_engines :
    let record : Record := { Record.named .backendVolume "tank/a" with rawKey := some "A " }
    let fleet : Fleet := ⟨.initial, [.ofPolicy ⟨1, 0⟩ 0, .ofPolicy ⟨2, 5⟩ 0], [], []⟩
    let actions : List Action :=
      [.begin 0 ⟨1, 0⟩, .begin 1 ⟨2, 0⟩, .receive 0 (.fetched ⟨[], []⟩) (.fetched ⟨[record], []⟩),
        .receive 1 (.fetched ⟨[], []⟩) (.fetched ⟨[], []⟩), .proceed 0 5, .proceed 1 5, .proceed 0 6,
        .read, .proceed 1 6, .proceed 1 7]
    let now := fleet.run actions
    fleet.IsFresh
      ∧ now.cycles.map (·.stage.report?.map (·.outcome)) = [some .committed, some .commitFailed]
      ∧ (fleet.installed actions).map (·.generation) = [1]
      ∧ (∀ snapshot ∈ now.held, snapshot ∈ Snapshot.initial :: fleet.installed actions)
      ∧ ∃ prior action offered, fleet.Passes actions prior action
        ∧ fleet.Installs prior action 0 offered := by
  intro record fleet actions now
  have houtcomes : now.cycles.map (·.stage.report?.map (·.outcome)) =
      [some .committed, some .commitFailed] := by decide +kernel +revert
  have hlength : (fleet.installed actions).length = 1 := by decide +kernel +revert
  have hfresh : fleet.IsFresh := ⟨rfl, rfl, rfl⟩
  obtain ⟨⟨hnumbered, -⟩, hheld, -, -, hcycles⟩ := overlapping_cycles_are_serializable fleet hfresh actions
  rw [hlength] at hnumbered
  obtain ⟨first, hfirst, hcommitted⟩ : ∃ first, now.cycles[0]? = some first
      ∧ first.stage.report?.map (·.outcome) = some .committed := by
    have hzero := congrArg (fun outcomes : List (Option Outcome) => outcomes[0]?) houtcomes
    simpa [List.getElem?_map] using hzero
  obtain ⟨report, hreport, houtcome⟩ := Option.map_eq_some_iff.1 hcommitted
  obtain ⟨prior, action, offered, hpasses, -, hinstalls, -⟩ :=
    (hcycles 0 first hfirst).2.1 report hreport houtcome
  exact ⟨hfresh, houtcomes, hnumbered, hheld, prior, action, offered, hpasses, hinstalls⟩

end Fleet

end OrphanWatch
