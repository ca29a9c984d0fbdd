import OrphanWatch.Api
import OrphanWatch.Proofs.ReportedFindings

/-!
# The answer about usage

Whoever asks for the usage is given the account of the current findings, with the drift of the last report.
Findings and report are read one after the other, and a cycle changes them at different moments: it commits,
hands its report out, and remembers it only then. Any steps can be taken between the two readings. Followers
have no access to the store, so a reader cannot tell a report that is being handed out from one that is only
written, and `Engine.close` does both at once.

What keeps the two together is that the drift is left out unless the report says that it committed the
generation of the account. That is enough, because a generation is committed once, and other writers date
their accounts by the generation that they commit.
-/

namespace OrphanWatch

def Snapshot.IsStamped (snapshot : Snapshot) : Prop :=
  ∀ usage, snapshot.usage = some usage → usage.generation = snapshot.generation

namespace Api

variable {snapshot : Snapshot} {lastReport : Option CycleReport} {account : Usage} {drift : Drift}

def Response.field? (response : Response) (name : String) : Option Json :=
  match response.body with
  | .json value => value.field? name
  | .text _ => none

/-- The drift of an account is that of the report which committed the account. -/
theorem driftOf_eq_some_iff :
    driftOf account lastReport = some drift ↔
      ∃ report, lastReport = some report ∧ report.outcome = .committed
        ∧ report.generation = account.generation ∧ report.drift = some drift := by
  simp only [driftOf, Option.bind_eq_some_iff, Option.filter_eq_some_iff, Bool.and_eq_true, beq_iff_eq,
    and_assoc]

theorem exists_of_field?_drift {value : Json}
    (hfield : (usage snapshot lastReport).field? "drift" = some value) :
    ∃ account drift, snapshot.usage = some account ∧ driftOf account lastReport = some drift
      ∧ usage snapshot lastReport =
        .ok (Json.ofFields [("usage", account.toJson), ("drift", drift.toJson)]) := by
  unfold usage at hfield ⊢
  cases husage : snapshot.usage with
  | none =>
      rw [husage] at hfield
      cases hfield
  | some account =>
      rw [husage] at hfield
      cases hdrift : driftOf account lastReport with
      | none =>
          have hlacks : (Json.ofFields [("usage", account.toJson)]).field? "drift" = none :=
            SortedMap.get?_insert_of_ne .empty (by decide : "drift" ≠ "usage") account.toJson
          simp only [hdrift] at hfield
          cases hlacks.symm.trans hfield
      | some drift => exact ⟨account, drift, rfl, hdrift, by simp only [hdrift, Json.optionalField]⟩

end Api

namespace Fleet

variable {fleet : Fleet} {actions : List Action}

/-! ### The two readings -/

/-- The answer of whoever reads the findings after some actions, and the last report after some more. -/
def usageAnswer (fleet : Fleet) (before between : List Action) : Api.Response :=
  Api.usage (fleet.run before).store.snapshot (fleet.run (before ++ between)).store.lastReport

/-- In a run the findings carry the account of their own generation. -/
theorem isStamped_run (hfresh : fleet.IsFresh)
    (hwriters : ∀ batch, Action.intrude batch ∈ actions → batch.toSnapshot.IsStamped) :
    (fleet.run actions).store.snapshot.IsStamped := by
  induction actions using List.reverseRecOn with
  | nil =>
      intro usage husage
      have hempty : (fleet.run []).store.snapshot = .initial := hfresh.empty
      rw [hempty] at husage
      cases husage
  | append_singleton earlier last ih =>
      have hstamped := ih fun batch hbatch => hwriters batch (List.mem_append_left _ hbatch)
      rw [run_append_singleton]
      obtain hsame | ⟨batch, hlast, -, hsnapshot⟩ | ⟨number, cycle, hinstalls⟩ :=
        snapshot_act_cases hfresh earlier last
      · rw [hsame]
        exact hstamped
      · rw [hsnapshot]
        exact hwriters batch (List.mem_append_right _ (List.mem_singleton.2 hlast.symm))
      · obtain ⟨engine, cluster, backend, -, -, -, hsnapshot⟩ := hinstalls.sequential
        rw [hsnapshot, Engine.afterCycle_eq_advanced]
        intro usage husage
        cases husage
        rfl

/-- Only a cycle that ends replaces the last report. -/
theorem Effect.lastReport_cases {next : Fleet} {action : Action} (heffect : fleet.Effect action next) :
    next.store.lastReport = fleet.store.lastReport
      ∨ ∃ (number : Nat) (cycle : Cycle) (report : CycleReport), next.store.lastReport = some report
        ∧ next.cycles[number]? = some cycle ∧ cycle.stage.report? = some report := by
  cases heffect with
  | move number cycle engine engine' stage hnumber hcycle hengine hmoves =>
      have hlt : number < fleet.cycles.length := (List.getElem?_eq_some_iff.1 hcycle).1
      generalize cycle.stage = before at hmoves
      cases hmoves with
      | close report => exact .inr ⟨number, _, report, rfl, List.getElem?_set_self hlt, rfl⟩
      | _ => exact .inl rfl
  | _ => exact .inl rfl

theorem exists_cycle_of_lastReport (hunreported : fleet.store.lastReport = none) {report : CycleReport}
    (hlast : (fleet.run actions).store.lastReport = some report) :
    ∃ (number : Nat) (cycle : Cycle), (fleet.run actions).cycles[number]? = some cycle
      ∧ cycle.stage.report? = some report := by
  induction actions using List.reverseRecOn with
  | nil => cases hunreported.symm.trans hlast
  | append_singleton before last ih =>
      rw [run_append_singleton] at hlast ⊢
      obtain hsame | ⟨number, cycle, written, hwritten, hcycle, hreport⟩ :=
        (effect_act (fleet.run before) last).lastReport_cases
      · obtain ⟨number, cycle, hcycle, hreport⟩ := ih (hsame.symm.trans hlast)
        obtain ⟨stage, hnext, hkept⟩ := stage_run_of_closed
          (p := fun stage => stage.report? = some report)
          (fun _ _ _ _ _ hmoves => hmoves.report?_eq) hcycle hreport [last]
        exact ⟨number, _, hnext, hkept⟩
      · cases hwritten.symm.trans hlast
        exact ⟨number, cycle, hcycle, hreport⟩

/-- What the store held at some time is among what was installed up to any later time. -/
theorem snapshot_mem_installed (hfresh : fleet.IsFresh) (before after : List Action) :
    (fleet.run before).store.snapshot ∈ Snapshot.initial :: fleet.installed (before ++ after) := by
  induction after using List.reverseRecOn with
  | nil =>
      rw [List.append_nil]
      exact (remembers_run hfresh before).current_mem
  | append_singleton between last ih =>
      rw [← List.append_assoc, installed_append_singleton, ← List.cons_append]
      exact List.mem_append_left _ ih

/-- An action that brings the generation up to one that was current after `before` was taken by then. -/
theorem passes_of_generation {before between earlier later : List Action} {action : Action}
    (hactions : before ++ between = earlier ++ action :: later)
    (hgrows : (fleet.run earlier).store.generation < (fleet.run before).store.generation) :
    fleet.Passes before (fleet.run earlier) action := by
  have hnot : ∀ rest, earlier ≠ before ++ rest := by
    rintro rest rfl
    rw [run_append] at hgrows
    exact absurd (generation_le_run (fleet.run before) rest) (Nat.not_le.2 hgrows)
  obtain ⟨rest, hearlier, -⟩ | ⟨rest, hbefore, hrest⟩ := List.append_eq_append_iff.1 hactions
  · exact absurd hearlier (hnot rest)
  · cases rest with
    | nil => exact absurd (hbefore.trans (List.append_nil _)).symm (by simpa using hnot [])
    | cons first rest =>
        obtain ⟨rfl, -⟩ := List.cons.inj hrest
        exact ⟨earlier, rest, hbefore, rfl⟩

/-- **The answer about usage never mixes generations.** If it has a drift, that is the drift from the account of
the snapshot before the given one to the account that is given, and it was reported by the cycle that
committed the given snapshot. -/
theorem usage_answer_is_of_one_generation (fleet : Fleet) (hfresh : fleet.IsFresh)
    (hunreported : fleet.store.lastReport = none) (before between : List Action)
    (hwriters : ∀ batch, Action.intrude batch ∈ before ++ between → batch.toSnapshot.IsStamped)
    (value : Json) (hfield : (fleet.usageAnswer before between).field? "drift" = some value) :
    let given := (fleet.run before).store.snapshot
    let now := fleet.run (before ++ between)
    ∃ account previous drift,
      fleet.usageAnswer before between =
          .ok (Json.ofFields [("usage", account.toJson), ("drift", drift.toJson)])
        ∧ given.usage = some account
        ∧ drift.toGeneration = account.generation
        ∧ drift = Drift.between previous account
        ∧ ∃ prior action number offered cycle report,
          fleet.Passes before prior action
            ∧ fleet.Installs prior action number offered
            ∧ (prior.act action).store.snapshot = given
            ∧ prior.store.generation + 1 = given.generation
            ∧ prior.store.snapshot.usage = some previous
            ∧ now.cycles[number]? = some cycle ∧ cycle.attempt = offered.attempt
            ∧ cycle.stage.report? = some report
            ∧ now.store.lastReport = some report
            ∧ report.generation = given.generation
            ∧ report.usage = some account ∧ report.drift = some drift := by
  intro given now
  obtain ⟨account, drift, haccount, hof, hanswer⟩ := Api.exists_of_field?_drift hfield
  obtain ⟨report, hlast, houtcome, hgeneration, hdrift⟩ := Api.driftOf_eq_some_iff.1 hof
  obtain ⟨number, cycle, hcycle, hreport⟩ := exists_cycle_of_lastReport hunreported hlast
  obtain ⟨earlier, action, later, offered, engine, cluster, backend, elapsed, hactions, hattempt,
    hinstalls, rfl, hsnapshot⟩ := exists_proposal_of_committed hfresh hcycle hreport houtcome
  set proposal := engine.propose offered.attempt cluster backend elapsed
  have hstamp : account.generation = given.generation :=
    isStamped_run hfresh (fun batch hbatch => hwriters batch (List.mem_append_left _ hbatch)) account
      haccount
  -- Both snapshots are of the generation that the report gives, so they are the same.
  have hcommitted : proposal.batch.toSnapshot = given := by
    have hmem := snapshot_mem_installed hfresh (earlier ++ [action]) later
    rw [List.append_assoc, List.singleton_append, ← hactions, run_append_singleton, hsnapshot] at hmem
    exact (remembers_run hfresh (before ++ between)).eq_of_generation hmem
      (snapshot_mem_installed hfresh before between) (hgeneration.trans hstamp)
  have hbase : proposal.batch.generation = (fleet.run earlier).store.generation + 1 :=
    congrArg (fun base : Snapshot => base.generation + 1) hinstalls.current
  have hnext : (fleet.run earlier).store.generation + 1 = given.generation := by
    rw [← hbase, ← hcommitted]
    rfl
  have hgrows : (fleet.run earlier).store.generation < given.generation := by omega
  have hgiven : proposal.report.usage = some account :=
    (congrArg Snapshot.usage hcommitted).trans haccount
  have hmeasured : proposal.report.drift =
      offered.attempt.base.usage.map fun previous => Drift.between previous account := by
    cases hgiven
    rfl
  obtain ⟨previous, hprevious, rfl⟩ := Option.map_eq_some_iff.1 (hmeasured.symm.trans hdrift)
  rw [hinstalls.current] at hprevious
  exact ⟨account, previous, _, hanswer, haccount, rfl, rfl, fleet.run earlier, action, number, offered,
    cycle, proposal.report, passes_of_generation hactions hgrows, hinstalls, hsnapshot.trans hcommitted,
    hnext, hprevious, hcycle, hattempt.symm, hreport, hlast, hgeneration.trans hstamp, hgiven, hdrift⟩

/-- The second scan commits before the findings are read, and reports after that. By the time the last report
is read, a third scan has been refused, and another writer has replaced the findings. -/
theorem usage_answer_of_replaced_findings :
    let record : Record := { Record.named .backendVolume "tank/a" with rawKey := some "A " }
    let before : List Action :=
      [.begin 0 ⟨1, 0⟩, .receive 0 (.fetched ⟨[], []⟩) (.fetched ⟨[], []⟩), .proceed 0 5, .proceed 0 6,
        .proceed 0 7, .begin 0 ⟨2, 0⟩, .begin 0 ⟨3, 0⟩,
        .receive 1 (.fetched ⟨[], []⟩) (.fetched ⟨[record], []⟩),
        .receive 2 (.fetched ⟨[], []⟩) (.fetched ⟨[], []⟩), .proceed 1 5, .proceed 2 5, .proceed 1 6]
    let between : List Action :=
      [.proceed 2 6, .proceed 1 7, .proceed 2 7, .intrude ⟨3, ⟨4, 0⟩, .empty, none⟩]
    solitary.IsFresh
      ∧ solitary.store.lastReport = none
      ∧ (∀ batch, Action.intrude batch ∈ before ++ between → batch.toSnapshot.IsStamped)
      ∧ (solitary.run (before ++ between)).store.generation = 3
      ∧ ∃ account previous : Usage, account.generation = 2
        ∧ (solitary.run before).store.snapshot.usage = some account
        ∧ solitary.usageAnswer before between =
          .ok (Json.ofFields
            [("usage", account.toJson), ("drift", (Drift.between previous account).toJson)]) := by
  intro record before between
  have hanswered : ((solitary.usageAnswer before between).field? "drift").isSome = true := by
    decide +kernel +revert
  have hgenerations : ((solitary.run before).store.generation,
      (solitary.run (before ++ between)).store.generation) = (2, 3) := by decide +kernel +revert
  have hfresh : solitary.IsFresh := ⟨rfl, rfl, rfl⟩
  have hwriters : ∀ batch, Action.intrude batch ∈ before ++ between → batch.toSnapshot.IsStamped := by
    intro batch hbatch
    obtain rfl : batch = ⟨3, ⟨4, 0⟩, .empty, none⟩ := by simpa [before, between] using hbatch
    intro usage husage
    cases husage
  obtain ⟨value, hfield⟩ := Option.isSome_iff_exists.1 hanswered
  obtain ⟨account, previous, drift, hanswer, haccount, -, rfl, -⟩ :=
    usage_answer_is_of_one_generation solitary hfresh rfl before between hwriters value hfield
  simp only [Prod.mk.injEq] at hgenerations
  have hstamp : account.generation = 2 := by
    rw [← hgenerations.1]
    exact isStamped_run hfresh (fun batch hbatch => hwriters batch (List.mem_append_left _ hbatch)) account
      haccount
  exact ⟨hfresh, rfl, hwriters, hgenerations.2, account, previous, hstamp, haccount, hanswer⟩

end Fleet

end OrphanWatch
