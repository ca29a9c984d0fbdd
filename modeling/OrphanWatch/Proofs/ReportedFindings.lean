import OrphanWatch.Proofs.Fleet

/-!
# What reports say about the findings

A report gives a generation, and it counts candidates. The report of a scan that commits, and that of a scan
which lacks an inventory, count those of the generation they give. A scan whose proposal the store refuses
gives the generation that the store has by then, and counts the candidates of an earlier one, from which the
scan began (`Fleet.report_is_of_one_generation_unless_refused`).
-/

namespace OrphanWatch

structure CycleReport.Counts (report : CycleReport) (snapshot : Snapshot) : Prop where
  active : report.activeCandidates = snapshot.activeCount
  confirmed : report.confirmedOrphans = snapshot.countInState .confirmed
  tally : report.candidateCounts = CandidateCount.tally snapshot.candidates.values

structure CycleReport.Describes (report : CycleReport) (snapshot : Snapshot) : Prop extends
    report.Counts snapshot where
  generation : report.generation = snapshot.generation

/-- No report tells the two snapshots apart by its counts. -/
structure Snapshot.CountsAlike (first second : Snapshot) : Prop where
  active : first.activeCount = second.activeCount
  confirmed : first.countInState .confirmed = second.countInState .confirmed
  tally : CandidateCount.tally first.candidates.values = CandidateCount.tally second.candidates.values

theorem CycleReport.Counts.iff_countsAlike {report : CycleReport} {snapshot : Snapshot}
    (hcounts : report.Counts snapshot) (other : Snapshot) :
    report.Counts other ↔ snapshot.CountsAlike other := by
  constructor
  · intro hother
    exact ⟨hcounts.active.symm.trans hother.active, hcounts.confirmed.symm.trans hother.confirmed,
      hcounts.tally.symm.trans hother.tally⟩
  · intro halike
    exact ⟨hcounts.active.trans halike.active, hcounts.confirmed.trans halike.confirmed,
      hcounts.tally.trans halike.tally⟩

theorem Snapshot.countInState_confirmed (snapshot : Snapshot) :
    snapshot.countInState .confirmed = (snapshot.candidates.values.filter (·.isConfirmed)).length := by
  have hsame : ∀ candidate : Candidate,
      ((none : Option OrphanSide).all (candidate.side == ·)
        && (some CandidateState.confirmed).all (candidate.state == ·)) = candidate.isConfirmed :=
    fun _ => rfl
  simp only [countInState, filter, hsame]

/-- What an attempt proposes describes the findings that it proposes. -/
theorem Engine.describes_propose (engine : Engine) (attempt : Attempt) (cluster backend : Inventory)
    (elapsed : Nat) :
    let proposal := engine.propose attempt cluster backend elapsed
    proposal.report.Describes proposal.batch.toSnapshot := by
  intro proposal
  refine ⟨⟨?_, ?_, ?_⟩, rfl⟩
  · simp only [proposal, propose, Attempt.propose, Batch.toSnapshot, Snapshot.activeCount]
  · rw [Snapshot.countInState_confirmed]
    simp only [proposal, propose, Attempt.propose, Batch.toSnapshot]
  · simp only [proposal, propose, Attempt.propose, Batch.toSnapshot]

theorem Attempt.describes_degradedReport (attempt : Attempt) (names : SourceNames)
    (cluster backend : Fetch) (current : Snapshot) (elapsed : Nat) :
    (attempt.degradedReport names cluster backend current elapsed).Describes current :=
  ⟨⟨rfl, rfl, rfl⟩, rfl⟩

/-- A refused proposal is reported with the counts of the base. -/
theorem Proposal.counts_refusedReport (proposal : Proposal) (current : Snapshot) (error : MonitorError) :
    (proposal.refusedReport current error).Counts proposal.base :=
  ⟨rfl, rfl, rfl⟩

namespace Fleet

variable {fleet : Fleet} {actions : List Action} {number : Nat} {cycle : Cycle}

/-! ### Generations only grow -/

theorem Remembers.generation_le {installed : List Snapshot} (hremembers : fleet.Remembers installed)
    {snapshot : Snapshot} (hmem : snapshot ∈ Snapshot.initial :: installed) :
    snapshot.generation ≤ fleet.store.generation := by
  have hlisted : snapshot.generation ∈ (Snapshot.initial :: installed).map (·.generation) :=
    List.mem_map_of_mem hmem
  rw [hremembers.numbered, List.mem_range'_1] at hlisted
  rw [hremembers.generation_eq_length]
  omega

theorem Effect.generation_le {next : Fleet} {action : Action} (heffect : fleet.Effect action next) :
    fleet.store.generation ≤ next.store.generation := by
  rw [Store.generation, Store.generation]
  obtain hsame | ⟨batch, -, hfollows, hbatch⟩ |
    ⟨_, _, _, _, proposal, -, -, -, hfollows, hproposal, -⟩ := heffect.snapshot_cases
  · exact Nat.le_of_eq (congrArg Snapshot.generation hsame.symm)
  · have hnext : next.store.snapshot.generation = fleet.store.generation + 1 := by rwa [hbatch]
    rw [hnext]
    exact Nat.le_succ _
  · have hnext : next.store.snapshot.generation = fleet.store.generation + 1 := by rwa [hproposal]
    rw [hnext]
    exact Nat.le_succ _

/-- Generations never decrease in a run. -/
theorem generation_le_run (fleet : Fleet) (actions : List Action) :
    fleet.store.generation ≤ (fleet.run actions).store.generation := by
  induction actions using List.reverseRecOn with
  | nil => exact Nat.le_refl _
  | append_singleton before last ih =>
      rw [run_append_singleton]
      exact Nat.le_trans ih (effect_act (fleet.run before) last).generation_le

/-- A refused proposal was made from findings that are not current any more. -/
theorem refused_run (hfresh : fleet.IsFresh) (hcycle : (fleet.run actions).cycles[number]? = some cycle)
    {proposal : Proposal} {error : MonitorError} (hstage : cycle.stage = .refused proposal error) :
    proposal.base = cycle.attempt.base
      ∧ cycle.attempt.base.generation < (fleet.run actions).store.generation := by
  let p : List Action → Cycle → Prop := fun actions cycle => cycle.stage = .refused proposal error →
    proposal.base = cycle.attempt.base
      ∧ cycle.attempt.base.generation < (fleet.run actions).store.generation
  have hgrows : ∀ before last,
      (fleet.run before).store.generation ≤ (fleet.run (before ++ [last])).store.generation := by
    intro before last
    rw [run_append]
    exact generation_le_run (fleet.run before) [last]
  have hkept : ∀ before last old, p before old → p (before ++ [last]) old := by
    intro before last old hold hrefused
    obtain ⟨hbase, hlt⟩ := hold hrefused
    exact ⟨hbase, Nat.lt_of_lt_of_le hlt (hgrows before last)⟩
  refine cycle_run_induction (p := p) hfresh ?_ hkept ?_ hcycle hstage
  · intro actions begun hfetching hrefused
    cases hfetching.symm.trans hrefused
  · intro before last old engine engine' stage hown hold hmoves hstore hmoved hearlier hrefused
    simp only at hrefused
    subst hrefused
    generalize hbefore : old.stage = stage at hmoves
    cases hmoves with
    | wait => exact hkept before last old hearlier hbefore
    | refuse cluster backend _ _ hbehind =>
        -- The base is one of the snapshots that the store held, so it is older if it is not the current one.
        have hmem := List.mem_of_getElem? hold
        have hremembers := remembers_run hfresh before
        obtain ⟨first, elapsed, -, rfl⟩ :=
          (abides_run hfresh before).proposals old hmem cluster backend proposal hbefore
        have hle := hremembers.generation_le (hremembers.bases old hmem)
        have hne : old.attempt.base.generation ≠ (fleet.run before).store.generation :=
          fun heq => hbehind (congrArg Nat.succ heq)
        exact ⟨rfl, Nat.lt_of_lt_of_le (Nat.lt_of_le_of_ne hle hne) (hgrows before last)⟩

/-- **A report is of one generation, unless the proposal was refused.** Then the generation is that of the
findings at the time of the report, and the counts are those of the older findings that the cycle read at its
start; so the report is of one generation only if these have the same counts. -/
theorem report_is_of_one_generation_unless_refused (fleet : Fleet) (hfresh : fleet.IsFresh)
    (actions : List Action) (number : Nat) (cycle : Cycle) (report : CycleReport)
    (hcycle : (fleet.run actions).cycles[number]? = some cycle)
    (hreport : cycle.stage.report? = some report) :
    ∃ before action after writing, actions = before ++ action :: after
      ∧ writing.attempt = cycle.attempt ∧ (fleet.run before).Writes action number writing report
      ∧ let current := (fleet.run (before ++ [action])).store.snapshot
        (report.outcome ≠ .commitFailed → report.Describes current)
        ∧ (report.outcome = .commitFailed →
          current = (fleet.run before).store.snapshot
            ∧ report.generation = current.generation
            ∧ report.Counts cycle.attempt.base
            ∧ cycle.attempt.base.generation < current.generation
            ∧ (report.Describes current ↔ cycle.attempt.base.CountsAlike current)) := by
  obtain ⟨before, action, after, writing, hactions, hattempt, hwrites⟩ :=
    exists_writes_of_report? hfresh hcycle hreport
  refine ⟨before, action, after, writing, hactions, hattempt, hwrites, ?_⟩
  obtain ⟨engine, engine', hstore, hmoves⟩ := hwrites.moves
  have hunwritten := hwrites.unwritten
  rw [run_append_singleton, hstore, ← hattempt]
  generalize hstage : writing.stage = stage at hmoves hunwritten
  cases hmoves with
  | wait => cases hunwritten
  | degrade cluster backend elapsed =>
      refine ⟨fun _ => ?_, fun hrefused => by cases hrefused⟩
      exact writing.attempt.describes_degradedReport engine.names cluster backend _ elapsed
  | install cluster backend proposal hfollows =>
      have hmem := List.mem_of_getElem? hwrites.found
      obtain ⟨first, elapsed, -, rfl⟩ :=
        (abides_run hfresh before).proposals writing hmem cluster backend proposal hstage
      refine ⟨fun _ => ?_, fun hrefused => by cases hrefused⟩
      exact first.describes_propose writing.attempt cluster backend elapsed
  | report proposal error =>
      obtain ⟨hbase, hlt⟩ := refused_run hfresh hwrites.found hstage
      have hcounts := proposal.counts_refusedReport (fleet.run before).store.snapshot error
      rw [hbase] at hcounts
      refine ⟨fun hcommitted => absurd rfl hcommitted, fun _ => ⟨rfl, rfl, hcounts, hlt, ?_⟩⟩
      rw [← hcounts.iff_countsAlike]
      exact ⟨fun hdescribes => hdescribes.toCounts, fun hcurrent => ⟨hcurrent, rfl⟩⟩

/-- A fleet of one engine, which confirms what it finds at once. -/
def solitary : Fleet := ⟨.initial, [.ofPolicy ⟨1, 0⟩ 0], [], []⟩

/-- A scan finds an orphan and commits it. While the next one is under way, another writer commits findings
without candidates. -/
def overtaking : List Action :=
  let record : Record := { Record.named .backendVolume "tank/a" with rawKey := some "A " }
  [.begin 0 ⟨1, 0⟩, .receive 0 (.fetched ⟨[], []⟩) (.fetched ⟨[record], []⟩), .proceed 0 5, .proceed 0 6,
    .begin 0 ⟨2, 0⟩, .receive 1 (.fetched ⟨[], []⟩) (.fetched ⟨[record], []⟩), .proceed 1 5,
    .intrude ⟨2, ⟨0, 0⟩, .empty, none⟩, .proceed 1 6, .proceed 1 7]

theorem report_of_overtaken :
    let now := solitary.run overtaking
    solitary.IsFresh
      ∧ ∃ cycle report, now.cycles[1]? = some cycle ∧ cycle.stage.report? = some report
        ∧ report.outcome = .commitFailed ∧ report.Counts cycle.attempt.base
        ∧ cycle.attempt.base.generation < report.generation := by
  intro now
  have houtcome : (now.cycles[1]?.bind (·.stage.report?)).map (·.outcome) = some .commitFailed := by
    decide +kernel +revert
  have hfresh : solitary.IsFresh := ⟨rfl, rfl, rfl⟩
  obtain ⟨report, hfound, hrefused⟩ := Option.map_eq_some_iff.1 houtcome
  obtain ⟨cycle, hcycle, hreport⟩ := Option.bind_eq_some_iff.1 hfound
  obtain ⟨before, action, after, writing, -, -, -, -, hcounts⟩ :=
    report_is_of_one_generation_unless_refused solitary hfresh overtaking 1 cycle report hcycle hreport
  obtain ⟨-, hgeneration, hbase, hlt, -⟩ := hcounts hrefused
  rw [← hgeneration] at hlt
  exact ⟨hfresh, cycle, report, hcycle, hreport, hrefused, hbase, hlt⟩

/-- The report of a refused proposal need not be of one generation: this one gives the second and counts a
candidate that only the first has. -/
theorem report_of_overtaken_describes_no_findings :
    let now := solitary.run overtaking
    ∃ cycle report, now.cycles[1]? = some cycle ∧ cycle.stage.report? = some report
      ∧ report.outcome = .commitFailed ∧ report.generation = now.store.generation
      ∧ report.activeCandidates = 1 ∧ now.store.snapshot.activeCount = 0
      ∧ ¬ report.Describes now.store.snapshot := by
  intro now
  have hactive : now.store.snapshot.activeCount = 0 := by decide +kernel +revert
  have hwritten : (now.cycles[1]?.bind (·.stage.report?)).map
      (fun report => (report.outcome, report.generation, report.activeCandidates)) =
        some (.commitFailed, now.store.generation, 1) := by decide +kernel +revert
  obtain ⟨report, hfound, hgiven⟩ := Option.map_eq_some_iff.1 hwritten
  obtain ⟨cycle, hcycle, hreport⟩ := Option.bind_eq_some_iff.1 hfound
  simp only [Prod.mk.injEq] at hgiven
  obtain ⟨houtcome, hgeneration, hcounted⟩ := hgiven
  refine ⟨cycle, report, hcycle, hreport, houtcome, hgeneration, hcounted, hactive, fun hdescribes => ?_⟩
  have hsame := hdescribes.active
  rw [hcounted, hactive] at hsame
  cases hsame

end Fleet

end OrphanWatch
