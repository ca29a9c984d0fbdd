import OrphanWatch.Proofs.Accounting
import OrphanWatch.Proofs.Hysteresis
import OrphanWatch.Proofs.Ledger

/-!
# A retention of zero

A backend snapshot is withheld while it is younger than the retention. A retention of zero is meant to withhold
nothing, but the age of a snapshot is negative if the clock of the backend is ahead of that of the monitor, and
then it is below zero as well. So a retention of zero withholds exactly the snapshots that are ahead of the
clock (`Record.isAhead`); every other record that the backend alone holds is followed, whether it is a snapshot
or a volume (`Engine.zero_retention_withholds_only_snapshots_ahead`).
-/

namespace OrphanWatch

/-- The record is a backend snapshot that is dated later than now. -/
def Record.isAhead (record : Record) (now : Instant) : Bool :=
  record.kind == .backendSnapshot
    && record.createdAt.any fun created => decide (now.since created < 0)

theorem Candidate.evaluate_with_kind (candidate : Candidate) (kind : Kind) (now : Instant)
    (policy : Policy) :
    ({ candidate with kind } : Candidate).evaluate now policy =
      ({ (candidate.evaluate now policy).1 with kind }, (candidate.evaluate now policy).2) := by
  by_cases hmet : candidate.state = .candidate ∧ policy.isMetBy candidate now = true
  · have hsame : ({ candidate with kind } : Candidate).state = .candidate
        ∧ policy.isMetBy { candidate with kind } now = true := hmet
    rw [evaluate, if_pos hsame, evaluate, if_pos hmet]
  · have hsame : ¬ (({ candidate with kind } : Candidate).state = .candidate
        ∧ policy.isMetBy { candidate with kind } now = true) := hmet
    rw [evaluate, if_neg hsame, evaluate, if_neg hmet]

namespace Round

variable {round : Round}

/-- With a retention of zero, what is withheld is ahead of the clock. -/
theorem withholds_of_retention_zero (hzero : round.retention = 0) (record : Record) :
    round.withholds record = record.isAhead round.now := by
  rw [withholds, hzero, Record.isAhead]

/-- Eviction does not change what is followed. -/
theorem followed_kept (key : Key) (side : OrphanSide) (record : Record) (entry : Option Candidate) :
    round.followed key side record (round.kept entry) = round.followed key side record entry := by
  rw [← followed_filter_isActive, filter_isActive_kept, followed_filter_isActive]

/-- The kind of the record that is followed is of no importance, but for the kind of a new candidate. -/
theorem followed_with_kind (key : Key) (side : OrphanSide) (record : Record) (kind : Kind)
    (entry : Option Candidate) :
    { round.followed key side { record with kind } entry with kind := record.kind } =
      { round.followed key side record entry with kind := record.kind } := by
  rw [followed_eq, followed_eq]
  cases entry.filter fun candidate => candidate.isActive && candidate.side == side with
  | some candidate => rfl
  | none =>
      let fresh := Candidate.start key side record round.generation round.now
      have hkind := fresh.evaluate_with_kind kind round.now round.policy
      have hstart : Candidate.start key side { record with kind } round.generation round.now =
          { fresh with kind } := rfl
      simp only [hstart, hkind]
      rfl

end Round

namespace Correlation

variable {cluster backend : List Record} {key : Key} {record : Record}

/-- What the backend alone holds is listed there, and no bound claim has its key. -/
theorem mem_and_not_settled_of_backendOnly
    (hpair : (of cluster backend).pairs.get? key = some (.backendOnly record)) :
    record ∈ backend ∧ key ∉ (of cluster backend).settled.keys := by
  have hmem : record ∈ eligible cluster backend .backend key := by
    rw [← on?_toList_of_pair hpair .backend]
    exact List.mem_singleton_self record
  obtain ⟨hlisted, hside, hkey, -⟩ := mem_eligible_iff.1 hmem
  refine ⟨hlisted, fun hsettled => ?_⟩
  have hscope : record.kind.scope = .claim := by
    rw [← (Key.isNormal_of_ofRecord? hkey).2]
    exact scope_of_settled hsettled
  revert hside hscope
  cases record.kind <;> decide

end Correlation

namespace Classification

variable {round : Round} {skipped : List Scope} {cluster backend : List Record}
  {base : SortedMap Key Candidate} {key : Key} {record : Record}

/-- A record that the backend alone holds is withheld or followed. -/
theorem get?_run_of_backendOnly
    (hpair : (Correlation.of cluster backend).pairs.get? key = some (.backendOnly record)) :
    (run round skipped (.of cluster backend) base).candidates.get? key =
      if round.withholds record = true then round.kept (base.get? key)
      else some (round.followed key .backendOnly record (base.get? key)) := by
  have hunsettled : (Correlation.of cluster backend).settled.contains key = false :=
    SortedMap.contains_eq_false_iff.2 (Correlation.mem_and_not_settled_of_backendOnly hpair).2
  rw [get?_run, Correlation.sighting, hpair, hunsettled]
  simp only [Round.passed, Round.paired, Pair.orphan?, Round.settled, Round.vanished,
    Option.isNone_some, Bool.false_and, Bool.false_eq_true, if_false, true_and, Round.followed_kept]

end Classification

namespace Engine

theorem retention_of_create {config : EngineConfig} {cluster backend : Side × String} {engine : Engine}
    (hcreate : create config cluster backend = .ok engine) : engine.retention = config.retention := by
  simp only [create, bind, Except.bind] at hcreate
  split at hcreate
  · cases hcreate
  · split at hcreate
    · cases hcreate
    · split at hcreate
      · cases hcreate
      · next retention hretention =>
          split at hcreate
          · cases hcreate
            rw [EngineConfig.retentionSpan, EngineConfig.span] at hretention
            split at hretention
            · cases hretention
              rfl
            · cases hretention
          · cases hcreate

/-- No attempt changes the settings of the engine. -/
theorem Reaches.settings {engine now : Engine} {attempts : List Attempt}
    (hreaches : engine.Reaches now attempts) :
    now.policy = engine.policy ∧ now.retention = engine.retention := by
  induction hreaches with
  | refl => exact ⟨rfl, rfl⟩
  | begin hreaches startedAt ih => exact ih
  | @conclude now before after attempt hreaches cluster backend cancelled elapsed ih =>
      obtain ⟨hpolicy, hretention, -⟩ :=
        conclude_settings now attempt cluster backend cancelled elapsed
      rw [hpolicy, hretention]
      exact ih

/-- **A retention of zero withholds only the snapshots that are ahead of the clock.** -/
theorem zero_retention_withholds_only_snapshots_ahead {config : EngineConfig}
    {clusterSource backendSource : Side × String} {fresh engine : Engine} {attempts : List Attempt}
    (hcreate : create config clusterSource backendSource = .ok fresh) (hzero : config.retention = 0)
    (hreaches : fresh.Reaches engine attempts) (attempt : Attempt) {clusterFetch backendFetch : Fetch}
    {cancelled : Bool} {elapsed : Nat} {report : CycleReport}
    (hreport : (engine.conclude attempt clusterFetch backendFetch cancelled elapsed).2 = .ok report)
    (hcommitted : report.outcome = .committed) :
    ∃ cluster backend, clusterFetch = .fetched cluster ∧ backendFetch = .fetched backend
      ∧ let round := attempt.round engine.policy 0
        let pairs := (Attempt.correlation cluster backend).pairs
        let next := (engine.conclude attempt clusterFetch backendFetch cancelled elapsed).1.store.snapshot
        report.withinRetention = pairs.toList.countP (fun entry =>
            entry.2.orphan?.any fun orphan =>
              orphan.1 == .backendOnly && orphan.2.isAhead attempt.startedAt)
          ∧ ((∀ record ∈ backend.records, record.isAhead attempt.startedAt = false) →
            report.withinRetention = 0)
          ∧ (∀ key record, pairs.get? key = some (.backendOnly record) →
            let entry := attempt.base.candidates.get? key
            next.candidates.get? key =
              if record.isAhead attempt.startedAt = true then round.kept entry
              else some (round.followed key .backendOnly record entry))
          ∧ ∀ key record entry,
            { round.followed key .backendOnly { record with kind := .backendVolume } entry with
              kind := record.kind } =
              { round.followed key .backendOnly record entry with kind := record.kind } := by
  obtain ⟨cluster, backend, hcluster, hbackend, hproposed, hnext⟩ :=
    conclude_of_committed hreport hcommitted
  have hretention : engine.retention = 0 := by
    rw [hreaches.settings.2, retention_of_create hcreate, hzero]
    rfl
  refine ⟨cluster, backend, hcluster, hbackend, ?_⟩
  intro round pairs next
  let skipped := skippedScopes cluster backend
  let run := Classification.run round skipped (Attempt.correlation cluster backend) attempt.base.candidates
  have hrun : next.candidates = run.candidates ∧ report.withinRetention = run.withinRetention := by
    rw [hproposed]
    simp only [next, hnext]
    simp only [propose, Attempt.propose, Attempt.classify, Batch.toSnapshot, hretention]
    exact ⟨rfl, rfl⟩
  have hwithholds : ∀ record, round.withholds record = record.isAhead attempt.startedAt :=
    Round.withholds_of_retention_zero rfl
  have hwithin : report.withinRetention = pairs.toList.countP (fun entry =>
      entry.2.orphan?.any fun orphan =>
        orphan.1 == .backendOnly && orphan.2.isAhead attempt.startedAt) := by
    rw [hrun.2, (Classification.counts_run round skipped _ _).2.1]
    simp only [Round.isWithheld, hwithholds]
    rfl
  refine ⟨hwithin, fun hnone => ?_, fun key record hpair => ?_, fun key record entry =>
    Round.followed_with_kind key .backendOnly record .backendVolume entry⟩
  · rw [hwithin, List.countP_eq_zero]
    rintro ⟨key, pair⟩ hmem hahead
    have hpair : pairs.get? key = some pair := SortedMap.get?_eq_some_iff.2 hmem
    cases pair with
    | healthy _ _ => cases hahead
    | clusterOnly record => cases hahead
    | backendOnly record =>
        have hlisted := (Correlation.mem_and_not_settled_of_backendOnly hpair).1
        have hbehind := hnone record (List.mem_filter.1 hlisted).1
        simp only [Pair.orphan?, Option.any_some, beq_self_eq_true, Bool.true_and, hbehind] at hahead
        cases hahead
  · simp only [hrun.1, ← hwithholds]
    exact Classification.get?_run_of_backendOnly hpair

/-- A snapshot of the same instant is not withheld. -/
theorem zero_retention_follows_snapshot_of_now :
    let snapshot : Record :=
      { Record.named .backendSnapshot "tank/a@s1" with rawKey := some "a@s1", createdAt := some ⟨1, 0⟩ }
    let config : EngineConfig := { EngineConfig.standard with observations := 1, minAge := 0, retention := 0 }
    let fresh : Engine := { ofPolicy ⟨1, 0⟩ 0 with config }
    let scan := Scan.complete ⟨1, 0⟩ [snapshot]
    create config (.cluster, "cluster") (.backend, "backend") = .ok fresh ∧ config.retention = 0
      ∧ ∃ report, (fresh.scan scan).2 = .ok report ∧ report.outcome = .committed
        ∧ report.withinRetention = 0 := by
  intro snapshot config fresh scan
  have hcreate : create config (.cluster, "cluster") (.backend, "backend") = .ok fresh := by
    decide +kernel +revert
  have hreaches : fresh.Reaches (fresh.begin scan.now).1 [(fresh.begin scan.now).2] :=
    Reaches.refl.begin scan.now
  obtain ⟨report, hreport, hcommitted⟩ : ∃ report, ((fresh.begin scan.now).1.conclude
      (fresh.begin scan.now).2 scan.cluster scan.backend scan.cancelled scan.elapsed).2 = .ok report
        ∧ report.outcome = .committed :=
    ⟨_, rfl, rfl⟩
  refine ⟨hcreate, rfl, report, hreport, hcommitted, ?_⟩
  obtain ⟨cluster, backend, -, hbackend, -, hnone, -⟩ :=
    zero_retention_withholds_only_snapshots_ahead hcreate rfl hreaches (fresh.begin scan.now).2 hreport
      hcommitted
  refine hnone fun record hmem => ?_
  cases hbackend
  have hall : ∀ record ∈ (Inventory.ofAnswers .backend (.ofRecords [snapshot])).records,
      record.isAhead ⟨1, 0⟩ = false := by
    decide +kernel
  exact hall record hmem

/-- Yet a snapshot that is dated one second later than now is withheld, and no candidate is started. -/
theorem zero_retention_withholds_snapshot_ahead :
    let snapshot : Record :=
      { Record.named .backendSnapshot "tank/a@s1" with rawKey := some "a@s1", createdAt := some ⟨2, 0⟩ }
    let config : EngineConfig := { EngineConfig.standard with observations := 1, minAge := 0, retention := 0 }
    ((create config (.cluster, "cluster") (.backend, "backend")).toOption.bind fun fresh =>
      (fresh.scan (.complete ⟨1, 0⟩ [snapshot])).2.toOption).map (fun report =>
        (report.outcome, report.withinRetention, report.newCandidates)) =
      some (.committed, 1, 0) := by
  decide +kernel

end Engine

end OrphanWatch
