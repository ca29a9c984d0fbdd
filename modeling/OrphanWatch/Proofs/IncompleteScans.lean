import OrphanWatch.Proofs.Scan

/-!
# Incomplete scans

A scan that did not get both inventories, or was cancelled, is invisible in the findings: it leaves the
snapshot as it was, and every other scan commits the next generation. So a run has the same findings without
its incomplete scans, and the generation counts the scans that committed.
-/

namespace OrphanWatch

/-- Whether some kind of some side fails to be listed, or a side does not answer in time. -/
def Scan.IsIncomplete (scan : Scan) : Prop :=
  (∃ kind, (scan.answer kind).fails = true)
    ∨ (∃ timeout, scan.cluster = .timedOut .cluster timeout)
    ∨ ∃ timeout, scan.backend = .timedOut .backend timeout

def isCommitted : Except MonitorError CycleReport → Bool
  | .ok report => report.outcome == .committed
  | .error _ => false

def isInterrupted : Except MonitorError CycleReport → Bool
  | .ok report => report.isDegraded
  | .error _ => true

def Engine.uninterrupted (engine : Engine) : List Scan → List Scan
  | [] => []
  | scan :: rest =>
    if isInterrupted (engine.scan scan).2 then (engine.scan scan).1.uninterrupted rest
    else scan :: (engine.scan scan).1.uninterrupted rest

namespace Fetch

/-- A fetch that failed for another reason than its time was failed by the answer to some kind. -/
theorem Ends.fails_of_failed {side : Side} {answer : Kind → Answer} {error : MonitorError}
    (hends : Ends side answer (.failed error)) :
    (∃ kind, (answer kind).fails = true) ∨ ∃ timeout, Fetch.failed error = .timedOut side timeout := by
  generalize hfetch : Fetch.failed error = fetch at hends
  cases hends with
  | cancelled => cases hfetch
  | timedOut timeout => exact .inr ⟨timeout, rfl⟩
  | failed hkind hanswer hfails => exact .inl ⟨_, hfails⟩
  | fetched hanswers => cases hfetch

/-- A side is fetched only if none of its kinds fails. -/
theorem Ends.fails_eq_false_of_fetched {side : Side} {answer : Kind → Answer} {inventory : Inventory}
    (hends : Ends side answer (.fetched inventory)) {kind : Kind} (hkind : kind ∈ side.kinds) :
    (answer kind).fails = false := by
  generalize hfetch : Fetch.fetched inventory = fetch at hends
  cases hends with
  | cancelled => cases hfetch
  | timedOut timeout => cases hfetch
  | failed hkind hanswer hfails =>
      unfold Fetch.ofError at hfetch
      split at hfetch <;> cases hfetch
  | fetched hanswers => exact hanswers kind hkind

end Fetch

namespace Scan

theorem inventories?_eq_some_iff {scan : Scan} {cluster backend : Inventory} :
    scan.inventories? = some (cluster, backend) ↔
      scan.cluster = .fetched cluster ∧ scan.backend = .fetched backend ∧ scan.cancelled = false := by
  unfold inventories?
  constructor
  · intro hsome
    split at hsome
    · next hcluster hbackend hcancelled =>
        cases hsome
        exact ⟨hcluster, hbackend, hcancelled⟩
    · cases hsome
  · rintro ⟨hcluster, hbackend, hcancelled⟩
    rw [hcluster, hbackend, hcancelled]

theorem inventories?_eq_none_of_isIncomplete {scan : Scan} (hincomplete : scan.IsIncomplete) :
    scan.inventories? = none := by
  cases hinventories : scan.inventories? with
  | none => rfl
  | some inventories =>
      obtain ⟨hcluster, hbackend, -⟩ := inventories?_eq_some_iff.1 hinventories
      have hclusterEnds := scan.clusterEnds
      have hbackendEnds := scan.backendEnds
      rw [hcluster] at hclusterEnds
      rw [hbackend] at hbackendEnds
      rcases hincomplete with ⟨kind, hfails⟩ | ⟨timeout, hlate⟩ | ⟨timeout, hlate⟩
      · have hanswered : (scan.answer kind).fails = false := by
          cases hside : kind.side with
          | cluster =>
              exact hclusterEnds.fails_eq_false_of_fetched (Side.mem_kinds_iff.2 hside)
          | backend =>
              exact hbackendEnds.fails_eq_false_of_fetched (Side.mem_kinds_iff.2 hside)
        rw [hanswered] at hfails
        cases hfails
      · rw [hcluster] at hlate
        cases hlate
      · rw [hbackend] at hlate
        cases hlate

/-- A side fails because one of its kinds fails or its time is over. -/
theorem isIncomplete_of_failed {scan : Scan} {error : MonitorError}
    (hfailed : scan.cluster = .failed error ∨ scan.backend = .failed error) : scan.IsIncomplete := by
  rcases hfailed with hcluster | hbackend
  · have hends := scan.clusterEnds
    rw [hcluster] at hends
    exact hends.fails_of_failed.elim .inl fun ⟨timeout, hlate⟩ =>
      .inr (.inl ⟨timeout, hcluster.trans hlate⟩)
  · have hends := scan.backendEnds
    rw [hbackend] at hends
    exact hends.fails_of_failed.elim .inl fun ⟨timeout, hlate⟩ =>
      .inr (.inr ⟨timeout, hbackend.trans hlate⟩)

end Scan

namespace Engine

/-- A scan commits or is interrupted, as it offers findings or not. -/
theorem isCommitted_scan (engine : Engine) (scan : Scan) :
    isCommitted (engine.scan scan).2 = scan.inventories?.isSome
      ∧ isInterrupted (engine.scan scan).2 = scan.inventories?.isNone := by
  obtain ⟨cluster, backend, report, hinventories, -, hresult, houtcome, -⟩ |
    ⟨hnone, -, hresult⟩ | ⟨error, report, -, hnone, -, hresult, houtcome, -⟩ :=
    scan_cases engine scan
  · rw [hresult, hinventories, isCommitted, isInterrupted, CycleReport.isDegraded, houtcome]
    exact ⟨rfl, rfl⟩
  · rw [hresult, hnone]
    exact ⟨rfl, rfl⟩
  · rw [hresult, hnone, isCommitted, isInterrupted, CycleReport.isDegraded, houtcome]
    exact ⟨rfl, rfl⟩

/-- A scan that offers findings commits them and gives the report of its proposal. -/
theorem scan_of_inventories? {engine : Engine} {scan : Scan} {cluster backend : Inventory}
    (hinventories : scan.inventories? = some (cluster, backend)) :
    let begun := engine.begin scan.now
    let proposal := begun.1.propose begun.2 cluster backend scan.elapsed
    engine.scan scan =
      ({ begun.1 with store := { begun.1.store with snapshot := proposal.batch.toSnapshot } } :
        Engine).close proposal.report := by
  intro begun proposal
  obtain ⟨hcluster, hbackend, hcancelled⟩ := Scan.inventories?_eq_some_iff.1 hinventories
  have hcommit := commit_of_follows begun.1 proposal rfl
  rw [Engine.scan, hcluster, hbackend, hcancelled]
  simp only [conclude, Bool.false_eq_true, if_false]
  rw [hcommit]

/-- An incomplete or cancelled scan leaves the findings alone, any other commits the next generation. -/
theorem scan_of_isIncomplete_or_cancelled (engine : Engine) (scan : Scan) :
    (scan.IsIncomplete ∨ (engine.scan scan).2 = .error .cancelled →
        (engine.scan scan).1.store.snapshot = engine.store.snapshot)
      ∧ (¬ (scan.IsIncomplete ∨ (engine.scan scan).2 = .error .cancelled) →
        isCommitted (engine.scan scan).2 = true
          ∧ (engine.scan scan).1.store.generation = engine.store.generation + 1) := by
  obtain ⟨cluster, backend, report, hinventories, hsnapshot, hresult, houtcome, -⟩ |
    ⟨hnone, hsnapshot, hresult⟩ | ⟨error, report, hfailed, hnone, hsnapshot, -⟩ :=
    scan_cases engine scan
  · refine ⟨?_, fun _ => ⟨?_, ?_⟩⟩
    · rintro (hincomplete | hcancelled)
      · rw [Scan.inventories?_eq_none_of_isIncomplete hincomplete] at hinventories
        cases hinventories
      · rw [hcancelled] at hresult
        cases hresult
    · rw [(isCommitted_scan engine scan).1, hinventories]
      rfl
    · rw [Store.generation, hsnapshot]
      rfl
  · exact ⟨fun _ => hsnapshot, fun hneither => absurd (.inr hresult) hneither⟩
  · exact ⟨fun _ => hsnapshot,
      fun hneither => absurd (.inl (Scan.isIncomplete_of_failed hfailed)) hneither⟩

theorem report_of_scan {engine : Engine} {scan : Scan} {report : CycleReport}
    (hresult : (engine.scan scan).2 = .ok report) :
    report.cycle = engine.attempts + 1 ∧ report.outcome ≠ .commitFailed := by
  obtain ⟨-, -, other, -, -, hother, houtcome, hcycle⟩ | ⟨-, -, hother⟩ |
    ⟨-, other, -, -, -, hother, houtcome, hcycle⟩ := scan_cases engine scan
  · cases hresult.symm.trans hother
    exact ⟨hcycle, by rw [houtcome]; decide⟩
  · cases hresult.symm.trans hother
  · cases hresult.symm.trans hother
    exact ⟨hcycle, by rw [houtcome]; decide⟩

/-- The scans that are not interrupted are those that offer findings. -/
theorem uninterrupted_eq_filter (engine : Engine) (scans : List Scan) :
    engine.uninterrupted scans = scans.filter fun scan => scan.inventories?.isSome := by
  induction scans generalizing engine with
  | nil => rfl
  | cons scan rest ih =>
      rw [uninterrupted, ih, (isCommitted_scan engine scan).2, List.filter_cons]
      cases scan.inventories? <;> rfl

/-- Scans that have nothing to offer can be left out of a run. -/
theorem foldl_after_filter (policy : Policy) (retention : Int) (snapshot : Snapshot)
    (scans : List Scan) :
    (scans.filter fun scan => scan.inventories?.isSome).foldl (Snapshot.after policy retention)
      snapshot = scans.foldl (Snapshot.after policy retention) snapshot := by
  induction scans generalizing snapshot with
  | nil => rfl
  | cons scan rest ih =>
      cases hinventories : scan.inventories? with
      | none =>
          have hsame : snapshot.after policy retention scan = snapshot := by
            rw [Snapshot.after, hinventories]
          rw [List.filter_cons_of_neg (by simp [hinventories]), ih, List.foldl_cons, hsame]
      | some inventories =>
          rw [List.filter_cons_of_pos (by simp [hinventories]), List.foldl_cons, ih, List.foldl_cons]

/-- The generation grows by one for every scan that commits. -/
theorem generation_scanAll (engine : Engine) (scans : List Scan) :
    (engine.scanAll scans).store.generation =
      engine.store.generation + ((engine.results scans).filter isCommitted).length := by
  induction scans generalizing engine with
  | nil => rfl
  | cons scan rest ih =>
      rw [scanAll_cons, ih, results, List.filter_cons, (isCommitted_scan engine scan).1,
        Store.generation, snapshot_scan, Snapshot.after]
      cases scan.inventories? with
      | none => rfl
      | some inventories =>
          simp only [Option.isSome_some, if_true, List.length_cons, Snapshot.advanced,
            Store.generation]
          omega

/-- **Incomplete scans leave no trace in the findings.** -/
theorem incomplete_scans_leave_no_trace (engine : Engine) (hfresh : engine.IsFresh)
    (scans : List Scan) :
    (∀ before scan after, scans = before ++ scan :: after →
      let prior := engine.scanAll before
      (prior.begin scan.now).2.cycle = before.length + 1
        ∧ (∀ report, (prior.scan scan).2 = .ok report →
          report.cycle = before.length + 1 ∧ report.outcome ≠ .commitFailed)
        ∧ (scan.IsIncomplete ∨ (prior.scan scan).2 = .error .cancelled →
          (prior.scan scan).1.store.snapshot = prior.store.snapshot)
        ∧ (¬ (scan.IsIncomplete ∨ (prior.scan scan).2 = .error .cancelled) →
          isCommitted (prior.scan scan).2 = true
            ∧ (prior.scan scan).1.store.generation = prior.store.generation + 1))
      ∧ (engine.scanAll scans).store.snapshot =
        (engine.scanAll (engine.uninterrupted scans)).store.snapshot
      ∧ (engine.scanAll scans).store.generation =
        ((engine.results scans).filter isCommitted).length
      ∧ (engine.scanAll scans).attempts = scans.length := by
  refine ⟨fun before scan after _ => ?_, ?_, ?_, ?_⟩
  · have hattempts : (engine.scanAll before).attempts = before.length := by
      rw [(scanAll_settings engine before).2.2, hfresh.unused, Nat.zero_add]
    obtain ⟨hunchanged, hcommits⟩ := scan_of_isIncomplete_or_cancelled (engine.scanAll before) scan
    refine ⟨congrArg (· + 1) hattempts, fun report hresult => ?_, hunchanged, hcommits⟩
    obtain ⟨hcycle, houtcome⟩ := report_of_scan hresult
    exact ⟨by rw [hcycle, hattempts], houtcome⟩
  · rw [snapshot_scanAll, snapshot_scanAll, uninterrupted_eq_filter, foldl_after_filter]
  · rw [generation_scanAll, Store.generation, hfresh.empty]
    exact Nat.zero_add _
  · rw [(scanAll_settings engine scans).2.2, hfresh.unused, Nat.zero_add]

theorem overdue_scan_leaves_no_trace :
    let record : Record := { Record.named .backendVolume "tank/a" with rawKey := some "A " }
    let engine := ofPolicy ⟨2, 5⟩ 0
    let scans : List Scan :=
      [.complete ⟨1, 0⟩ [record], .overdue ⟨3, 0⟩ [record] 1, .complete ⟨7, 0⟩ [record]]
    engine.IsFresh ∧ (engine.uninterrupted scans).length = 2
      ∧ (engine.scanAll scans).store.snapshot =
        (engine.scanAll (engine.uninterrupted scans)).store.snapshot
      ∧ (engine.scanAll scans).attempts = 3 := by
  intro record engine scans
  have hlength : (engine.uninterrupted scans).length = 2 := by decide +kernel +revert
  have hfresh : engine.IsFresh := ⟨rfl, rfl⟩
  obtain ⟨-, hsame, -, hattempts⟩ := incomplete_scans_leave_no_trace engine hfresh scans
  exact ⟨hfresh, hlength, hsame, hattempts⟩

end Engine

end OrphanWatch
