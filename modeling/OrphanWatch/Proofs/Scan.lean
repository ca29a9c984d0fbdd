import Mathlib.Data.List.Induction
import OrphanWatch.Engine.Basic
import OrphanWatch.Flight.Basic

/-!
# Scans one after another

A `Scan` is what one engine meets in one attempt: the time, the answers of the two sources, the way in which
each of the two fetches ends, and whether the attempt is cancelled before its findings are offered. A run is
a list of scans, each of which begins when the one before it has ended.

What a run leaves in the store is a fold over its scans (`Engine.snapshot_scanAll`): a scan that fetched both
sides and was not cancelled makes the next snapshot out of the current one, every other scan makes none.
Attempts may also overlap (`Engine.Reaches`). A scan that is asked for directly is a `Scan`
(`Timeline.runScanAt_eq_scan`).
-/

namespace OrphanWatch

abbrev Answer : Type := Except MonitorError (List Record)

namespace Answer

def isUnlisted : Answer → Bool
  | .error (.kindNotListed ..) => true
  | _ => false

/-- Whether the answer fails the fetch of its side. That a kind cannot be listed does not. -/
def fails : Answer → Bool
  | .ok _ => false
  | .error (.kindNotListed ..) => false
  | .error _ => true

def records (answer : Answer) : List Record :=
  answer.toOption.getD []

def ofRecords (records : List Record) (kind : Kind) : Answer :=
  .ok (records.filter fun record => record.kind == kind)

end Answer

def Inventory.ofAnswers (side : Side) (answer : Kind → Answer) : Inventory where
  records := side.kinds.flatMap fun kind => (answer kind).records
  unlisted := side.kinds.filter fun kind => (answer kind).isUnlisted

/-- The ways in which the fetch of a side can end, given what its source answers. Which of them it is
depends on the time. -/
inductive Fetch.Ends (side : Side) (answer : Kind → Answer) : Fetch → Prop
  | cancelled : Ends side answer .cancelled
  | timedOut (timeout : Nat) : Ends side answer (.timedOut side timeout)
  | failed {kind : Kind} {error : MonitorError} (hkind : kind ∈ side.kinds)
      (hanswer : answer kind = .error error) (hfails : (answer kind).fails = true) :
      Ends side answer (.ofError side error)
  | fetched (hanswers : ∀ kind ∈ side.kinds, (answer kind).fails = false) :
      Ends side answer (.fetched (.ofAnswers side answer))

structure Scan where
  now : Instant
  answer : Kind → Answer
  cluster : Fetch
  backend : Fetch
  clusterEnds : cluster.Ends .cluster answer
  backendEnds : backend.Ends .backend answer
  /-- Whether the attempt is cancelled before its findings are offered to the store. -/
  cancelled : Bool
  elapsed : Nat

namespace Scan

def complete (now : Instant) (records : List Record) : Scan where
  now
  answer := .ofRecords records
  cluster := .fetched (.ofAnswers .cluster (.ofRecords records))
  backend := .fetched (.ofAnswers .backend (.ofRecords records))
  clusterEnds := .fetched fun _ _ => rfl
  backendEnds := .fetched fun _ _ => rfl
  cancelled := false
  elapsed := 0

def overdue (now : Instant) (records : List Record) (timeout : Nat) : Scan :=
  { complete now records with
    backend := .timedOut .backend timeout
    backendEnds := .timedOut timeout
    elapsed := timeout }

def inventories? (scan : Scan) : Option (Inventory × Inventory) :=
  match scan.cluster, scan.backend, scan.cancelled with
  | .fetched cluster, .fetched backend, false => some (cluster, backend)
  | _, _, _ => none

end Scan

def Snapshot.advanced (snapshot : Snapshot) (policy : Policy) (retention : Int) (now : Instant)
    (cluster backend : Inventory) : Snapshot :=
  let candidates :=
    (Classification.run ⟨snapshot.generation + 1, now, policy, retention⟩
      (skippedScopes cluster backend) (Attempt.correlation cluster backend)
      snapshot.candidates).candidates
  { generation := snapshot.generation + 1
    committedAt := some now
    candidates
    usage := some
      (.measure (snapshot.generation + 1) now cluster.records backend.records candidates.values) }

def Snapshot.after (policy : Policy) (retention : Int) (snapshot : Snapshot) (scan : Scan) :
    Snapshot :=
  match scan.inventories? with
  | some (cluster, backend) => snapshot.advanced policy retention scan.now cluster backend
  | none => snapshot

namespace Engine

def scan (engine : Engine) (scan : Scan) : Engine × Except MonitorError CycleReport :=
  (engine.begin scan.now).1.conclude (engine.begin scan.now).2 scan.cluster scan.backend
    scan.cancelled scan.elapsed

def scanAll (engine : Engine) (scans : List Scan) : Engine :=
  scans.foldl (fun engine scan => (engine.scan scan).1) engine

def results (engine : Engine) : List Scan → List (Except MonitorError CycleReport)
  | [] => []
  | scan :: rest => (engine.scan scan).2 :: (engine.scan scan).1.results rest

/-- An engine with the standard settings, except for the policy and the retention. -/
def ofPolicy (policy : Policy) (retention : Int) : Engine :=
  ⟨.standard, policy, retention, ⟨"cluster", "backend"⟩, .initial, .idle, 0, []⟩

structure IsFresh (engine : Engine) : Prop where
  empty : engine.store.snapshot = .initial
  unused : engine.attempts = 0

theorem isFresh_of_create {config : EngineConfig} {cluster backend : Side × String} {engine : Engine}
    (hcreate : create config cluster backend = .ok engine) : engine.IsFresh := by
  simp only [create, bind, Except.bind] at hcreate
  split at hcreate
  · cases hcreate
  · split at hcreate
    · cases hcreate
    · split at hcreate
      · cases hcreate
      · split at hcreate
        · cases hcreate
          exact ⟨rfl, rfl⟩
        · cases hcreate

theorem IsFresh.addFollower {engine : Engine} (hfresh : engine.IsFresh) :
    engine.addFollower.IsFresh :=
  ⟨hfresh.empty, hfresh.unused⟩

/-! ### One scan -/

/-- A proposal that follows the current snapshot replaces it. -/
theorem commit_of_follows (engine : Engine) (proposal : Proposal)
    (hfollows : proposal.batch.generation = engine.store.generation + 1) :
    engine.commit proposal =
      ({ engine with store := { engine.store with snapshot := proposal.batch.toSnapshot } },
        proposal.report) := by
  have hstore : engine.store.commit proposal.batch =
      .ok { engine.store with snapshot := proposal.batch.toSnapshot } := by
    rw [Store.commit, if_pos hfollows]
  simp only [commit, Proposal.commit, hstore]

theorem commit_of_not_follows (engine : Engine) (proposal : Proposal)
    (hbehind : proposal.batch.generation ≠ engine.store.generation + 1) :
    ∃ error, engine.commit proposal =
      (engine, proposal.refusedReport engine.store.snapshot error) := by
  have hstore : ∃ error, engine.store.commit proposal.batch = .error error := by
    rw [Store.commit, if_neg hbehind]
    exact ⟨_, rfl⟩
  obtain ⟨error, hstore⟩ := hstore
  simp only [commit, Proposal.commit, hstore]
  exact ⟨error, rfl⟩

/-- Everything that the end of an attempt can do: it is abandoned, it closes with a report of what failed,
or its proposal is committed or refused. -/
theorem conclude_cases (engine : Engine) (attempt : Attempt) (cluster backend : Fetch)
    (cancelled : Bool) (elapsed : Nat) :
    ((cluster = .cancelled ∨ backend = .cancelled
          ∨ ∃ left right, cluster = .fetched left ∧ backend = .fetched right ∧ cancelled = true)
        ∧ engine.conclude attempt cluster backend cancelled elapsed = engine.abandon)
      ∨ ((∃ error, cluster = .failed error ∨ backend = .failed error)
        ∧ cluster ≠ .cancelled ∧ backend ≠ .cancelled
        ∧ engine.conclude attempt cluster backend cancelled elapsed =
          engine.close
            (attempt.degradedReport engine.names cluster backend engine.store.snapshot elapsed))
      ∨ ∃ left right, cluster = .fetched left ∧ backend = .fetched right ∧ cancelled = false
        ∧ ((attempt.base.generation = engine.store.generation
            ∧ engine.conclude attempt cluster backend cancelled elapsed =
              ({ engine with
                  store :=
                    { engine.store with
                      snapshot := (engine.propose attempt left right elapsed).batch.toSnapshot } } :
                Engine).close (engine.propose attempt left right elapsed).report)
          ∨ (attempt.base.generation ≠ engine.store.generation
            ∧ ∃ error, engine.conclude attempt cluster backend cancelled elapsed =
              engine.close ((engine.propose attempt left right elapsed).refusedReport
                engine.store.snapshot error))) := by
  cases cluster with
  | cancelled => exact .inl ⟨.inl rfl, rfl⟩
  | failed error =>
      cases backend with
      | cancelled => exact .inl ⟨.inr (.inl rfl), rfl⟩
      | failed other =>
          exact .inr (.inl ⟨⟨error, .inl rfl⟩, Fetch.noConfusion, Fetch.noConfusion, rfl⟩)
      | fetched right =>
          exact .inr (.inl ⟨⟨error, .inl rfl⟩, Fetch.noConfusion, Fetch.noConfusion, rfl⟩)
  | fetched left =>
      cases backend with
      | cancelled => exact .inl ⟨.inr (.inl rfl), rfl⟩
      | failed error =>
          exact .inr (.inl ⟨⟨error, .inr rfl⟩, Fetch.noConfusion, Fetch.noConfusion, rfl⟩)
      | fetched right =>
          cases cancelled with
          | true => exact .inl ⟨.inr (.inr ⟨left, right, rfl, rfl, rfl⟩), rfl⟩
          | false =>
              let proposal := engine.propose attempt left right elapsed
              refine .inr (.inr ⟨left, right, rfl, rfl, rfl, ?_⟩)
              by_cases hfollows : proposal.batch.generation = engine.store.generation + 1
              · have hcommit := commit_of_follows engine proposal hfollows
                refine .inl ⟨Nat.succ.inj hfollows, ?_⟩
                simp only [conclude, Bool.false_eq_true, if_false, proposal, hcommit]
              · obtain ⟨error, hcommit⟩ := commit_of_not_follows engine proposal hfollows
                refine .inr ⟨fun hbase => hfollows (congrArg Nat.succ hbase), error, ?_⟩
                simp only [conclude, Bool.false_eq_true, if_false, proposal, hcommit]

/-- The end of an attempt leaves the settings alone. -/
theorem conclude_settings (engine : Engine) (attempt : Attempt) (cluster backend : Fetch)
    (cancelled : Bool) (elapsed : Nat) :
    (engine.conclude attempt cluster backend cancelled elapsed).1.policy = engine.policy
      ∧ (engine.conclude attempt cluster backend cancelled elapsed).1.retention = engine.retention
      ∧ (engine.conclude attempt cluster backend cancelled elapsed).1.attempts =
        engine.attempts := by
  obtain ⟨-, hresult⟩ | ⟨-, -, -, hresult⟩ | ⟨left, right, -, -, -, ⟨-, hresult⟩ | ⟨-, error, hresult⟩⟩ :=
    conclude_cases engine attempt cluster backend cancelled elapsed
  all_goals
    rw [hresult]
    exact ⟨rfl, rfl, rfl⟩

/-- An attempt that commits has fetched both sides, and its proposal replaces the findings. -/
theorem conclude_of_committed {engine : Engine} {attempt : Attempt} {cluster backend : Fetch}
    {cancelled : Bool} {elapsed : Nat} {report : CycleReport}
    (hreport : (engine.conclude attempt cluster backend cancelled elapsed).2 = .ok report)
    (hcommitted : report.outcome = .committed) :
    ∃ left right, cluster = .fetched left ∧ backend = .fetched right
      ∧ report = (engine.propose attempt left right elapsed).report
      ∧ (engine.conclude attempt cluster backend cancelled elapsed).1.store.snapshot =
        (engine.propose attempt left right elapsed).batch.toSnapshot := by
  obtain ⟨-, hresult⟩ | ⟨-, -, -, hresult⟩ |
    ⟨left, right, hcluster, hbackend, -, ⟨-, hresult⟩ | ⟨-, error, hresult⟩⟩ :=
    conclude_cases engine attempt cluster backend cancelled elapsed
  · rw [hresult] at hreport
    cases hreport
  · rw [hresult] at hreport
    cases hreport
    cases hcommitted
  · rw [hresult] at hreport ⊢
    cases hreport
    exact ⟨left, right, hcluster, hbackend, rfl, rfl⟩
  · rw [hresult] at hreport
    cases hreport
    cases hcommitted

/-- An attempt that is not abandoned closes with a report of its own. It is not refused if the findings are
still those of its start. -/
theorem conclude_eq_abandon_or_close (engine : Engine) (attempt : Attempt) (cluster backend : Fetch)
    (cancelled : Bool) (elapsed : Nat) :
    engine.conclude attempt cluster backend cancelled elapsed = engine.abandon
      ∨ ∃ store report, engine.conclude attempt cluster backend cancelled elapsed =
          ({ engine with store } : Engine).close report
        ∧ report.cycle = attempt.cycle
        ∧ (attempt.base.generation = engine.store.generation → report.outcome ≠ .commitFailed) := by
  obtain ⟨-, hresult⟩ | ⟨-, -, -, hresult⟩ |
    ⟨left, right, -, -, -, ⟨-, hresult⟩ | ⟨hmoved, error, hresult⟩⟩ :=
    conclude_cases engine attempt cluster backend cancelled elapsed
  · exact .inl hresult
  · exact .inr ⟨engine.store, _, hresult, rfl, fun _ => Outcome.noConfusion⟩
  · exact .inr ⟨_, _, hresult, rfl, fun _ => Outcome.noConfusion⟩
  · exact .inr ⟨engine.store, _, hresult, rfl, fun hbase => absurd hbase hmoved⟩

/-- The end of an attempt leaves the findings alone or replaces them by its proposal. -/
theorem snapshot_conclude (engine : Engine) (attempt : Attempt) (cluster backend : Fetch)
    (cancelled : Bool) (elapsed : Nat) :
    (engine.conclude attempt cluster backend cancelled elapsed).1.store.snapshot =
        engine.store.snapshot
      ∨ ∃ left right, attempt.base.generation = engine.store.generation
        ∧ (engine.conclude attempt cluster backend cancelled elapsed).1.store.snapshot =
          attempt.base.advanced engine.policy engine.retention attempt.startedAt left right := by
  obtain ⟨-, hresult⟩ | ⟨-, -, -, hresult⟩ |
    ⟨left, right, -, -, -, ⟨hbase, hresult⟩ | ⟨-, error, hresult⟩⟩ :=
    conclude_cases engine attempt cluster backend cancelled elapsed
  · exact .inl (by rw [hresult]; rfl)
  · exact .inl (by rw [hresult]; rfl)
  · exact .inr ⟨left, right, hbase, by rw [hresult]; rfl⟩
  · exact .inl (by rw [hresult]; rfl)

/-- Everything that a scan can do. Nothing comes between its begin and its end, so it is not refused. -/
theorem scan_cases (engine : Engine) (scan : Scan) :
    (∃ cluster backend report, scan.inventories? = some (cluster, backend)
      ∧ (engine.scan scan).1.store.snapshot =
        engine.store.snapshot.advanced engine.policy engine.retention scan.now cluster backend
      ∧ (engine.scan scan).2 = .ok report
      ∧ report.outcome = .committed ∧ report.cycle = engine.attempts + 1)
    ∨ (scan.inventories? = none
      ∧ (engine.scan scan).1.store.snapshot = engine.store.snapshot
      ∧ (engine.scan scan).2 = .error .cancelled)
    ∨ (∃ error report, (scan.cluster = .failed error ∨ scan.backend = .failed error)
      ∧ scan.inventories? = none
      ∧ (engine.scan scan).1.store.snapshot = engine.store.snapshot
      ∧ (engine.scan scan).2 = .ok report
      ∧ report.outcome = .degraded ∧ report.cycle = engine.attempts + 1) := by
  rw [Scan.inventories?, Engine.scan]
  obtain ⟨hinterrupted, hresult⟩ | ⟨⟨error, hfailed⟩, -, -, hresult⟩ |
    ⟨left, right, hcluster, hbackend, hcancelled, ⟨-, hresult⟩ | ⟨hmoved, -⟩⟩ :=
    conclude_cases (engine.begin scan.now).1 (engine.begin scan.now).2 scan.cluster scan.backend
      scan.cancelled scan.elapsed
  · refine .inr (.inl ⟨?_, by rw [hresult]; rfl, by rw [hresult]; rfl⟩)
    rcases hinterrupted with hcluster | hbackend | ⟨left, right, hcluster, hbackend, hcancelled⟩
    · rw [hcluster]
    · rw [hbackend]
      cases scan.cluster <;> rfl
    · rw [hcluster, hbackend, hcancelled]
  · refine .inr (.inr ⟨error, _, hfailed, ?_, by rw [hresult]; rfl, by rw [hresult]; rfl, rfl, rfl⟩)
    rcases hfailed with hcluster | hbackend
    · rw [hcluster]
    · rw [hbackend]
      cases scan.cluster <;> rfl
  · refine .inl ⟨left, right, _, ?_, by rw [hresult]; rfl, by rw [hresult]; rfl, rfl, rfl⟩
    rw [hcluster, hbackend, hcancelled]
  · exact absurd rfl hmoved

theorem scan_settings (engine : Engine) (scan : Scan) :
    (engine.scan scan).1.policy = engine.policy
      ∧ (engine.scan scan).1.retention = engine.retention
      ∧ (engine.scan scan).1.attempts = engine.attempts + 1 :=
  conclude_settings (engine.begin scan.now).1 (engine.begin scan.now).2 scan.cluster scan.backend
    scan.cancelled scan.elapsed

/-- What a scan leaves in the store depends on the findings before it and on its inventories only. -/
theorem snapshot_scan (engine : Engine) (scan : Scan) :
    (engine.scan scan).1.store.snapshot =
      engine.store.snapshot.after engine.policy engine.retention scan := by
  rw [Snapshot.after]
  obtain ⟨cluster, backend, report, hinventories, hsnapshot, -⟩ | ⟨hnone, hsnapshot, -⟩ |
    ⟨error, report, -, hnone, hsnapshot, -⟩ := scan_cases engine scan
  · rw [hsnapshot, hinventories]
  · rw [hsnapshot, hnone]
  · rw [hsnapshot, hnone]

/-! ### Runs -/

theorem scanAll_cons (engine : Engine) (scan : Scan) (rest : List Scan) :
    engine.scanAll (scan :: rest) = (engine.scan scan).1.scanAll rest := rfl

theorem scanAll_append (engine : Engine) (first second : List Scan) :
    engine.scanAll (first ++ second) = (engine.scanAll first).scanAll second :=
  List.foldl_append

theorem scanAll_settings (engine : Engine) (scans : List Scan) :
    (engine.scanAll scans).policy = engine.policy
      ∧ (engine.scanAll scans).retention = engine.retention
      ∧ (engine.scanAll scans).attempts = engine.attempts + scans.length := by
  induction scans generalizing engine with
  | nil => exact ⟨rfl, rfl, rfl⟩
  | cons scan rest ih =>
      obtain ⟨hpolicy, hretention, hattempts⟩ := scan_settings engine scan
      obtain ⟨hpolicy', hretention', hattempts'⟩ := ih (engine.scan scan).1
      rw [scanAll_cons, hpolicy', hretention', hattempts', hpolicy, hretention, hattempts,
        List.length_cons]
      exact ⟨rfl, rfl, by omega⟩

/-- What a run leaves in the store is a fold over its scans. -/
theorem snapshot_scanAll (engine : Engine) (scans : List Scan) :
    (engine.scanAll scans).store.snapshot =
      scans.foldl (Snapshot.after engine.policy engine.retention) engine.store.snapshot := by
  induction scans generalizing engine with
  | nil => rfl
  | cons scan rest ih =>
      obtain ⟨hpolicy, hretention, -⟩ := scan_settings engine scan
      rw [scanAll_cons, ih, hpolicy, hretention, snapshot_scan, List.foldl_cons]

/-! ### Attempts that overlap -/

/-- Whether an engine can come to be in a state, with the given attempts begun and not ended yet. Attempts
begin and end in any order, at any time and with any inventories. -/
inductive Reaches (engine : Engine) : Engine → List Attempt → Prop
  | refl : Reaches engine engine []
  | begin {now : Engine} {attempts : List Attempt} (hreaches : Reaches engine now attempts)
      (startedAt : Instant) :
      Reaches engine (now.begin startedAt).1 (attempts ++ [(now.begin startedAt).2])
  | conclude {now : Engine} {before after : List Attempt} {attempt : Attempt}
      (hreaches : Reaches engine now (before ++ attempt :: after)) (cluster backend : Fetch)
      (cancelled : Bool) (elapsed : Nat) :
      Reaches engine (now.conclude attempt cluster backend cancelled elapsed).1 (before ++ after)

theorem reaches_scanAll (engine : Engine) (scans : List Scan) :
    engine.Reaches (engine.scanAll scans) [] := by
  induction scans using List.reverseRecOn with
  | nil => exact .refl
  | append_singleton before scan ih =>
      rw [scanAll_append]
      have hended := Reaches.conclude (ih.begin scan.now) scan.cluster scan.backend scan.cancelled
        scan.elapsed
      exact hended

end Engine

end OrphanWatch
