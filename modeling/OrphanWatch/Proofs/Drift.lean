import OrphanWatch.Proofs.IncompleteScans
import OrphanWatch.Proofs.Rounding

/-!
# The drift over a run

A scan that commits measures the usage of its generation, and reports how it differs from the usage that the
findings of its start carry. In a run of one engine these are the findings of the generation before, whatever
scans failed in between. So the committed reports of a run form a chain (`Engine.chain_scanAll`): over any
stretch of generations their drifts add up to the difference between its ends (`Engine.drift_of_run`).
-/

namespace OrphanWatch

inductive Amount where
  | provisioned
  | requested
  | backendUsed
  | backendSnapshots
  | orphaned
  deriving DecidableEq, Repr

namespace Amount

def all : List Amount :=
  [provisioned, requested, backendUsed, backendSnapshots, orphaned]

theorem mem_all (amount : Amount) : amount ∈ all := by
  cases amount <;> decide

def held : Amount → Usage → Nat
  | provisioned => Usage.provisionedBytes
  | requested => Usage.requestedBytes
  | backendUsed => Usage.backendUsedBytes
  | backendSnapshots => Usage.backendSnapshotBytes
  | orphaned => Usage.orphanedBytes

def change : Amount → Drift → Int
  | provisioned => Drift.provisionedBytesDelta
  | requested => Drift.requestedBytesDelta
  | backendUsed => Drift.backendUsedBytesDelta
  | backendSnapshots => Drift.backendSnapshotBytesDelta
  | orphaned => Drift.orphanedBytesDelta

theorem change_between (amount : Amount) (previous current : Usage) :
    amount.change (.between previous current) =
      Drift.delta (amount.held previous) (amount.held current) := by
  cases amount <;> rfl

end Amount

/-- Every sum of bytes fits into a 64-bit number with sign. -/
def Usage.IsSmall (usage : Usage) : Prop :=
  ∀ amount : Amount, amount.held usage < Text.signedLimit

instance (usage : Usage) : Decidable usage.IsSmall :=
  decidable_of_iff (∀ amount ∈ Amount.all, amount.held usage < Text.signedLimit)
    ⟨fun h amount => h amount amount.mem_all, fun h amount _ => h amount⟩

/-! ### One drift -/

namespace Drift

/-- The difference of two amounts of 63 bits does not wrap around. -/
theorem delta_eq_sub {previous current : Nat} (hprevious : previous < Text.signedLimit)
    (hcurrent : current < Text.signedLimit) :
    delta previous current = (current : Int) - previous := by
  rw [Text.signedLimit] at hprevious hcurrent
  rw [delta, Text.wordSize]
  apply Int.bmod_eq_of_le
  · omega
  · omega

/-- The hourly rate is a quotient only of a time that went on, and such a time is not rounded to zero. -/
def DividesSafely (drift : Drift) : Prop :=
  (drift.elapsedSeconds ≤ 0 ∧ drift.backendUsedBytesPerHour = .zero)
    ∨ (0 < drift.elapsedSeconds ∧ (Binary64.ofInt drift.elapsedSeconds).isZero = false
      ∧ drift.backendUsedBytesPerHour =
        Binary64.ofInt drift.backendUsedBytesDelta * Binary64.ofNat 3600
          / Binary64.ofInt drift.elapsedSeconds)

theorem dividesSafely_between (previous current : Usage) : (between previous current).DividesSafely := by
  let elapsed := (between previous current).elapsedSeconds
  by_cases hpos : 0 < elapsed
  · exact .inr ⟨hpos, Binary64.isZero_ofInt_eq_false (Int.ne_of_gt hpos), if_pos hpos⟩
  · exact .inl ⟨Int.not_lt.1 hpos, if_neg hpos⟩

structure IsBetween (drift : Drift) (previous current : Usage) : Prop where
  fromGeneration : drift.fromGeneration = previous.generation
  toGeneration : drift.toGeneration = current.generation
  elapsed : drift.elapsedSeconds = Span.seconds (current.measuredAt.since previous.measuredAt)
  change (amount : Amount) :
    amount.change drift = (amount.held current : Int) - amount.held previous
  isGrowing_iff : drift.isGrowing = true ↔ previous.backendUsedBytes < current.backendUsedBytes
  dividesSafely : drift.DividesSafely

/-- Between small accounts a drift is exact. -/
theorem isBetween_between {previous current : Usage} (hprevious : previous.IsSmall)
    (hcurrent : current.IsSmall) : (between previous current).IsBetween previous current := by
  have hchange : ∀ amount : Amount, amount.change (between previous current) =
      (amount.held current : Int) - amount.held previous := by
    intro amount
    rw [amount.change_between, delta_eq_sub (hprevious amount) (hcurrent amount)]
  refine ⟨rfl, rfl, rfl, hchange, ?_, dividesSafely_between previous current⟩
  have hused : (between previous current).backendUsedBytesDelta =
      (current.backendUsedBytes : Int) - previous.backendUsedBytes := hchange .backendUsed
  rw [isGrowing, decide_eq_true_eq, hused]
  omega

end Drift

/-! ### A chain of drifts -/

/-- Reports of one generation after another. Each measures its drift from the account that the one before has
left. -/
inductive Chain : List CycleReport → Option Usage → Prop
  | nil : Chain [] none
  | snoc {reports : List CycleReport} {account : Option Usage} {report : CycleReport} {usage : Usage}
      (hchain : Chain reports account) (hgeneration : report.generation = reports.length + 1)
      (husage : report.usage = some usage) (hmeasured : usage.generation = report.generation)
      (hdrift : report.drift = account.map (Drift.between · usage)) :
      Chain (reports ++ [report]) (some usage)

namespace Amount

def changeWithin (amount : Amount) (first last : Nat) (reports : List CycleReport) : Int :=
  (reports.filter fun report => first < report.generation ∧ report.generation ≤ last).foldl
    (fun sum report => sum + report.drift.elim 0 amount.change) 0

variable (amount : Amount) {first last : Nat} {reports : List CycleReport}

theorem changeWithin_append_singleton (report : CycleReport) :
    amount.changeWithin first last (reports ++ [report]) = amount.changeWithin first last reports
      + if first < report.generation ∧ report.generation ≤ last then
          report.drift.elim 0 amount.change
        else 0 := by
  rw [changeWithin, List.filter_append, List.foldl_append, changeWithin]
  by_cases hwithin : first < report.generation ∧ report.generation ≤ last <;> simp [hwithin]

theorem changeWithin_of_le {bound : Nat} (hbound : ∀ report ∈ reports, report.generation ≤ bound)
    (hle : bound ≤ last) :
    amount.changeWithin first last reports = amount.changeWithin first bound reports := by
  have hfilter : reports.filter (fun report => first < report.generation ∧ report.generation ≤ last) =
      reports.filter fun report => first < report.generation ∧ report.generation ≤ bound := by
    refine List.filter_congr fun report hmem => decide_eq_decide.2 ?_
    have := hbound report hmem
    omega
  rw [changeWithin, hfilter, changeWithin]

theorem changeWithin_self : amount.changeWithin first first reports = 0 := by
  have hfilter : reports.filter (fun report => first < report.generation ∧ report.generation ≤ first) =
      [] := by
    refine List.filter_eq_nil_iff.2 fun report _ => ?_
    rw [decide_eq_true_eq]
    omega
  rw [changeWithin, hfilter]
  rfl

end Amount

namespace Chain

variable {reports : List CycleReport} {account : Option Usage}

/-- The reports of a chain are numbered from one on without a gap. -/
theorem generations (h : Chain reports account) :
    reports.map (·.generation) = List.range' 1 reports.length := by
  induction h with
  | nil => rfl
  | snoc hchain hgeneration _ _ _ ih =>
      rw [List.map_append, ih, List.length_append, List.length_singleton, List.range'_1_concat,
        List.map_singleton, hgeneration, Nat.add_comm 1]

theorem generation_mem (h : Chain reports account) {report : CycleReport} (hmem : report ∈ reports) :
    1 ≤ report.generation ∧ report.generation ≤ reports.length := by
  have hgeneration := List.mem_map_of_mem (f := (·.generation)) hmem
  rw [h.generations, List.mem_range'_1] at hgeneration
  omega

/-- The account is the one of the last report. -/
theorem account_cases (h : Chain reports account) :
    (reports = [] ∧ account = none)
      ∨ ∃ report ∈ reports, ∃ usage, report.generation = reports.length ∧ report.usage = some usage
        ∧ account = some usage := by
  cases h with
  | nil => exact .inl ⟨rfl, rfl⟩
  | snoc hchain hgeneration husage _ _ =>
      refine .inr ⟨_, List.mem_append_right _ (List.mem_singleton_self _), _, ?_, husage, rfl⟩
      rw [hgeneration, List.length_append, List.length_singleton]

/-- Every report measures its own generation, and its drift from the report before. -/
theorem link (h : Chain reports account) {report : CycleReport} (hmem : report ∈ reports) :
    ∃ usage, report.usage = some usage ∧ usage.generation = report.generation
      ∧ ((report.generation = 1 ∧ report.drift = none)
        ∨ ∃ previous ∈ reports, ∃ before, previous.generation + 1 = report.generation
          ∧ previous.usage = some before ∧ report.drift = some (.between before usage)) := by
  induction h with
  | nil => cases hmem
  | @snoc reports account last usage hchain hgeneration husage hmeasured hdrift ih =>
      rcases List.mem_append.1 hmem with hold | hnew
      · obtain ⟨usage, hreport, hof, hfirst | ⟨previous, hprevious, hlink⟩⟩ := ih hold
        · exact ⟨usage, hreport, hof, .inl hfirst⟩
        · exact ⟨usage, hreport, hof, .inr ⟨previous, List.mem_append_left _ hprevious, hlink⟩⟩
      · cases List.mem_singleton.1 hnew
        refine ⟨usage, husage, hmeasured, ?_⟩
        obtain ⟨hnil, hnone⟩ | ⟨previous, hprevious, before, hof, hbefore, hsome⟩ := hchain.account_cases
        · rw [hnil] at hgeneration
          rw [hnone] at hdrift
          exact .inl ⟨hgeneration, hdrift⟩
        · rw [hsome] at hdrift
          rw [← hof] at hgeneration
          exact .inr ⟨previous, List.mem_append_left _ hprevious, before, hgeneration.symm, hbefore,
            hdrift⟩

/-- The drifts after a report add up to the difference between its account and the last one. -/
theorem changeWithin_length (h : Chain reports account)
    (hsmall : ∀ report ∈ reports, ∀ usage ∈ report.usage, usage.IsSmall) (amount : Amount)
    {first : CycleReport} (hfirst : first ∈ reports) {before after : Usage}
    (hbefore : first.usage = some before) (hafter : account = some after) :
    amount.changeWithin first.generation reports.length reports =
      (amount.held after : Int) - amount.held before := by
  induction h generalizing after with
  | nil => cases hfirst
  | @snoc reports account report usage hchain hgeneration husage hmeasured hdrift ih =>
      cases hafter
      have hbound : ∀ report ∈ reports, report.generation ≤ reports.length :=
        fun report hmem => (hchain.generation_mem hmem).2
      rw [List.length_append, List.length_singleton, amount.changeWithin_append_singleton]
      rcases List.mem_append.1 hfirst with hold | hnew
      · have hfirstLe := hbound first hold
        obtain ⟨hnil, -⟩ | ⟨previous, hprevious, middle, -, hmiddle, hsome⟩ := hchain.account_cases
        · rw [hnil] at hold
          cases hold
        · have hstretch := ih (fun report hmem => hsmall report (List.mem_append_left _ hmem)) hold hsome
          have hchange : amount.change (.between middle usage) =
              (amount.held usage : Int) - amount.held middle :=
            (Drift.isBetween_between
              (hsmall previous (List.mem_append_left _ hprevious) middle hmiddle)
              (hsmall report (List.mem_append_right _ (List.mem_singleton_self _)) usage husage)).change
              amount
          rw [if_pos (by omega), amount.changeWithin_of_le hbound (Nat.le_succ _), hstretch, hdrift,
            hsome, Option.map_some, Option.elim_some, hchange]
          omega
      · cases List.mem_singleton.1 hnew
        cases hbefore.symm.trans husage
        rw [← hgeneration, amount.changeWithin_self, if_neg (by omega)]
        omega

/-- The changes between two reports of a chain add up to the difference of their accounts. -/
theorem changeWithin_eq_sub (h : Chain reports account)
    (hsmall : ∀ report ∈ reports, ∀ usage ∈ report.usage, usage.IsSmall) (amount : Amount)
    {first last : CycleReport} (hfirst : first ∈ reports) (hlast : last ∈ reports)
    (hle : first.generation ≤ last.generation) {before after : Usage}
    (hbefore : first.usage = some before) (hafter : last.usage = some after) :
    amount.changeWithin first.generation last.generation reports =
      (amount.held after : Int) - amount.held before := by
  induction h with
  | nil => cases hfirst
  | @snoc reports account report usage hchain hgeneration husage hmeasured hdrift ih =>
      rcases List.mem_append.1 hlast with hold | hnew
      · -- The new report is beyond both.
        have hlastLe := (hchain.generation_mem hold).2
        have hfirstOld : first ∈ reports := by
          refine (List.mem_append.1 hfirst).resolve_right fun hfirstNew => ?_
          cases List.mem_singleton.1 hfirstNew
          omega
        rw [amount.changeWithin_append_singleton, if_neg (by omega), Int.add_zero]
        exact ih (fun report hmem => hsmall report (List.mem_append_left _ hmem)) hfirstOld hold
      · cases List.mem_singleton.1 hnew
        have hlength : last.generation = (reports ++ [last]).length := by
          rw [hgeneration, List.length_append, List.length_singleton]
        rw [hlength]
        exact (hchain.snoc hgeneration husage hmeasured hdrift).changeWithin_length hsmall amount hfirst
          hbefore (husage.symm.trans hafter)

end Chain

/-! ### Runs -/

def committed? (result : Except MonitorError CycleReport) : Option CycleReport :=
  result.toOption.filter (·.outcome == .committed)

namespace Engine

def committed (engine : Engine) (scans : List Scan) : List CycleReport :=
  (engine.results scans).filterMap committed?

theorem results_append (engine : Engine) (before after : List Scan) :
    engine.results (before ++ after) =
      engine.results before ++ (engine.scanAll before).results after := by
  induction before generalizing engine with
  | nil => rfl
  | cons scan rest ih => rw [List.cons_append, results, ih, results, scanAll_cons, List.cons_append]

theorem committed_append_singleton (engine : Engine) (before : List Scan) (scan : Scan) :
    engine.committed (before ++ [scan]) =
      engine.committed before ++ (committed? ((engine.scanAll before).scan scan).2).toList := by
  rw [committed, results_append, List.filterMap_append, committed, results, results,
    List.filterMap_cons, List.filterMap_nil]
  cases committed? ((engine.scanAll before).scan scan).2 <;> rfl

/-- The findings carry the account of the last report that committed, whatever scans failed since. -/
theorem chain_scanAll (engine : Engine) (hfresh : engine.IsFresh) (scans : List Scan) :
    Chain (engine.committed scans) (engine.scanAll scans).store.snapshot.usage
      ∧ (engine.scanAll scans).store.snapshot.generation = (engine.committed scans).length := by
  induction scans using List.reverseRecOn with
  | nil =>
      have hempty : (engine.scanAll []).store.snapshot = .initial := hfresh.empty
      rw [hempty]
      exact ⟨.nil, rfl⟩
  | append_singleton before scan ih =>
      obtain ⟨hchain, hlength⟩ := ih
      generalize hprior : engine.scanAll before = prior at hchain hlength
      rw [scanAll_append, hprior, committed_append_singleton, hprior]
      have hscanned : prior.scanAll [scan] = (prior.scan scan).1 := rfl
      cases hinventories : scan.inventories? with
      | none =>
          have hsame : (prior.scan scan).1.store.snapshot = prior.store.snapshot := by
            rw [snapshot_scan, Snapshot.after, hinventories]
          have hreport : committed? (prior.scan scan).2 = none := by
            have hinterrupted := (isCommitted_scan prior scan).1
            rw [hinventories] at hinterrupted
            cases hresult : (prior.scan scan).2 with
            | error error => rfl
            | ok report =>
                rw [hresult] at hinterrupted
                exact Option.filter_some_neg (by simpa [isCommitted] using hinterrupted)
          rw [hreport, Option.toList_none, List.append_nil, hscanned, hsame]
          exact ⟨hchain, hlength⟩
      | some inventories =>
          obtain ⟨cluster, backend⟩ := inventories
          rw [hscanned, scan_of_inventories? hinventories]
          refine ⟨.snoc hchain (congrArg (· + 1) hlength) rfl rfl rfl, ?_⟩
          rw [List.length_append]
          exact congrArg (· + 1) hlength

/-- **The drifts of a run chain its generations.** -/
theorem drift_of_run (engine : Engine) (hfresh : engine.IsFresh) (scans : List Scan)
    (hsmall : ∀ report ∈ engine.committed scans, ∀ usage ∈ report.usage,
      usage.IsSmall) :
    let reports := engine.committed scans
    reports.map (·.generation) = List.range' 1 reports.length
      ∧ (∀ report ∈ reports, ∃ usage, report.usage = some usage
        ∧ usage.generation = report.generation
        ∧ (report.generation = 1 → report.drift = none)
        ∧ (1 < report.generation → ∃ previous ∈ reports, ∃ before drift,
          previous.generation + 1 = report.generation ∧ previous.usage = some before
            ∧ report.drift = some drift ∧ drift.fromGeneration + 1 = report.generation
            ∧ drift.toGeneration = report.generation ∧ drift.IsBetween before usage))
      ∧ (∀ first ∈ reports, ∀ last ∈ reports, first.generation ≤ last.generation →
        ∀ before after, first.usage = some before → last.usage = some after →
          ∀ amount : Amount, amount.changeWithin first.generation last.generation reports =
            (amount.held after : Int) - amount.held before) := by
  intro reports
  obtain ⟨hchain, -⟩ := chain_scanAll engine hfresh scans
  refine ⟨hchain.generations, fun report hmem => ?_, fun first hfirst last hlast hle before after
    hbefore hafter amount => hchain.changeWithin_eq_sub hsmall amount hfirst hlast hle hbefore hafter⟩
  obtain ⟨usage, husage, hof, ⟨hone, hnone⟩ | ⟨previous, hprevious, before, hsucc, hbefore, hdrift⟩⟩ :=
    hchain.link hmem
  · exact ⟨usage, husage, hof, fun _ => hnone, fun hlater => absurd hone (Nat.ne_of_gt hlater)⟩
  · have hpos := (hchain.generation_mem hprevious).1
    have hbetween := Drift.isBetween_between (hsmall previous hprevious before hbefore)
      (hsmall report hmem usage husage)
    obtain ⟨measured, hmeasured, hofBefore, -⟩ := hchain.link hprevious
    cases hbefore.symm.trans hmeasured
    refine ⟨usage, husage, hof, fun hone => by omega, fun _ => ⟨previous, hprevious, before, _, hsucc,
      hbefore, hdrift, ?_, hbetween.toGeneration.trans hof, hbetween⟩⟩
    rw [hbetween.fromGeneration, hofBefore, hsucc]

/-- A scan that was overdue does not break the chain. -/
theorem drift_across_overdue_scan :
    let volume (bytes : Nat) : Record :=
      { Record.named .backendVolume "tank/a" with rawKey := some "a", sizeBytes := bytes }
    let engine := ofPolicy ⟨1, 0⟩ 0
    let scans : List Scan :=
      [.complete ⟨1, 0⟩ [volume 10], .overdue ⟨3, 0⟩ [volume 90] 1, .complete ⟨7, 0⟩ [volume 30],
        .complete ⟨5, 0⟩ [volume 4]]
    engine.IsFresh
      ∧ (∀ report ∈ engine.committed scans, ∀ usage ∈ report.usage, usage.IsSmall)
      ∧ (engine.committed scans).map (·.generation) = [1, 2, 3]
      ∧ Amount.backendUsed.changeWithin 1 3 (engine.committed scans) = -6 := by
  intro volume engine scans
  obtain ⟨hsmall, hfirst, hlast, hlength⟩ :
      (∀ report ∈ engine.committed scans, ∀ usage ∈ report.usage, usage.IsSmall)
        ∧ (∃ report ∈ engine.committed scans, report.generation = 1
          ∧ report.usage.map (·.backendUsedBytes) = some 10)
        ∧ (∃ report ∈ engine.committed scans, report.generation = 3
          ∧ report.usage.map (·.backendUsedBytes) = some 4)
        ∧ (engine.committed scans).length = 3 := by
    decide +kernel +revert
  have hfresh : engine.IsFresh := ⟨rfl, rfl⟩
  obtain ⟨hgenerations, -, hsum⟩ := drift_of_run engine hfresh scans hsmall
  obtain ⟨first, hfirst, hone, hbefore⟩ := hfirst
  obtain ⟨last, hlast, hthree, hafter⟩ := hlast
  obtain ⟨before, hbefore, hten⟩ := Option.map_eq_some_iff.1 hbefore
  obtain ⟨after, hafter, hfour⟩ := Option.map_eq_some_iff.1 hafter
  have hchange : Amount.backendUsed.changeWithin first.generation last.generation
      (engine.committed scans) = (after.backendUsedBytes : Int) - before.backendUsedBytes :=
    hsum first hfirst last hlast (by omega) before after hbefore hafter .backendUsed
  rw [hone, hthree, hten, hfour] at hchange
  rw [hlength] at hgenerations
  exact ⟨hfresh, hsmall, hgenerations, hchange⟩

end Engine

end OrphanWatch
