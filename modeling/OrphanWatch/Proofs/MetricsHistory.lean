import Mathlib.Data.List.Basic
import OrphanWatch.Engine.Attempt
import OrphanWatch.Metrics.Series
import OrphanWatch.Proofs.SortedMap

/-!
# Metrics and the reports they come from

A counter adds up what the reports say. A gauge is what it would be if only the last report had come that
speaks of it (`Metrics.latest`), and the gauges differ in which reports speak of them: every report counts the
candidates and says of some sides whether they were fetched, the findings are described by a scan that
committed, and bytes are told by the account of such a scan.

Gauges with labels are kept in maps, one value under each labels. A map shows what a report lists if the report
lists no labels twice, and it shows the very numbers if they fit into 64 bits with a sign.
-/

namespace OrphanWatch

namespace Delivery

def report? : Delivery → Option CycleReport
  | report told => some told
  | overrun _ => none

def reports (deliveries : List Delivery) : List CycleReport :=
  deliveries.filterMap report?

def overruns (deliveries : List Delivery) : Nat :=
  deliveries.countP (·.report?.isNone)

def commits (deliveries : List Delivery) : List CycleReport :=
  (reports deliveries).filter (·.outcome = .committed)

def accounts (deliveries : List Delivery) : List CycleReport :=
  (commits deliveries).filter (·.usage.isSome)

variable {deliveries : List Delivery}

theorem reports_concat_report (report : CycleReport) :
    reports (deliveries ++ [.report report]) = reports deliveries ++ [report] := by
  rw [reports, List.filterMap_append]
  rfl

theorem reports_concat_overrun (overrun : ScanOverrun) :
    reports (deliveries ++ [.overrun overrun]) = reports deliveries := by
  rw [reports, List.filterMap_append]
  exact List.append_nil _

end Delivery

def Usage.gauged (usage : Usage) : List Nat :=
  [usage.clusterOrphanedBytes, usage.backendOrphanedBytes, usage.backendUsedBytes, usage.requestedBytes]

def Usage.orphanedOf (usage : Usage) : Side → Nat
  | .cluster => usage.clusterOrphanedBytes
  | .backend => usage.backendOrphanedBytes

namespace CycleReport

def statusOf? (report : CycleReport) (side : Side) : Option SourceStatus :=
  (report.sources.filter (·.side = side)).getLast?

def numbers (report : CycleReport) : List Nat :=
  report.generation :: report.healthyPairs :: report.candidateCounts.map (·.count)
    ++ report.unmatchable.map (·.2) ++ report.usage.elim [] Usage.gauged

/-- The gauges can show the report as it is. -/
structure IsShowable (report : CycleReport) : Prop where
  nodup_labels : (report.candidateCounts.map (·.labels)).Nodup
  nodup_kinds : (report.unmatchable.map (·.1)).Nodup
  small : ∀ n ∈ report.numbers, n < Text.signedLimit

instance (report : CycleReport) : Decidable report.IsShowable :=
  decidable_of_iff
    ((report.candidateCounts.map (·.labels)).Nodup ∧ (report.unmatchable.map (·.1)).Nodup
      ∧ ∀ n ∈ report.numbers, n < Text.signedLimit)
    ⟨fun h => ⟨h.1, h.2.1, h.2.2⟩, fun h => ⟨h.nodup_labels, h.nodup_kinds, h.small⟩⟩

variable {report : CycleReport}

theorem mem_unmatchable_iff {kind : Kind} {n : Nat} :
    (kind, n) ∈ report.unmatchable ↔ .unmatchable kind n ∈ report.anomalies := by
  rw [unmatchable, List.mem_filterMap]
  constructor
  · rintro ⟨anomaly, hmem, hentry⟩
    cases anomaly with
    | keyCollision => cases hentry
    | unmatchable => cases hentry; exact hmem
  · exact fun hmem => ⟨_, hmem, rfl⟩

theorem IsShowable.small_generation (hshowable : report.IsShowable) :
    report.generation < Text.signedLimit :=
  hshowable.small _ (by simp [numbers])

theorem IsShowable.small_healthyPairs (hshowable : report.IsShowable) :
    report.healthyPairs < Text.signedLimit :=
  hshowable.small _ (by simp [numbers])

theorem IsShowable.small_count (hshowable : report.IsShowable) {count : CandidateCount}
    (hmem : count ∈ report.candidateCounts) : count.count < Text.signedLimit := by
  apply hshowable.small
  have hlisted : count.count ∈ report.candidateCounts.map (·.count) := List.mem_map_of_mem hmem
  simp [numbers, hlisted]

theorem IsShowable.small_unmatchable (hshowable : report.IsShowable) {entry : Kind × Nat}
    (hmem : entry ∈ report.unmatchable) : entry.2 < Text.signedLimit := by
  apply hshowable.small
  have hlisted : entry.2 ∈ report.unmatchable.map (·.2) := List.mem_map_of_mem hmem
  simp [numbers, hlisted]

theorem IsShowable.small_gauged (hshowable : report.IsShowable) {usage : Usage}
    (husage : report.usage = some usage) {n : Nat} (hmem : n ∈ usage.gauged) : n < Text.signedLimit := by
  apply hshowable.small
  simp [numbers, husage, hmem]

end CycleReport

namespace Metrics

/-! ### One report -/

/-- A gauge shows a number of 63 bits as it is. -/
theorem gauge_eq_self {n : Nat} (hsmall : n < Text.signedLimit) : gauge n = n := by
  rw [Text.signedLimit] at hsmall
  rw [gauge, Text.wordSize]
  apply Int.bmod_eq_of_le
  · omega
  · omega

theorem get?_gauges_eq_some_iff {κ : Type} [Ord κ] [Std.TransOrd κ] [Std.LawfulEqOrd κ] [DecidableEq κ]
    {numbers : List (κ × Nat)} (hnodup : (numbers.map Prod.fst).Nodup)
    (hsmall : ∀ entry ∈ numbers, entry.2 < Text.signedLimit) {labels : κ} {n : Int} :
    (gauges numbers).get? labels = some n ↔ ∃ m : Nat, (labels, m) ∈ numbers ∧ n = m := by
  have hkeys : (numbers.map fun entry => (entry.1, gauge entry.2)).map Prod.fst = numbers.map Prod.fst := by
    rw [List.map_map]
    rfl
  rw [gauges, SortedMap.get?_ofList_eq_some_iff (hkeys ▸ hnodup), List.mem_map]
  constructor
  · rintro ⟨⟨other, m⟩, hmem, hentry⟩
    obtain ⟨rfl, rfl⟩ := Prod.mk.inj hentry
    exact ⟨m, hmem, gauge_eq_self (hsmall _ hmem)⟩
  · rintro ⟨m, hmem, rfl⟩
    exact ⟨(labels, m), hmem, congrArg (Prod.mk labels) (gauge_eq_self (hsmall _ hmem))⟩

variable (metrics : Metrics) (report : CycleReport)

/-- What a committed report says comes on top of what every report says. -/
theorem observed_ofReport :
    (metrics.ofReport report).overruns = metrics.overruns
      ∧ (metrics.ofReport report).cycles = (metrics.observe report).cycles
      ∧ (metrics.ofReport report).candidates = (metrics.observe report).candidates
      ∧ (metrics.ofReport report).sourceUp = (metrics.observe report).sourceUp := by
  unfold ofReport settle
  split
  · cases report.usage <;> simp [measure, observe]
  · simp [observe]

def findings (metrics : Metrics) : Int × Int × SortedMap Kind Int × Nat :=
  (metrics.generation, metrics.healthyPairs, metrics.unmatchable, metrics.collisions)

/-- The gauges of the findings are set by committed reports only. -/
theorem findings_ofReport :
    (metrics.ofReport report).findings =
      if report.outcome = .committed then
        (gauge report.generation, gauge report.healthyPairs, gauges report.unmatchable,
          report.collisions.length)
      else metrics.findings := by
  unfold ofReport settle
  split
  · cases report.usage <;> simp [findings, measure, observe]
  · simp [findings, observe]

def bytes (metrics : Metrics) : SortedMap Side Int × Int × Int :=
  (metrics.orphanedBytes, metrics.backendUsedBytes, metrics.requestedBytes)

/-- The gauges of the account are set by committed reports that have one. -/
theorem bytes_ofReport :
    (metrics.ofReport report).bytes =
      if report.outcome = .committed ∧ report.usage.isSome then
        report.usage.elim empty.bytes fun usage => (empty.measure usage).bytes
      else metrics.bytes := by
  unfold ofReport settle
  by_cases houtcome : report.outcome = .committed
  · cases husage : report.usage <;> simp [houtcome, bytes, measure, observe]
  · simp [houtcome, bytes, observe]

theorem totals_ofReport :
    ((metrics.ofReport report).confirmedTotal =
        if report.outcome = .committed then metrics.confirmedTotal + report.newConfirmed.length
        else metrics.confirmedTotal)
      ∧ (metrics.ofReport report).resolvedTotal =
        if report.outcome = .committed then metrics.resolvedTotal + report.resolved.length
        else metrics.resolvedTotal := by
  unfold ofReport settle
  split
  · cases report.usage <;> simp [measure, observe]
  · simp [observe]

theorem get?_cycles_ofReport (outcome : Outcome) :
    ((metrics.ofReport report).cycles.get? outcome).getD 0 =
      if report.outcome = outcome then (metrics.cycles.get? outcome).getD 0 + 1
      else (metrics.cycles.get? outcome).getD 0 := by
  rw [(metrics.observed_ofReport report).2.1, observe, SortedMap.get?_adjust]
  by_cases heq : report.outcome = outcome
  · simp [heq]
  · simp [heq, Ne.symm heq]

theorem get?_sourceUp_ofReport (side : Side) :
    (metrics.ofReport report).sourceUp.get? side =
      if (report.statusOf? side).isSome then (report.statusOf? side).map (·.available)
      else metrics.sourceUp.get? side := by
  rw [(metrics.observed_ofReport report).2.2.2, observe, CycleReport.statusOf?]
  generalize report.sources = statuses
  induction statuses using List.reverseRecOn with
  | nil => rfl
  | append_singleton before last ih =>
      simp only at ih ⊢
      rw [List.foldl_append, List.foldl_cons, List.foldl_nil, SortedMap.get?_insert_eq_ite, ih,
        List.filter_append]
      by_cases heq : last.side = side
      · simp [heq]
      · simp [heq, Ne.symm heq]

/-! ### Any number of deliveries -/

theorem ofDeliveries_append_singleton (deliveries : List Delivery) (last : Delivery) :
    ofDeliveries (deliveries ++ [last]) = (ofDeliveries deliveries).deliver last :=
  List.foldl_append

/-- What some reports determine, and the others leave alone, is what the last of the former says. -/
theorem latest {β : Type} (view : Metrics → β) (speaks : CycleReport → Prop) [DecidablePred speaks]
    (told : CycleReport → β)
    (hoverrun : ∀ (metrics : Metrics) (overruns : Nat), view { metrics with overruns } = view metrics)
    (hreport : ∀ metrics report, view (ofReport metrics report) =
      if speaks report then told report else view metrics)
    (deliveries : List Delivery) :
    view (ofDeliveries deliveries) =
      ((Delivery.reports deliveries).filter speaks).getLast?.elim (view empty) told := by
  induction deliveries using List.reverseRecOn with
  | nil => rfl
  | append_singleton before last ih =>
      rw [ofDeliveries_append_singleton]
      cases last with
      | overrun overrun =>
          rw [Delivery.reports_concat_overrun, ← ih]
          exact hoverrun _ _
      | report report =>
          rw [Delivery.reports_concat_report, List.filter_append, deliver, hreport, ih, List.filter_cons,
            List.filter_nil]
          by_cases hspoken : speaks report
          · simp [hspoken]
          · simp [hspoken]

theorem counted (view : Metrics → Nat) (speaks : CycleReport → Prop) [DecidablePred speaks]
    (amount : CycleReport → Nat)
    (hoverrun : ∀ (metrics : Metrics) (overruns : Nat), view { metrics with overruns } = view metrics)
    (hreport : ∀ metrics report, view (ofReport metrics report) =
      if speaks report then view metrics + amount report else view metrics)
    (hempty : view empty = 0) (deliveries : List Delivery) :
    view (ofDeliveries deliveries) =
      total (((Delivery.reports deliveries).filter speaks).map amount) := by
  induction deliveries using List.reverseRecOn with
  | nil => exact hempty
  | append_singleton before last ih =>
      rw [ofDeliveries_append_singleton]
      cases last with
      | overrun overrun =>
          rw [Delivery.reports_concat_overrun, ← ih]
          exact hoverrun _ _
      | report report =>
          rw [Delivery.reports_concat_report, List.filter_append, List.map_append, total_append, ← ih, deliver,
            hreport, List.filter_cons, List.filter_nil]
          by_cases hspoken : speaks report
          · simp [hspoken]
          · simp [hspoken]

/-! ### Series -/

def seriesOf (labels : CandidateLabels) (n : Int) : Series :=
  labelled "orphan_candidates"
    [("kind", labels.kind.label), ("side", labels.side.label), ("state", labels.state.label)] n

theorem filter_series :
    metrics.series.filter (·.family = familyName "orphan_candidates") =
      metrics.candidates.toList.map fun entry => seriesOf entry.1 entry.2 := by
  simp [series, seriesOf, one, labelled, familyName, List.filter_append, List.filter_map,
    Function.comp_def, List.filter_true, List.filter_false]

theorem labels_seriesOf_injective {first second : CandidateLabels} {n m : Int}
    (hsame : (seriesOf first n).labels = (seriesOf second m).labels) : first = second := by
  obtain ⟨side, kind, state⟩ := first
  obtain ⟨side', kind', state'⟩ := second
  simp only [seriesOf, labelled, List.cons.injEq, Prod.mk.injEq, true_and, and_true] at hsame
  obtain ⟨hkind, hside, hstate⟩ := hsame
  have hkinds : kind = kind' := by
    revert hkind
    cases kind <;> cases kind' <;> decide
  have hsides : side = side' := by
    revert hside
    cases side <;> cases side' <;> decide
  have hstates : state = state' := by
    revert hstate
    cases state <;> cases state' <;> decide
  rw [hkinds, hsides, hstates]

/-- What is counted apart is shown apart. -/
theorem nodup_labels_series :
    ((metrics.series.filter (·.family = familyName "orphan_candidates")).map (·.labels)).Nodup := by
  rw [filter_series, List.map_map]
  have hkeys : metrics.candidates.toList.Pairwise fun entry other => entry.1 ≠ other.1 :=
    List.pairwise_map.1 metrics.candidates.nodup_keys
  exact List.pairwise_map.2 (hkeys.imp fun hne hsame => hne (labels_seriesOf_injective hsame))

/-! ### The history of the deliveries -/

/-- The metrics show what the deliveries say: counters add up, and a gauge shows what the last report says that
speaks of it. -/
structure Show (metrics : Metrics) (deliveries : List Delivery) : Prop where
  cycles : ∀ outcome, (metrics.cycles.get? outcome).getD 0 =
    (Delivery.reports deliveries).countP (·.outcome = outcome)
  overruns : metrics.overruns = Delivery.overruns deliveries
  candidates : ∀ labels n, metrics.candidates.get? labels = some n ↔
    ∃ report ∈ (Delivery.reports deliveries).getLast?,
      ∃ count ∈ report.candidateCounts, count.labels = labels ∧ n = count.count
  /-- There is one series for each count of the last report, and no other. -/
  series : ∀ series, series ∈ metrics.series ∧ series.family = familyName "orphan_candidates" ↔
    ∃ report ∈ (Delivery.reports deliveries).getLast?,
      ∃ count ∈ report.candidateCounts, series = seriesOf count.labels count.count
  apart : ((metrics.series.filter (·.family = familyName "orphan_candidates")).map (·.labels)).Nodup
  confirmedTotal : metrics.confirmedTotal =
    total ((Delivery.commits deliveries).map (·.newConfirmed.length))
  resolvedTotal : metrics.resolvedTotal = total ((Delivery.commits deliveries).map (·.resolved.length))
  generation : metrics.generation =
    (Delivery.commits deliveries).getLast?.elim 0 fun report => (report.generation : Int)
  healthyPairs : metrics.healthyPairs =
    (Delivery.commits deliveries).getLast?.elim 0 fun report => (report.healthyPairs : Int)
  unmatchable : ∀ kind n, metrics.unmatchable.get? kind = some n ↔
    ∃ report ∈ (Delivery.commits deliveries).getLast?,
      ∃ m : Nat, .unmatchable kind m ∈ report.anomalies ∧ n = m
  collisions : metrics.collisions =
    (Delivery.commits deliveries).getLast?.elim 0 fun report => report.collisions.length
  orphanedBytes : ∀ side, metrics.orphanedBytes.get? side =
    ((Delivery.accounts deliveries).getLast?.bind (·.usage)).map fun usage =>
      (usage.orphanedOf side : Int)
  backendUsedBytes : metrics.backendUsedBytes =
    ((Delivery.accounts deliveries).getLast?.bind (·.usage)).elim 0 fun usage =>
      (usage.backendUsedBytes : Int)
  requestedBytes : metrics.requestedBytes =
    ((Delivery.accounts deliveries).getLast?.bind (·.usage)).elim 0 fun usage =>
      (usage.requestedBytes : Int)
  sourceUp : ∀ side, metrics.sourceUp.get? side =
    (((Delivery.reports deliveries).filter fun report => (report.statusOf? side).isSome).getLast?.bind
      (·.statusOf? side)).map (·.available)

variable (deliveries : List Delivery)

theorem overruns_ofDeliveries : (ofDeliveries deliveries).overruns = Delivery.overruns deliveries := by
  induction deliveries using List.reverseRecOn with
  | nil => rfl
  | append_singleton before last ih =>
      rw [ofDeliveries_append_singleton, Delivery.overruns, List.countP_append]
      cases last with
      | overrun overrun => exact congrArg (· + 1) ih
      | report report => exact ((observed_ofReport _ report).1).trans ih

/-- Every report is counted under its outcome. -/
theorem get?_cycles_ofDeliveries (outcome : Outcome) :
    ((ofDeliveries deliveries).cycles.get? outcome).getD 0 =
      (Delivery.reports deliveries).countP (·.outcome = outcome) := by
  have hsum := counted (fun metrics => (metrics.cycles.get? outcome).getD 0) (·.outcome = outcome)
    (fun _ => 1) (fun _ _ => rfl) (fun metrics report => get?_cycles_ofReport metrics report outcome) rfl
    deliveries
  rw [hsum, List.countP_eq_length_filter]
  generalize (Delivery.reports deliveries).filter (·.outcome = outcome) = counted
  induction counted with
  | nil => rfl
  | cons report rest ih => rw [List.map_cons, total_cons, ih, List.length_cons, Nat.add_comm]

/-- The counts of candidates are those of the last report. -/
theorem candidates_ofDeliveries :
    (ofDeliveries deliveries).candidates =
      (Delivery.reports deliveries).getLast?.elim .empty fun report =>
        gauges (report.candidateCounts.map fun count => (count.labels, count.count)) := by
  have hlatest := latest (·.candidates) (fun _ => True)
    (fun report => gauges (report.candidateCounts.map fun count => (count.labels, count.count)))
    (fun _ _ => rfl)
    (fun metrics report => ((observed_ofReport metrics report).2.2.1).trans (if_pos trivial).symm) deliveries
  simp only [decide_true, List.filter_true] at hlatest
  exact hlatest

/-- The gauges of the findings are those of the last committed report. -/
theorem findings_ofDeliveries :
    (ofDeliveries deliveries).findings =
      (Delivery.commits deliveries).getLast?.elim empty.findings fun report =>
        (gauge report.generation, gauge report.healthyPairs, gauges report.unmatchable,
          report.collisions.length) :=
  latest findings (·.outcome = .committed) _ (fun _ _ => rfl) findings_ofReport deliveries

/-- The gauges of the account are those of the last committed report that has one. -/
theorem bytes_ofDeliveries :
    (ofDeliveries deliveries).bytes =
      ((Delivery.accounts deliveries).getLast?.bind (·.usage)).elim empty.bytes fun usage =>
        (empty.measure usage).bytes := by
  have hlatest := latest bytes (fun report => report.outcome = .committed ∧ report.usage.isSome) _
    (fun _ _ => rfl) bytes_ofReport deliveries
  have haccounts : (Delivery.reports deliveries).filter
      (fun report => report.outcome = .committed ∧ report.usage.isSome) = Delivery.accounts deliveries := by
    rw [Delivery.accounts, Delivery.commits, List.filter_filter]
    refine List.filter_congr fun report _ => ?_
    rw [Bool.and_comm, Bool.decide_and, Bool.decide_coe]
  rw [hlatest, haccounts]
  cases (Delivery.accounts deliveries).getLast? <;> rfl

theorem get?_sourceUp_ofDeliveries (side : Side) :
    (ofDeliveries deliveries).sourceUp.get? side =
      (((Delivery.reports deliveries).filter fun report => (report.statusOf? side).isSome).getLast?.bind
        (·.statusOf? side)).map (·.available) := by
  have hlatest := latest (fun metrics => metrics.sourceUp.get? side)
    (fun report => (report.statusOf? side).isSome) _ (fun _ _ => rfl)
    (fun metrics report => get?_sourceUp_ofReport metrics report side) deliveries
  simp only [Bool.decide_coe] at hlatest
  rw [hlatest]
  cases ((Delivery.reports deliveries).filter fun report => (report.statusOf? side).isSome).getLast? <;> rfl

variable {deliveries} (hshowable : ∀ report ∈ Delivery.reports deliveries, report.IsShowable)

include hshowable

theorem get?_candidates_ofDeliveries {labels : CandidateLabels} {n : Int} :
    (ofDeliveries deliveries).candidates.get? labels = some n ↔
      ∃ report ∈ (Delivery.reports deliveries).getLast?,
        ∃ count ∈ report.candidateCounts, count.labels = labels ∧ n = count.count := by
  rw [candidates_ofDeliveries]
  cases hlast : (Delivery.reports deliveries).getLast? with
  | none => simp
  | some report =>
      have hreport := hshowable report (List.mem_of_getLast? hlast)
      have hnodup : ((report.candidateCounts.map fun count => (count.labels, count.count)).map
          Prod.fst).Nodup := by
        rw [List.map_map]
        exact hreport.nodup_labels
      have hsmall : ∀ entry ∈ report.candidateCounts.map (fun count => (count.labels, count.count)),
          entry.2 < Text.signedLimit := by
        intro entry hentry
        obtain ⟨count, hcount, rfl⟩ := List.mem_map.1 hentry
        exact hreport.small_count hcount
      rw [Option.elim_some, get?_gauges_eq_some_iff hnodup hsmall]
      simp only [List.mem_map, Prod.mk.injEq, Option.mem_some_iff, exists_eq_left']
      constructor
      · rintro ⟨m, ⟨count, hcount, hlabels, rfl⟩, hn⟩
        exact ⟨count, hcount, hlabels, hn⟩
      · rintro ⟨count, hcount, hlabels, hn⟩
        exact ⟨count.count, ⟨count, hcount, hlabels, rfl⟩, hn⟩

theorem mem_series_ofDeliveries (series : Series) :
    series ∈ (ofDeliveries deliveries).series ∧ series.family = familyName "orphan_candidates" ↔
      ∃ report ∈ (Delivery.reports deliveries).getLast?,
        ∃ count ∈ report.candidateCounts, series = seriesOf count.labels count.count := by
  have hfilter : series ∈ (ofDeliveries deliveries).series ∧ series.family = familyName "orphan_candidates"
      ↔ ∃ labels n, (ofDeliveries deliveries).candidates.get? labels = some n
        ∧ seriesOf labels n = series := by
    have hmem : series ∈ (ofDeliveries deliveries).series.filter
        (·.family = familyName "orphan_candidates") ↔ _ := List.mem_filter
    rw [filter_series, List.mem_map] at hmem
    simpa [SortedMap.get?_eq_some_iff] using hmem.symm
  rw [hfilter]
  constructor
  · rintro ⟨labels, n, hentry, rfl⟩
    obtain ⟨report, hreport, count, hcount, rfl, rfl⟩ := (get?_candidates_ofDeliveries hshowable).1 hentry
    exact ⟨report, hreport, count, hcount, rfl⟩
  · rintro ⟨report, hreport, count, hcount, rfl⟩
    exact ⟨_, _, (get?_candidates_ofDeliveries hshowable).2 ⟨report, hreport, count, hcount, rfl, rfl⟩, rfl⟩

theorem findings_shown :
    let now := ofDeliveries deliveries
    let last := (Delivery.commits deliveries).getLast?
    (now.generation = last.elim 0 fun report => (report.generation : Int))
      ∧ (now.healthyPairs = last.elim 0 fun report => (report.healthyPairs : Int))
      ∧ (∀ kind n, now.unmatchable.get? kind = some n ↔
        ∃ report ∈ last, ∃ m : Nat, .unmatchable kind m ∈ report.anomalies ∧ n = m)
      ∧ now.collisions = last.elim 0 fun report => report.collisions.length := by
  intro now last
  have hfindings : now.findings = last.elim _ _ := findings_ofDeliveries deliveries
  cases hlast : last with
  | none =>
      rw [hlast] at hfindings
      simp only [findings, Option.elim_none, Prod.mk.injEq] at hfindings
      obtain ⟨hgeneration, hpairs, hunmatchable, hcollisions⟩ := hfindings
      refine ⟨hgeneration, hpairs, fun kind n => ?_, hcollisions⟩
      rw [hunmatchable]
      simp [empty]
  | some report =>
      have hreport := hshowable report (List.mem_of_mem_filter (List.mem_of_getLast? hlast))
      rw [hlast] at hfindings
      simp only [findings, Option.elim_some, Prod.mk.injEq] at hfindings
      obtain ⟨hgeneration, hpairs, hunmatchable, hcollisions⟩ := hfindings
      refine ⟨hgeneration.trans (gauge_eq_self hreport.small_generation),
        hpairs.trans (gauge_eq_self hreport.small_healthyPairs), fun kind n => ?_, hcollisions⟩
      rw [hunmatchable,
        get?_gauges_eq_some_iff hreport.nodup_kinds fun entry hentry => hreport.small_unmatchable hentry]
      simp only [CycleReport.mem_unmatchable_iff, Option.mem_some_iff, exists_eq_left']

theorem bytes_shown :
    let now := ofDeliveries deliveries
    let last := (Delivery.accounts deliveries).getLast?.bind (·.usage)
    (∀ side, now.orphanedBytes.get? side = last.map fun usage => (usage.orphanedOf side : Int))
      ∧ (now.backendUsedBytes = last.elim 0 fun usage => (usage.backendUsedBytes : Int))
      ∧ now.requestedBytes = last.elim 0 fun usage => (usage.requestedBytes : Int) := by
  intro now last
  have hbytes : now.bytes = last.elim _ _ := bytes_ofDeliveries deliveries
  cases hlast : last with
  | none =>
      rw [hlast] at hbytes
      simp only [bytes, Option.elim_none, Prod.mk.injEq] at hbytes
      obtain ⟨horphaned, hused, hrequested⟩ := hbytes
      refine ⟨fun side => ?_, hused, hrequested⟩
      rw [horphaned]
      rfl
  | some usage =>
      obtain ⟨report, hreport, husage⟩ := Option.bind_eq_some_iff.1 hlast
      have hmem : report ∈ Delivery.reports deliveries :=
        List.mem_of_mem_filter (List.mem_of_mem_filter (List.mem_of_getLast? hreport))
      have hsmall : ∀ n ∈ usage.gauged, gauge n = n := fun n hn =>
        gauge_eq_self ((hshowable report hmem).small_gauged husage hn)
      rw [hlast] at hbytes
      simp only [bytes, measure, Option.elim_some, Prod.mk.injEq] at hbytes
      obtain ⟨horphaned, hused, hrequested⟩ := hbytes
      refine ⟨fun side => ?_, hused.trans (hsmall _ (by simp [Usage.gauged])),
        hrequested.trans (hsmall _ (by simp [Usage.gauged]))⟩
      have hcluster := hsmall usage.clusterOrphanedBytes (by simp [Usage.gauged])
      have hbackend := hsmall usage.backendOrphanedBytes (by simp [Usage.gauged])
      rw [horphaned]
      cases side with
      | cluster =>
          simp [SortedMap.ofList, SortedMap.get?_insert_eq_ite, Usage.orphanedOf, hcluster]
      | backend =>
          simp [SortedMap.ofList, Usage.orphanedOf, hbackend]

omit hshowable

/-- **The metrics show the history of the deliveries.** -/
theorem show_ofDeliveries (deliveries : List Delivery)
    (hshowable : ∀ report ∈ Delivery.reports deliveries, report.IsShowable) :
    (ofDeliveries deliveries).Show deliveries := by
  obtain ⟨hgeneration, hpairs, hunmatchable, hcollisions⟩ := findings_shown hshowable
  obtain ⟨horphaned, hused, hrequested⟩ := bytes_shown hshowable
  exact
    { cycles := get?_cycles_ofDeliveries deliveries
      overruns := overruns_ofDeliveries deliveries
      candidates := fun labels n => get?_candidates_ofDeliveries hshowable
      series := mem_series_ofDeliveries hshowable
      apart := nodup_labels_series _
      confirmedTotal :=
        counted (·.confirmedTotal) (·.outcome = .committed) (·.newConfirmed.length) (fun _ _ => rfl)
          (fun metrics report => (totals_ofReport metrics report).1) rfl deliveries
      resolvedTotal :=
        counted (·.resolvedTotal) (·.outcome = .committed) (·.resolved.length) (fun _ _ => rfl)
          (fun metrics report => (totals_ofReport metrics report).2) rfl deliveries
      generation := hgeneration
      healthyPairs := hpairs
      unmatchable := hunmatchable
      collisions := hcollisions
      orphanedBytes := horphaned
      backendUsedBytes := hused
      requestedBytes := hrequested
      sourceUp := get?_sourceUp_ofDeliveries deliveries }

/-- A scan finds an orphan and a record that has no key. While the next scan is under way, another writer
empties the findings, and then the cluster is out of reach. -/
theorem show_of_degraded_scan :
    let record : Record := { Record.named .backendVolume "tank/a" with rawKey := some "A " }
    let names : SourceNames := ⟨"kubernetes", "truenas"⟩
    let proposal := Attempt.propose ⟨1, .initial, ⟨1, 0⟩⟩ ⟨1, 0⟩ 0 names ⟨[], []⟩
      ⟨[record, Record.named .backendVolume "tank/b"], []⟩ 5
    let degraded := Attempt.degradedReport ⟨2, proposal.batch.toSnapshot, ⟨2, 0⟩⟩ names
      (.failed (.internal "down")) (.fetched ⟨[], []⟩) ⟨2, none, .empty, none⟩ 5
    let deliveries : List Delivery :=
      [.report proposal.report, .overrun ⟨⟨2, 0⟩, 2, 1⟩, .report degraded]
    let metrics := ofDeliveries deliveries
    (∀ report ∈ Delivery.reports deliveries, report.IsShowable)
      ∧ metrics.Show deliveries
      ∧ proposal.report.candidateCounts.length = 1 ∧ metrics.candidates = .empty
      ∧ metrics.generation = 1 ∧ metrics.unmatchable.get? .backendVolume = some 1
      ∧ metrics.confirmedTotal = 1 ∧ metrics.overruns = 1
      ∧ metrics.sourceUp.get? .cluster = some false ∧ metrics.sourceUp.get? .backend = some true := by
  intro record names proposal degraded deliveries metrics
  have hshowable : ∀ report ∈ Delivery.reports deliveries, report.IsShowable := by
    decide +kernel +revert
  refine ⟨hshowable, show_ofDeliveries deliveries hshowable, ?_⟩
  decide +kernel +revert

end Metrics

end OrphanWatch
