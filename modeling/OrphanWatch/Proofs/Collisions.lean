import OrphanWatch.Proofs.Accounting
import OrphanWatch.Proofs.Hysteresis
import OrphanWatch.Proofs.IncompleteScans
import OrphanWatch.Proofs.Ledger

/-!
# Keys that collide

Two records of one side that have the same key collide, and the key is left alone. Bound claims do not take
part in this: they are healthy without a counterpart, so that several of them may settle one key. The keys of
pairs and of collisions are always apart, and the settled keys are apart from both, save those that a bound
claim and another record have in common (`IsPartlyBound`). At every other key at most one of the passes of a
scan does anything, and what a scan resolves there is nothing that it started or confirmed itself
(`Engine.collisions_leave_candidates_alone`).
-/

namespace OrphanWatch

/-- A bound claim and a record that is none have the key. -/
def IsPartlyBound (cluster backend : List Record) (key : Key) : Prop :=
  (∃ side, ∃ record ∈ listed cluster backend side, record.IsSettled side key)
    ∧ ∃ side, ∃ record ∈ listed cluster backend side, record.IsEligible side key

theorem two_le_countP_of_getElem? {α : Type} {p : α → Bool} {items : List α} {i j : Nat}
    {first second : α} (hlt : i < j) (hfirst : items[i]? = some first) (hsecond : items[j]? = some second)
    (hp : p first = true) (hp' : p second = true) : 2 ≤ items.countP p := by
  have hbefore : 0 < (items.take j).countP p := by
    refine List.countP_pos_iff.2 ⟨first, List.mem_of_getElem? (i := i) ?_, hp⟩
    rw [List.getElem?_take_of_lt hlt, hfirst]
  have hafter : 0 < (items.drop j).countP p := by
    refine List.countP_pos_iff.2 ⟨second, List.mem_of_getElem? (i := 0) ?_, hp'⟩
    rw [List.getElem?_drop, Nat.add_zero, hsecond]
  rw [← List.take_append_drop j items, List.countP_append]
  omega

namespace Correlation

variable {cluster backend : List Record} {key : Key}

structure SeparatesKeys (cluster backend : List Record) : Prop where
  collides {side : Side} {key : Key} {i j : Nat} {first second : Record} (hne : i ≠ j)
    (hfirst : (listed cluster backend side)[i]? = some first)
    (hsecond : (listed cluster backend side)[j]? = some second)
    (heligible : first.IsEligible side key) (heligible' : second.IsEligible side key) :
    (∃ collision ∈ (of cluster backend).collisions, collision.key = key ∧ collision.side = side
        ∧ first.nativeId ∈ collision.nativeIds ∧ second.nativeId ∈ collision.nativeIds)
      ∧ key ∉ (of cluster backend).pairs.keys
      ∧ (¬ IsPartlyBound cluster backend key → key ∉ (of cluster backend).settled.keys)
  paired_apart : ∀ key ∈ (of cluster backend).pairs.keys, key ∉ (of cluster backend).excludedKeys.keys
  settled_apart : ∀ key ∈ (of cluster backend).settled.keys, ¬ IsPartlyBound cluster backend key →
    key ∉ (of cluster backend).pairs.keys ∧ key ∉ (of cluster backend).excludedKeys.keys

theorem two_le_length_eligible {side : Side} {i j : Nat} {first second : Record} (hne : i ≠ j)
    (hfirst : (listed cluster backend side)[i]? = some first)
    (hsecond : (listed cluster backend side)[j]? = some second)
    (heligible : first.IsEligible side key) (heligible' : second.IsEligible side key) :
    2 ≤ (eligible cluster backend side key).length := by
  rw [eligible, ← List.countP_eq_length_filter]
  rcases Nat.lt_or_gt_of_ne hne with hlt | hgt
  · exact two_le_countP_of_getElem? hlt hfirst hsecond (decide_eq_true heligible)
      (decide_eq_true heligible')
  · exact two_le_countP_of_getElem? hgt hsecond hfirst (decide_eq_true heligible')
      (decide_eq_true heligible)

theorem exists_eligible_of_paired (hpaired : key ∈ (of cluster backend).pairs.keys) :
    ∃ side, eligible cluster backend side key ≠ [] := by
  have hpos := (mem_keys_pairs_iff.1 hpaired).1
  by_cases hcluster : eligible cluster backend .cluster key = []
  · rw [hcluster, List.length_nil, Nat.zero_add] at hpos
    exact ⟨.backend, List.length_pos_iff.1 hpos⟩
  · exact ⟨.cluster, hcluster⟩

theorem not_mem_excludedKeys_of_paired (hpaired : key ∈ (of cluster backend).pairs.keys) :
    key ∉ (of cluster backend).excludedKeys.keys := by
  obtain ⟨side, hclaimed⟩ := exists_eligible_of_paired hpaired
  exact (mem_keys_pairs_iff_not_mem_excludedKeys hclaimed).1 hpaired

/-- Where a bound claim has the key, only another record can bring it among the pairs or the collisions. -/
theorem isPartlyBound_of_settled (hsettled : key ∈ (of cluster backend).settled.keys)
    (hclaimed : ∃ side, eligible cluster backend side key ≠ []) : IsPartlyBound cluster backend key := by
  obtain ⟨side, hside⟩ := hclaimed
  obtain ⟨record, hmem⟩ := List.exists_mem_of_ne_nil _ hside
  exact ⟨mem_keys_settled_iff.1 hsettled, side, record, mem_eligible_iff.1 hmem⟩

theorem separatesKeys (cluster backend : List Record) : SeparatesKeys cluster backend where
  collides {side key i j first second} hne hfirst hsecond heligible heligible' := by
    have hmany := two_le_length_eligible hne hfirst hsecond heligible heligible'
    have hexcluded : key ∈ (of cluster backend).excludedKeys.keys := mem_excludedKeys_iff.2 ⟨side, hmany⟩
    let ids := sortedTexts ((eligible cluster backend side key).map (·.nativeId))
    have hid : ∀ {record : Record} {i : Nat}, (listed cluster backend side)[i]? = some record →
        record.IsEligible side key → record.nativeId ∈ ids := by
      intro record i hrecord hrecordEligible
      exact List.mem_mergeSort.2 (List.mem_map_of_mem
        (mem_eligible_iff.2 ⟨List.mem_of_getElem? hrecord, hrecordEligible⟩))
    exact ⟨⟨⟨key, side, ids⟩, mem_collisions_iff.2 ⟨hmany, rfl⟩, rfl, rfl, hid hfirst heligible,
        hid hsecond heligible'⟩,
      fun hpaired => not_mem_excludedKeys_of_paired hpaired hexcluded, fun hpartly hsettled =>
        hpartly (isPartlyBound_of_settled hsettled ⟨side, List.ne_nil_of_length_pos (by omega)⟩)⟩
  paired_apart _ hpaired := not_mem_excludedKeys_of_paired hpaired
  settled_apart key hsettled happart := by
    refine ⟨fun hpaired => happart ?_, fun hexcluded => happart ?_⟩
    · exact isPartlyBound_of_settled hsettled (exists_eligible_of_paired hpaired)
    · obtain ⟨side, hmany⟩ := mem_excludedKeys_iff.1 hexcluded
      exact isPartlyBound_of_settled hsettled ⟨side, List.ne_nil_of_length_pos (by omega)⟩

end Correlation

theorem Sighting.settled_eq_false_of_pair {sighting : Sighting}
    (happart : sighting.settled = true → sighting.pair = none) {pair : Pair}
    (hpair : sighting.pair = some pair) : sighting.settled = false := by
  rw [Bool.eq_false_iff]
  intro hsettled
  rw [happart hsettled] at hpair
  cases hpair

namespace Round

variable (round : Round) (key : Key) {sighting : Sighting} (entry : Option Candidate)

/-- At a key that is not both settled and paired, a scan keeps the entry, ends it or follows it. -/
theorem passed_cases (happart : sighting.settled = true → sighting.pair = none) :
    round.passed key sighting entry = round.kept entry
      ∨ (∃ resolution, round.passed key sighting entry =
        (round.kept entry).map (round.ended resolution))
      ∨ ∃ side record, round.passed key sighting entry =
        some (round.followed key side record (round.kept entry)) := by
  obtain ⟨pair, isSettled, isExcluded, isSkipped⟩ := sighting
  cases pair with
  | none =>
      simp only [passed, paired, settled, vanished]
      cases isSettled with
      | true =>
          have htwice : ((round.kept entry).map (round.ended .matched)).map (round.ended .vanished) =
              (round.kept entry).map (round.ended .matched) := by
            rw [Option.map_map]
            exact congrArg ((round.kept entry).map ·)
              (funext fun candidate => ended_ended round .matched .vanished candidate)
          rw [if_pos rfl, htwice, ite_self]
          exact .inr (.inl ⟨.matched, rfl⟩)
      | false =>
          rw [if_neg Bool.false_ne_true]
          split
          · exact .inr (.inl ⟨.vanished, rfl⟩)
          · exact .inl rfl
  | some pair =>
      obtain rfl : isSettled = false := Sighting.settled_eq_false_of_pair happart rfl
      simp only [passed, settled, vanished, Option.isNone_some, Bool.false_and, Bool.false_eq_true,
        if_false, paired]
      split
      · exact .inr (.inl ⟨.matched, rfl⟩)
      · split
        · exact .inl rfl
        · exact .inr (.inr ⟨_, _, rfl⟩)

variable {round key entry} in
/-- What is resolved after a scan was so before, or has been active. -/
theorem exists_before_of_resolved (happart : sighting.settled = true → sighting.pair = none)
    {ended : Candidate} (hended : round.passed key sighting entry = some ended)
    (hstate : ended.state = .resolved) :
    ∃ before, entry = some before ∧ (before = ended
      ∨ (before.isActive = true ∧ ∃ resolution, ended =
        { before with
          state := .resolved
          resolution := some resolution
          resolvedAt := some round.now
          lastGeneration := round.generation })) := by
  obtain hkept | ⟨resolution, hmapped⟩ | ⟨side, record, hfollowed⟩ := round.passed_cases key entry happart
  · rw [hkept] at hended
    exact ⟨ended, (Option.filter_eq_some_iff.1 hended).1, .inl rfl⟩
  · rw [hmapped] at hended
    obtain ⟨before, hbefore, hafter⟩ := Option.map_eq_some_iff.1 hended
    refine ⟨before, (Option.filter_eq_some_iff.1 hbefore).1, ?_⟩
    by_cases hover : before.state = .resolved
    · exact .inl ((ended_eq_self hover).symm.trans hafter)
    · rw [Round.ended, if_neg hover] at hafter
      exact .inr ⟨bne_iff_ne.2 hover, resolution, hafter.symm⟩
  · rw [hfollowed] at hended
    cases hended
    have hactive : (round.followed key side record (round.kept entry)).isActive = true :=
      isActive_followed side record
    rw [Candidate.isActive, hstate] at hactive
    cases hactive

end Round

namespace Ledger

theorem confirmed_resolve (ledger : Ledger) (round : Round) (resolution : Resolution) :
    (ledger.resolve round resolution).confirmed = ledger.confirmed := by
  unfold resolve
  split
  · rfl
  · split <;> rfl

theorem resolved_follow (ledger : Ledger) (round : Round) (key : Key) (side : OrphanSide)
    (record : Record) : (ledger.follow round key side record).resolved = ledger.resolved := by
  unfold follow
  split
  · rfl
  · split <;> rfl

/-- At a key that is not both settled and paired, a scan does not note both. -/
theorem confirmed_or_resolved_eq_nil (round : Round) (key : Key) {sighting : Sighting}
    (happart : sighting.settled = true → sighting.pair = none) (entry : Option Candidate) :
    ((⟨entry, [], []⟩ : Ledger).passed round key sighting).confirmed = []
      ∨ ((⟨entry, [], []⟩ : Ledger).passed round key sighting).resolved = [] := by
  obtain ⟨pair, isSettled, isExcluded, isSkipped⟩ := sighting
  cases pair with
  | none =>
      refine .inl ?_
      simp only [passed]
      split <;> split <;> simp only [confirmed_resolve]
  | some pair =>
      obtain rfl : isSettled = false := Sighting.settled_eq_false_of_pair happart rfl
      simp only [passed, Option.isNone_some, Bool.false_and, Bool.false_eq_true, if_false, Ledger.pair]
      split
      · exact .inl (confirmed_resolve ..)
      · exact .inr (resolved_follow ..)

end Ledger

namespace Classification

variable {round : Round} {skipped : List Scope} {correlation : Correlation} {key : Key}

theorem sighting_apart
    (happart : key ∈ correlation.settled.keys → key ∉ correlation.pairs.keys) :
    (correlation.sighting skipped key).settled = true → (correlation.sighting skipped key).pair = none := by
  intro hsettled
  exact SortedMap.get?_eq_none_iff.2 (happart (SortedMap.contains_eq_true_iff.1 hsettled))

/-- A scan leaves an active candidate alone whose key is excluded, and neither paired nor settled. -/
theorem get?_run_of_excluded {base : SortedMap Key Candidate} {candidate : Candidate}
    (hbase : base.get? key = some candidate) (hactive : candidate.isActive = true)
    (hexcluded : key ∈ correlation.excludedKeys.keys) (hpaired : key ∉ correlation.pairs.keys)
    (hsettled : key ∉ correlation.settled.keys) :
    (run round skipped correlation base).candidates.get? key = some candidate := by
  have hkept : round.kept (some candidate) = some candidate := by
    have hstate : candidate.state ≠ .resolved := bne_iff_ne.1 hactive
    rw [Round.kept, Option.filter_some_pos]
    simp [Candidate.isExpired, hstate]
  rw [get?_run, hbase, Round.passed, Correlation.sighting, SortedMap.get?_eq_none_iff.2 hpaired,
    SortedMap.contains_eq_false_iff.2 hsettled, SortedMap.contains_eq_true_iff.2 hexcluded, hkept]
  rfl

/-- The lists of what was confirmed and what was resolved have only such keys in common that are both
settled and paired. -/
theorem exists_key_of_confirmed_of_resolved {base : SortedMap Key Candidate}
    (hkeyed : ∀ key candidate, base.get? key = some candidate → candidate.key = key)
    {confirmed ended : Candidate}
    (hconfirmed : confirmed ∈ (run round skipped correlation base).newConfirmed)
    (hended : ended ∈ (run round skipped correlation base).resolved) (hkey : ended.key = confirmed.key) :
    confirmed.key ∈ correlation.settled.keys ∧ confirmed.key ∈ correlation.pairs.keys := by
  by_contra hneither
  have happart : confirmed.key ∈ correlation.settled.keys → confirmed.key ∉ correlation.pairs.keys :=
    fun hsettled hpaired => hneither ⟨hsettled, hpaired⟩
  have hledger := ledger_run round skipped correlation hkeyed confirmed.key
  have hinConfirmed : confirmed ∈ ((run round skipped correlation base).ledger confirmed.key).confirmed :=
    List.mem_filter.2 ⟨hconfirmed, beq_self_eq_true _⟩
  have hinResolved : ended ∈ ((run round skipped correlation base).ledger confirmed.key).resolved :=
    List.mem_filter.2 ⟨hended, beq_iff_eq.2 hkey⟩
  rw [hledger] at hinConfirmed hinResolved
  have hsighting : (correlation.sighting skipped confirmed.key).settled = true →
      (correlation.sighting skipped confirmed.key).pair = none := sighting_apart happart
  rcases Ledger.confirmed_or_resolved_eq_nil round confirmed.key hsighting
    (round.kept (base.get? confirmed.key)) with hnil | hnil
  · rw [hnil] at hinConfirmed
    cases hinConfirmed
  · rw [hnil] at hinResolved
    cases hinResolved

end Classification

namespace Engine

/-- **Collisions leave candidates alone**, and what a scan resolves is nothing that it started or confirmed
itself. -/
theorem collisions_leave_candidates_alone :
    (∀ cluster backend : List Record, Correlation.SeparatesKeys cluster backend)
      ∧ ∀ (engine : Engine) (scan : Scan) (cluster backend : Inventory),
        scan.inventories? = some (cluster, backend) →
          let skipped := skippedScopes cluster backend
          let correlation := Attempt.correlation cluster backend
          let isPartlyBound := IsPartlyBound (cluster.observed skipped) (backend.observed skipped)
          let base := engine.store.snapshot
          let next := (engine.scan scan).1.store.snapshot
          ∃ report, (engine.scan scan).2 = .ok report ∧ report.outcome = .committed
            ∧ (∀ key candidate, base.candidates.get? key = some candidate →
              candidate.isActive = true → key ∈ correlation.excludedKeys.keys → ¬ isPartlyBound key →
                next.candidates.get? key = some candidate)
            ∧ (∀ key ended, ¬ isPartlyBound key → next.candidates.get? key = some ended →
              ended.state = .resolved → ∃ before, base.candidates.get? key = some before
                ∧ (before = ended ∨ (before.isActive = true ∧ ∃ resolution, ended =
                  { before with
                    state := .resolved
                    resolution := some resolution
                    resolvedAt := some scan.now
                    lastGeneration := next.generation })))
            ∧ ((∀ key candidate, base.candidates.get? key = some candidate → candidate.key = key) →
              ∀ confirmed ∈ report.newConfirmed, ∀ ended ∈ report.resolved,
                ended.key = confirmed.key → isPartlyBound confirmed.key) := by
  refine ⟨Correlation.separatesKeys, fun engine scan cluster backend hinventories => ?_⟩
  intro skipped correlation isPartlyBound base next
  have hseparates := Correlation.separatesKeys (cluster.observed skipped) (backend.observed skipped)
  have happart : ∀ key, ¬ isPartlyBound key → key ∈ correlation.settled.keys →
      key ∉ correlation.pairs.keys :=
    fun key hpartly hsettled => (hseparates.settled_apart key hsettled hpartly).1
  have hnext : next = base.advanced engine.policy engine.retention scan.now cluster backend := by
    have hscan := snapshot_scan engine scan
    rw [Snapshot.after, hinventories] at hscan
    exact hscan
  let round : Round := ⟨base.generation + 1, scan.now, engine.policy, engine.retention⟩
  rw [hnext, scan_of_inventories? hinventories]
  refine ⟨_, rfl, rfl, fun key candidate hbase hactive hexcluded hpartly => ?_,
    fun key ended hpartly hended hstate => ?_, fun hkeyed confirmed hconfirmed ended hended hkey => ?_⟩
  · have hunpaired : key ∉ correlation.pairs.keys :=
      fun hpaired => hseparates.paired_apart key hpaired hexcluded
    have hunsettled : key ∉ correlation.settled.keys :=
      fun hsettled => (hseparates.settled_apart key hsettled hpartly).2 hexcluded
    exact Classification.get?_run_of_excluded hbase hactive hexcluded hunpaired hunsettled
  · have hpassed : round.passed key (correlation.sighting skipped key) (base.candidates.get? key) =
        some ended := by
      rw [← Classification.get?_run]
      exact hended
    exact Round.exists_before_of_resolved (Classification.sighting_apart (happart key hpartly)) hpassed
      hstate
  · obtain ⟨hsettled, hpaired⟩ := Classification.exists_key_of_confirmed_of_resolved hkeyed
      hconfirmed hended hkey
    exact Correlation.isPartlyBound_of_settled hsettled (Correlation.exists_eligible_of_paired hpaired)

/-- Two claims that are not bound collide, and the candidate that one of them had stays as it is. -/
theorem colliding_claims_leave_candidate :
    let claim (name : String) : Record := { Record.named .volumeClaim name with status := some "Pending" }
    let key : Key := ⟨.claim, "apps/data"⟩
    let engine := (ofPolicy ⟨2, 0⟩ 0).scanAll [.complete ⟨1, 0⟩ [claim "apps/data"]]
    let scan := Scan.complete ⟨2, 0⟩ [claim "apps/data", claim "Apps/Data"]
    key ∉ (Correlation.of [claim "apps/data", claim "Apps/Data"] []).pairs.keys
      ∧ ∃ candidate, engine.store.snapshot.candidates.get? key = some candidate
        ∧ (engine.scan scan).1.store.snapshot.candidates.get? key = some candidate := by
  intro claim key engine scan
  let cluster := Inventory.ofAnswers .cluster scan.answer
  let backend := Inventory.ofAnswers .backend scan.answer
  obtain ⟨heligible, heligible', hfound, hexcluded, hunbound⟩ :
      (claim "apps/data").IsEligible .cluster key ∧ (claim "Apps/Data").IsEligible .cluster key
        ∧ (engine.store.snapshot.candidates.get? key).any (·.isActive) = true
        ∧ key ∈ (Attempt.correlation cluster backend).excludedKeys.keys
        ∧ ∀ side ∈ [Side.cluster, .backend],
          ∀ record ∈ listed (cluster.observed []) (backend.observed []) side,
            ¬ record.IsSettled side key := by
    decide +kernel +revert
  have hpartly : ¬ IsPartlyBound (cluster.observed []) (backend.observed []) key := by
    rintro ⟨⟨side, record, hmem, hsettled⟩, -⟩
    exact hunbound side (by cases side <;> decide) record hmem hsettled
  obtain ⟨hseparates, hscans⟩ := collisions_leave_candidates_alone
  obtain ⟨report, -, -, hkeeps, -⟩ := hscans engine scan cluster backend rfl
  obtain ⟨candidate, hcandidate, hactive⟩ := (Option.any_eq_true _ _).1 hfound
  exact ⟨((hseparates _ _).collides Nat.zero_ne_one rfl rfl heligible heligible').2.1, candidate, hcandidate,
    hkeeps key candidate hcandidate hactive hexcluded hpartly⟩

/-- A bound claim does not collide: not with another bound claim, and not with a claim that is not bound. So
one scan can confirm and resolve the candidate of a key, and resolve one whose key has collided. -/
theorem bound_claims_do_not_collide :
    let claim (name : String) : Record := { Record.named .volumeClaim name with status := some "Pending" }
    let bound (name : String) : Record :=
      { Record.named .volumeClaim name with status := some "Bound" }.withAttribute .boundVolume "pv-1"
    let key : Key := ⟨.claim, "apps/data"⟩
    let first := (ofPolicy ⟨1, 0⟩ 0).scan (.complete ⟨1, 0⟩ [bound "apps/data", claim "Apps/Data"])
    let watched := (ofPolicy ⟨1, 0⟩ 0).scanAll [.complete ⟨1, 0⟩ [claim "apps/data"]]
    let second := watched.scan (.complete ⟨2, 0⟩ [claim "apps/data", claim "Apps/Data", bound "APPS/DATA"])
    (∀ record ∈ [bound "apps/data", bound "Apps/Data", claim "Apps/Data"],
        record.kind.side = .cluster ∧ Key.ofRecord? record = some key)
      ∧ (let correlation := Correlation.of [bound "apps/data", bound "Apps/Data"] []
        correlation.collisions = [] ∧ key ∈ correlation.settled.keys)
      ∧ (let correlation := Correlation.of [bound "apps/data", claim "Apps/Data"] []
        correlation.collisions = [] ∧ key ∈ correlation.settled.keys ∧ key ∈ correlation.pairs.keys)
      ∧ first.2.toOption.map (fun report =>
          (report.newConfirmed.map (·.key), report.resolved.map (·.key))) = some ([key], [key])
      ∧ (watched.store.snapshot.candidates.get? key).any (·.isActive) = true
      ∧ second.2.toOption.map (fun report => (report.anomalies.length, report.resolved.map (·.key))) =
          some (1, [key]) := by
  decide +kernel

end Engine

end OrphanWatch
