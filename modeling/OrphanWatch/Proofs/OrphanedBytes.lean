import Mathlib.Algebra.Order.BigOperators.Group.List
import Mathlib.Algebra.GroupWithZero.Nat
import Mathlib.Algebra.Order.Group.Nat
import OrphanWatch.Proofs.Difference
import OrphanWatch.Proofs.Soundness

/-!
# The bytes that orphans hold

The account of a committed scan says how many bytes the confirmed orphans of each side hold. A candidate has the
size of the record that it was last observed with, and this record may be long gone: a candidate is left alone
while its scope is not listed, its key collides or its record is withheld. In a scan where none of this happens,
every candidate that stays active was observed in that very scan, with a record of its own
(`Round.exists_orphan_of_active`). So orphans do not hold more than is listed
(`Engine.orphaned_bytes_are_listed`).
-/

namespace OrphanWatch

theorem Kind.eq_of_side_of_scope {first second : Kind} (hside : first.side = second.side)
    (hscope : first.scope = second.scope) : first = second := by
  revert hside hscope
  cases first <;> cases second <;> decide

/-- The confirmed orphans that hold storage. -/
def Snapshot.storing (snapshot : Snapshot) : List Candidate :=
  snapshot.confirmed.filter fun candidate => candidate.kind != .volumeClaim

def Snapshot.storingOn (snapshot : Snapshot) (side : OrphanSide) : List Candidate :=
  snapshot.storing.filter fun candidate => candidate.side == side

def Usage.orphanedOn (usage : Usage) : OrphanSide → Nat
  | .clusterOnly => usage.clusterOrphanedBytes
  | .backendOnly => usage.backendOrphanedBytes

/-- What the records of a kind hold fits into 64 bits. -/
def Usage.Fits (kind : Kind) (records : List Record) : Prop :=
  (sizesOf kind records).sum < Text.wordSize

instance (kind : Kind) (records : List Record) : Decidable (Usage.Fits kind records) :=
  inferInstanceAs (Decidable (_ < _))

structure Candidate.IsOf (candidate : Candidate) (record : Record) : Prop where
  kind : candidate.kind = record.kind
  nativeId : candidate.nativeId = record.nativeId
  sizeBytes : candidate.sizeBytes = record.sizeBytes

/-- Every confirmed orphan that holds storage has a record of its own in the listing of its side. -/
def Snapshot.IsBacked (snapshot : Snapshot) (cluster backend : List Record) : Prop :=
  ∃ found : Candidate → Record, (snapshot.storing.map found).Nodup
    ∧ ∀ candidate ∈ snapshot.storing, candidate.IsOf (found candidate)
      ∧ found candidate ∈ listed cluster backend candidate.side.holder

/-! ### One key -/

namespace Round

variable {round : Round} {key : Key} {side : OrphanSide} {record : Record} {entry : Option Candidate}

/-- An active candidate of the same side is of the same kind as the record that it is observed with. -/
theorem isOf_followed
    (hkind : ∀ candidate, entry = some candidate → candidate.side = side → candidate.kind = record.kind) :
    (round.followed key side record entry).IsOf record
      ∧ (round.followed key side record entry).side = side := by
  have hevaluate : ∀ candidate : Candidate, candidate.IsOf record → candidate.side = side →
      (candidate.evaluate round.now round.policy).1.IsOf record
        ∧ (candidate.evaluate round.now round.policy).1.side = side := by
    intro candidate hof hside
    unfold Candidate.evaluate
    split
    · exact ⟨⟨hof.kind, hof.nativeId, hof.sizeBytes⟩, hside⟩
    · exact ⟨hof, hside⟩
  rw [followed_eq]
  split
  · next candidate hcontinuing =>
      obtain ⟨hentry, hsame⟩ := Option.filter_eq_some_iff.1 hcontinuing
      have hside : candidate.side = side := by
        rw [Bool.and_eq_true, beq_iff_eq] at hsame
        exact hsame.2
      exact hevaluate _ ⟨hkind candidate hentry hside, rfl, rfl⟩ hside
  · exact hevaluate _ ⟨rfl, rfl, rfl⟩ rfl

theorem isActive_of_map_ended {resolution : Resolution} {candidate : Candidate}
    (hended : entry.map (round.ended resolution) = some candidate) : candidate.isActive = false := by
  obtain ⟨before, -, rfl⟩ := Option.map_eq_some_iff.1 hended
  rw [Candidate.isActive, state_ended]
  rfl

/-- Where a scan leaves nothing out, a candidate that is active afterwards has been followed. -/
theorem exists_orphan_of_active {sighting : Sighting} {candidate : Candidate}
    (hpassed : round.passed key sighting entry = some candidate) (hactive : candidate.isActive = true)
    (hexcluded : sighting.excluded = false) (hskipped : sighting.skipped = false)
    (hcounted : ∀ pair, sighting.pair = some pair → round.isWithheld pair = false) :
    ∃ pair side record, sighting.pair = some pair ∧ pair.orphan? = some (side, record)
      ∧ candidate = round.followed key side record (round.kept entry) := by
  have hstays : ∀ (resolution : Resolution) (earlier : Option Candidate),
      earlier.map (round.ended resolution) ≠ some candidate := by
    intro resolution earlier hended
    rw [isActive_of_map_ended hended] at hactive
    cases hactive
  obtain ⟨pair, isSettled, isExcluded, isSkipped⟩ := sighting
  obtain rfl : isExcluded = false := hexcluded
  obtain rfl : isSkipped = false := hskipped
  cases pair with
  | none => exact absurd hpassed (hstays .vanished _)
  | some pair =>
      cases isSettled with
      | true => exact absurd hpassed (hstays .matched _)
      | false =>
          cases horphan : pair.orphan? with
          | none =>
              simp only [passed, settled, vanished, paired, horphan, Option.isNone_some,
                Bool.false_and, Bool.false_eq_true, if_false] at hpassed
              exact absurd hpassed (hstays .matched _)
          | some orphan =>
              have hfree : ¬ (orphan.1 = .backendOnly ∧ round.withholds orphan.2 = true) := by
                have hnot := hcounted pair rfl
                rw [isWithheld, horphan, Option.any_some, Bool.eq_false_iff, Ne, Bool.and_eq_true,
                  beq_iff_eq] at hnot
                exact hnot
              simp only [passed, settled, vanished, paired, horphan, Option.isNone_some,
                Bool.false_and, Bool.false_eq_true, if_false, if_neg hfree] at hpassed
              exact ⟨pair, orphan.1, orphan.2, rfl, horphan, (Option.some.inj hpassed).symm⟩

end Round

/-! ### One scan -/

/-- The report of a scan in which every record counted: all scopes were listed, no key collided and no record was
withheld. -/
structure CycleReport.LeavesNothingOut (report : CycleReport) : Prop where
  listed : report.skippedScopes = []
  apart : report.collisions = []
  counted : report.withinRetention = 0

theorem Inventory.observed_nil (inventory : Inventory) : inventory.observed [] = inventory.records :=
  List.filter_eq_self.2 fun _ _ => rfl

namespace Engine

variable (engine : Engine) (attempt : Attempt) (cluster backend : Inventory) (elapsed : Nat)

theorem collisions_propose :
    (engine.propose attempt cluster backend elapsed).report.collisions =
      (Attempt.correlation cluster backend).collisions := by
  simp only [propose, Attempt.propose, CycleReport.collisions, Correlation.anomalies,
    List.filterMap_append, List.filterMap_map]
  have hcollisions : ∀ found : List KeyCollision, found.filterMap some = found :=
    fun found => List.filterMap_some
  have hothers : ∀ counts : List (Kind × Nat),
      counts.filterMap (fun _ => (none : Option KeyCollision)) = [] :=
    fun counts => List.filterMap_eq_nil_iff.2 fun _ _ => rfl
  exact (congrArg₂ (· ++ ·) (hcollisions _) (hothers _)).trans (List.append_nil _)

variable {engine attempt cluster backend elapsed} {policy : Policy}

/-- If nothing was left out, an active candidate has a record of its own in the listing of its side. -/
theorem exists_listed_of_active (hsound : attempt.base.Sound policy)
    (hall : (engine.propose attempt cluster backend elapsed).report.LeavesNothingOut) {key : Key}
    {candidate : Candidate}
    (hentry : (engine.propose attempt cluster backend elapsed).batch.candidates.get? key = some candidate)
    (hactive : candidate.isActive = true) :
    ∃ record ∈ eligible cluster.records backend.records candidate.side.holder key,
      candidate.IsOf record := by
  let round := attempt.round engine.policy engine.retention
  let correlation := Attempt.correlation cluster backend
  have hnone : skippedScopes cluster backend = [] := hall.listed
  have hcorrelation : correlation = .of cluster.records backend.records := by
    simp only [correlation, Attempt.correlation, hnone, Inventory.observed_nil]
  have hpassed : round.passed key (correlation.sighting (skippedScopes cluster backend) key)
      (attempt.base.candidates.get? key) = some candidate := by
    rw [← Classification.get?_run]
    exact hentry
  have hexcluded : correlation.excludedKeys.contains key = false := by
    have hempty : correlation.collisions = [] := (collisions_propose ..).symm.trans hall.apart
    rw [Correlation.excludedKeys, hempty]
    rfl
  have hcounted : ∀ pair, correlation.pairs.get? key = some pair → round.isWithheld pair = false := by
    have hzero : correlation.pairs.toList.countP (fun entry => round.isWithheld entry.2) = 0 :=
      (Classification.counts_run round (skippedScopes cluster backend) correlation
        attempt.base.candidates).2.1.symm.trans hall.counted
    intro pair hpair
    have hentry : (key, pair) ∈ correlation.pairs.toList := SortedMap.get?_eq_some_iff.1 hpair
    exact Bool.eq_false_iff.2 (List.countP_eq_zero.1 hzero _ hentry)
  obtain ⟨pair, side, record, hpair, horphan, rfl⟩ :=
    Round.exists_orphan_of_active hpassed hactive hexcluded (by rw [hnone]; rfl) hcounted
  simp only [Correlation.sighting, hcorrelation] at hpair
  obtain ⟨hside, hkey, -⟩ :=
    Placement.of_eq_claims_iff.1 (Correlation.claims_of_orphan hpair horphan)
  have heligible : record ∈ eligible cluster.records backend.records side.holder key := by
    have hon : pair.on? side.holder = some record := by
      cases pair <;> cases horphan <;> rfl
    rw [← Correlation.on?_toList_of_pair hpair, hon]
    exact List.mem_singleton_self record
  have hkind : ∀ earlier, round.kept (attempt.base.candidates.get? key) = some earlier →
      earlier.side = side → earlier.kind = record.kind := by
    intro earlier hkept hsame
    have hearlier := hsound key earlier (Option.filter_eq_some_iff.1 hkept).1
    apply Kind.eq_of_side_of_scope
    · rw [hearlier.kind_side, hsame, hside]
    · rw [hearlier.kind_scope, hearlier.key_eq, (Key.isNormal_of_ofRecord? hkey).2]
  obtain ⟨hof, hsame⟩ := Round.isOf_followed hkind
  refine ⟨record, ?_, hof⟩
  rw [hsame]
  exact heligible

end Engine

/-! ### Amounts -/

theorem total_eq_sum (amounts : List Nat) : total amounts = amounts.sum := rfl

namespace Usage

theorem sum_sizesOf_append (kind : Kind) (first second : List Record) :
    (sizesOf kind (first ++ second)).sum = (sizesOf kind first).sum + (sizesOf kind second).sum := by
  rw [sizesOf, List.filter_append, List.map_append, List.sum_append, sizesOf, sizesOf]

theorem sum_sizesOf_le_of_subperm {records others : List Record} (kind : Kind)
    (hsub : records.Subperm others) : (sizesOf kind records).sum ≤ (sizesOf kind others).sum := by
  obtain ⟨kept, hperm, hsublist⟩ := hsub
  calc
    (sizesOf kind records).sum = (sizesOf kind kept).sum :=
      (((hperm.filter _).map _).sum_eq).symm
    _ ≤ (sizesOf kind others).sum :=
      ((hsublist.filter _).map _).sum_le_sum fun _ _ => Nat.zero_le _

/-- Records of two kinds hold together what each of the kinds holds. -/
theorem sum_sizes_of_two_kinds {first second : Kind} (hne : first ≠ second) {records : List Record}
    (hkinds : ∀ record ∈ records, record.kind = first ∨ record.kind = second) :
    (records.map (·.sizeBytes)).sum = (sizesOf first records).sum + (sizesOf second records).sum := by
  induction records with
  | nil => rfl
  | cons record rest ih =>
      have hrest := ih fun other hother => hkinds other (List.mem_cons_of_mem _ hother)
      rw [List.map_cons, List.sum_cons, hrest]
      simp only [sizesOf]
      rcases hkinds record List.mem_cons_self with hkind | hkind
      · have hother : record.kind ≠ second := hkind ▸ hne
        simp [hkind, hne]
        omega
      · simp [hkind, hne.symm]
        omega

/-- What the account says is what the storing candidates of a side hold, added up in 64 bits. -/
theorem orphanedBytesOn_values (snapshot : Snapshot) (side : OrphanSide) :
    orphanedBytesOn side snapshot.candidates.values =
      ((snapshot.storingOn side).map (·.sizeBytes)).sum % Text.wordSize := by
  have hsame : snapshot.storingOn side =
      snapshot.candidates.values.filter fun c => holdsStorage c && c.side == side := by
    simp only [Snapshot.storingOn, Snapshot.storing, Snapshot.confirmed, Snapshot.filter,
      List.filter_filter]
    refine List.filter_congr fun candidate _ => ?_
    simp only [holdsStorage, Candidate.isConfirmed, Option.all_none, Option.all_some, Bool.true_and]
    rw [Bool.and_comm, Bool.and_comm (candidate.kind != .volumeClaim)]
  rw [orphanedBytesOn, hsame, wrappedTotal_eq, total_eq_sum]

/-- Bytes that fit into 64 bits are added up exactly. -/
theorem bytesOf_append {kind : Kind} {first second : List Record} (hfits : Fits kind (first ++ second)) :
    bytesOf kind (first ++ second) = (sizesOf kind first).sum + (sizesOf kind second).sum := by
  rw [← sum_sizesOf_append]
  exact wrappedTotal_eq_total hfits

/-- Candidates that each have a listed record of their own hold no more than is listed of their kinds. -/
theorem sum_sizes_le_of_found {first second : Kind} (hne : first ≠ second) {candidates : List Candidate}
    {records : List Record} {found : Candidate → Record} (hnodup : (candidates.map found).Nodup)
    (hfound : ∀ candidate ∈ candidates, found candidate ∈ records ∧ candidate.IsOf (found candidate))
    (hkinds : ∀ candidate ∈ candidates, candidate.kind = first ∨ candidate.kind = second) :
    (candidates.map (·.sizeBytes)).sum ≤ (sizesOf first records).sum + (sizesOf second records).sum := by
  have hsizes : candidates.map (·.sizeBytes) = (candidates.map found).map (·.sizeBytes) := by
    rw [List.map_map]
    exact List.map_congr_left fun candidate hmem => (hfound candidate hmem).2.sizeBytes
  have hsubset : candidates.map found ⊆ records := by
    intro record hmem
    obtain ⟨candidate, hcandidate, rfl⟩ := List.mem_map.1 hmem
    exact (hfound candidate hcandidate).1
  have hsub : (candidates.map found).Subperm records := 
    List.subperm_of_subset hnodup hsubset
  have hboth : ∀ record ∈ candidates.map found, record.kind = first ∨ record.kind = second := by
    intro record hmem
    obtain ⟨candidate, hcandidate, rfl⟩ := List.mem_map.1 hmem
    rw [← (hfound candidate hcandidate).2.kind]
    exact hkinds candidate hcandidate
  calc
    (candidates.map (·.sizeBytes)).sum = ((candidates.map found).map (·.sizeBytes)).sum := by
      rw [hsizes]
    _ = (sizesOf first (candidates.map found)).sum + (sizesOf second (candidates.map found)).sum :=
      sum_sizes_of_two_kinds hne hboth
    _ ≤ (sizesOf first records).sum + (sizesOf second records).sum := by
      have hfirst := sum_sizesOf_le_of_subperm first hsub
      have hsecond := sum_sizesOf_le_of_subperm second hsub
      omega

end Usage

/-! ### Committed scans -/

namespace Snapshot

variable {snapshot : Snapshot} {candidate : Candidate} {policy : Policy}

theorem mem_storing_iff (hsound : snapshot.Sound policy) :
    candidate ∈ snapshot.storing ↔ snapshot.candidates.get? candidate.key = some candidate
      ∧ candidate.state = .confirmed ∧ candidate.kind ≠ .volumeClaim := by
  have hvalue : candidate ∈ snapshot.candidates.values ↔
      snapshot.candidates.get? candidate.key = some candidate := by
    rw [SortedMap.values, List.mem_map]
    constructor
    · rintro ⟨⟨key, found⟩, hmem, rfl⟩
      have hentry : snapshot.candidates.get? key = some found := SortedMap.get?_eq_some_iff.2 hmem
      rw [(hsound key found hentry).key_eq]
      exact hentry
    · exact fun hentry => ⟨_, SortedMap.get?_eq_some_iff.1 hentry, rfl⟩
  rw [storing, confirmed, filter, List.mem_filter, List.mem_filter, hvalue]
  simp [and_assoc]

theorem mem_storingOn_iff {side : OrphanSide} :
    candidate ∈ snapshot.storingOn side ↔ candidate ∈ snapshot.storing ∧ candidate.side = side := by
  rw [storingOn, List.mem_filter, beq_iff_eq]

theorem nodup_storing (hsound : snapshot.Sound policy) : snapshot.storing.Nodup := by
  have hkeys : snapshot.candidates.values.map (·.key) = snapshot.candidates.keys := by
    rw [SortedMap.values, List.map_map, SortedMap.keys]
    exact List.map_congr_left fun entry hmem =>
      (hsound entry.1 entry.2 (SortedMap.get?_eq_some_iff.2 hmem)).key_eq
  have hvalues : snapshot.candidates.values.Nodup := by
    apply List.Nodup.of_map (·.key)
    rw [hkeys]
    exact SortedMap.nodup_keys _
  exact (hvalues.filter _).filter _

/-- The orphans of a side hold no more than is listed of the two kinds that hold storage there. -/
theorem IsBacked.sum_sizes_le {cluster backend : List Record} (hbacked : snapshot.IsBacked cluster backend)
    (hsound : snapshot.Sound policy) {side : OrphanSide} {first second : Kind} (hne : first ≠ second)
    (hkinds : ∀ kind : Kind, kind.side = side.holder → kind ≠ .volumeClaim →
      kind = first ∨ kind = second) :
    ((snapshot.storingOn side).map (·.sizeBytes)).sum ≤
      (Usage.sizesOf first (listed cluster backend side.holder)).sum
        + (Usage.sizesOf second (listed cluster backend side.holder)).sum := by
  obtain ⟨found, hnodup, hfound⟩ := hbacked
  apply Usage.sum_sizes_le_of_found hne
  · exact (List.filter_sublist.map found).nodup hnodup
  · intro candidate hmem
    obtain ⟨hstoring, hside⟩ := mem_storingOn_iff.1 hmem
    obtain ⟨hof, hlisted⟩ := hfound candidate hstoring
    exact ⟨hside ▸ hlisted, hof⟩
  · intro candidate hmem
    obtain ⟨hstoring, hside⟩ := mem_storingOn_iff.1 hmem
    obtain ⟨hentry, -, hclaim⟩ := (mem_storing_iff hsound).1 hstoring
    exact hkinds candidate.kind (hside ▸ (hsound _ candidate hentry).kind_side) hclaim

end Snapshot

namespace Engine

theorem sound_propose {engine : Engine} {attempt : Attempt} (hsound : attempt.base.Sound engine.policy)
    (cluster backend : Inventory) (elapsed : Nat) :
    (engine.propose attempt cluster backend elapsed).batch.toSnapshot.Sound engine.policy :=
  hsound.advanced engine.retention attempt.startedAt cluster backend

/-- In a scan that left nothing out every orphan has a record of its own. -/
theorem isBacked_propose {engine : Engine} {attempt : Attempt} {cluster backend : Inventory} {elapsed : Nat}
    (hsound : attempt.base.Sound engine.policy)
    (hall : (engine.propose attempt cluster backend elapsed).report.LeavesNothingOut) :
    (engine.propose attempt cluster backend elapsed).batch.toSnapshot.IsBacked cluster.records
      backend.records := by
  have hnext := sound_propose hsound cluster backend elapsed
  generalize hsnapshot : (engine.propose attempt cluster backend elapsed).batch.toSnapshot = next at hnext ⊢
  have hexists : ∀ candidate ∈ next.storing, ∃ record,
      record ∈ eligible cluster.records backend.records candidate.side.holder candidate.key
        ∧ candidate.IsOf record := by
    intro candidate hmem
    obtain ⟨hentry, hconfirmed, -⟩ := (Snapshot.mem_storing_iff hnext).1 hmem
    have hactive : candidate.isActive = true := by
      rw [Candidate.isActive, hconfirmed]
      rfl
    rw [← hsnapshot] at hentry
    exact exists_listed_of_active hsound hall hentry hactive
  have hsome : Nonempty Record := ⟨.named .volume ""⟩
  choose! found heligible hof using hexists
  refine ⟨found, ?_, fun candidate hmem => ⟨hof candidate hmem,
    (Correlation.mem_eligible_iff.1 (heligible candidate hmem)).1⟩⟩
  -- The record of a candidate has the key of the candidate, so no two of them share a record.
  refine List.Nodup.map_on ?_ (Snapshot.nodup_storing hnext)
  intro first hfirst second hsecond hsame
  have hkey := (Correlation.mem_eligible_iff.1 (heligible first hfirst)).2.2.1
  have hkey' := (Correlation.mem_eligible_iff.1 (heligible second hsecond)).2.2.1
  rw [hsame, hkey'] at hkey
  have hentry := ((Snapshot.mem_storing_iff hnext).1 hfirst).1
  have hentry' := ((Snapshot.mem_storing_iff hnext).1 hsecond).1
  rw [Option.some.inj hkey, hentry] at hentry'
  exact Option.some.inj hentry'

/-- **Orphans hold what is listed.** The account of a committed scan gives the sizes of the confirmed orphans that
hold storage; and if the scan left nothing out, each of them has a record of its own in the listing of its side, of
the same kind, name and size. Sums are exact as long as they fit into 64 bits. -/
theorem orphaned_bytes_are_listed {engine now : Engine} {attempts : List Attempt}
    (hempty : engine.store.snapshot = .initial) (hreaches : engine.Reaches now attempts)
    {attempt : Attempt} (hbegun : attempt ∈ attempts) {clusterFetch backendFetch : Fetch}
    {cancelled : Bool} {elapsed : Nat} {report : CycleReport}
    (hreport : (now.conclude attempt clusterFetch backendFetch cancelled elapsed).2 = .ok report)
    (hcommitted : report.outcome = .committed) :
    let next := (now.conclude attempt clusterFetch backendFetch cancelled elapsed).1.store.snapshot
    let held (side : OrphanSide) : Nat := ((next.storingOn side).map (·.sizeBytes)).sum
    ∃ cluster backend usage, clusterFetch = .fetched cluster ∧ backendFetch = .fetched backend
      ∧ next.usage = some usage ∧ report.usage = some usage
      ∧ (∀ side, usage.orphanedOn side = held side % Text.wordSize
        ∧ (held side < Text.wordSize → usage.orphanedOn side = held side))
      ∧ (report.LeavesNothingOut →
        next.IsBacked cluster.records backend.records
          ∧ (Usage.Fits .backendVolume (cluster.records ++ backend.records) →
            Usage.Fits .backendSnapshot (cluster.records ++ backend.records) →
            usage.backendOrphanedBytes ≤ usage.backendUsedBytes + usage.backendSnapshotBytes)
          ∧ (Usage.Fits .volume (cluster.records ++ backend.records) →
            usage.clusterOrphanedBytes ≤
              usage.provisionedBytes + (Usage.sizesOf .snapshot cluster.records).sum)) := by
  intro next held
  obtain ⟨cluster, backend, hcluster, hbackend, rfl, hnext⟩ := conclude_of_committed hreport hcommitted
  obtain ⟨hpolicy, -, hbases⟩ := hreaches.sound hempty
  have hbase : attempt.base.Sound now.policy := hpolicy ▸ hbases attempt hbegun
  have hsound := sound_propose hbase cluster backend elapsed
  simp only [held, next, hnext]
  generalize hproposal : now.propose attempt cluster backend elapsed = proposal at hsound ⊢
  let usage : Usage := .measure proposal.batch.generation attempt.startedAt cluster.records backend.records
    proposal.batch.candidates.values
  have husage : proposal.batch.usage = some usage ∧ proposal.report.usage = some usage := by
    subst hproposal
    exact ⟨rfl, rfl⟩
  have hheld : ∀ side, usage.orphanedOn side =
      ((proposal.batch.toSnapshot.storingOn side).map (·.sizeBytes)).sum % Text.wordSize := by
    intro side
    rw [← Usage.orphanedBytesOn_values]
    cases side <;> rfl
  have hle : ∀ side, usage.orphanedOn side ≤
      ((proposal.batch.toSnapshot.storingOn side).map (·.sizeBytes)).sum := by
    intro side
    rw [hheld]
    exact Nat.mod_le ..
  refine ⟨cluster, backend, usage, hcluster, hbackend, husage.1, husage.2, fun side => ⟨hheld side, fun hfits => ?_⟩,
    fun hall => ?_⟩
  · rw [hheld, Nat.mod_eq_of_lt hfits]
  have hbacked : proposal.batch.toSnapshot.IsBacked cluster.records backend.records := by
    subst hproposal
    exact isBacked_propose hbase hall
  refine ⟨hbacked, fun hvolumes hsnapshots => ?_, fun hvolumes => ?_⟩
  · calc
      usage.backendOrphanedBytes = usage.orphanedOn .backendOnly := rfl
      _ ≤ ((proposal.batch.toSnapshot.storingOn .backendOnly).map (·.sizeBytes)).sum := hle .backendOnly
      _ ≤ (Usage.sizesOf .backendVolume backend.records).sum
          + (Usage.sizesOf .backendSnapshot backend.records).sum :=
        hbacked.sum_sizes_le hsound (by decide) (by intro kind; cases kind <;> decide)
      _ ≤ usage.backendUsedBytes + usage.backendSnapshotBytes := by
        simp only [usage, Usage.measure, Usage.bytesOf_append hvolumes, Usage.bytesOf_append hsnapshots]
        omega
  · calc
      usage.clusterOrphanedBytes = usage.orphanedOn .clusterOnly := rfl
      _ ≤ ((proposal.batch.toSnapshot.storingOn .clusterOnly).map (·.sizeBytes)).sum := hle .clusterOnly
      _ ≤ (Usage.sizesOf .volume cluster.records).sum + (Usage.sizesOf .snapshot cluster.records).sum :=
        hbacked.sum_sizes_le hsound (by decide) (by intro kind; cases kind <;> decide)
      _ ≤ usage.provisionedBytes + (Usage.sizesOf .snapshot cluster.records).sum := by
        simp only [usage, Usage.measure, Usage.bytesOf_append hvolumes]
        omega

/-- A volume that has grown since it was first missed is confirmed with the size of its second record. -/
theorem orphaned_bytes_of_grown_volume :
    let volume (bytes : Nat) : Record :=
      { Record.named .backendVolume "tank/a" with rawKey := some "a", sizeBytes := bytes }
    let engine := ofPolicy ⟨2, 0⟩ 0
    let scan := Scan.complete ⟨2, 0⟩ [volume 7]
    let begun := (engine.scanAll [.complete ⟨1, 0⟩ [volume 5]]).begin scan.now
    let result := begun.1.conclude begun.2 scan.cluster scan.backend scan.cancelled scan.elapsed
    engine.store.snapshot = .initial ∧ engine.Reaches begun.1 [begun.2]
      ∧ ∃ report cluster backend usage, result.2 = .ok report ∧ report.outcome = .committed
        ∧ report.LeavesNothingOut ∧ report.usage = some usage ∧ usage.backendOrphanedBytes = 7
        ∧ scan.cluster = .fetched cluster ∧ scan.backend = .fetched backend
        ∧ result.1.store.snapshot.IsBacked cluster.records backend.records
        ∧ Usage.Fits .backendVolume (cluster.records ++ backend.records)
        ∧ Usage.Fits .backendSnapshot (cluster.records ++ backend.records)
        ∧ usage.backendOrphanedBytes ≤ usage.backendUsedBytes + usage.backendSnapshotBytes := by
  intro volume engine scan begun result
  have hgiven : result.2.toOption.map (fun report => (report.outcome, report.skippedScopes,
      report.collisions, report.withinRetention, report.usage.map (·.backendOrphanedBytes))) =
        some (.committed, [], [], 0, some 7) := by decide +kernel +revert
  have hreaches : engine.Reaches begun.1 [begun.2] := (reaches_scanAll engine _).begin scan.now
  cases hresult : result.2 with
  | error error =>
      rw [hresult] at hgiven
      cases hgiven
  | ok report =>
      simp only [hresult, Except.toOption, Option.map_some, Option.some.injEq, Prod.mk.injEq] at hgiven
      obtain ⟨hcommitted, hlisted, hapart, hcounted, hbytes⟩ := hgiven
      have hall : report.LeavesNothingOut := ⟨hlisted, hapart, hcounted⟩
      obtain ⟨cluster, backend, usage, hcluster, hbackend, -, husage, -, hbound⟩ :=
        orphaned_bytes_are_listed rfl hreaches List.mem_cons_self hresult hcommitted
      obtain ⟨hbacked, hbytesBound, -⟩ := hbound hall
      have hfits : Usage.Fits .backendVolume (cluster.records ++ backend.records)
          ∧ Usage.Fits .backendSnapshot (cluster.records ++ backend.records) := by
        cases hcluster
        cases hbackend
        decide +kernel
      rw [husage] at hbytes
      exact ⟨rfl, hreaches, report, cluster, backend, usage, rfl, hcommitted, hall, husage,
        Option.some.inj hbytes, hcluster, hbackend, hbacked, hfits.1, hfits.2, hbytesBound hfits.1 hfits.2⟩

end Engine

end OrphanWatch
