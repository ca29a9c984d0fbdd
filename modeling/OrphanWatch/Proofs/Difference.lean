import OrphanWatch.Proofs.Accounting
import OrphanWatch.Proofs.Ledger
import OrphanWatch.Proofs.ReportedFindings

/-!
# Reports as differences

A scan that commits reports exactly what it changed: the candidates that it resolved and confirmed, and the
numbers of those that it started and evicted can be told from the findings before and after
(`Fleet.committed_report_is_difference`). The lists and the counters are kept while the candidates change,
and the notes on a key are right because nothing is done to the key after they are made.
-/

namespace OrphanWatch

/-- The candidate goes on from nothing: there was none, a resolved one, or one on the other side. -/
def Candidate.isNewAfter (candidate : Candidate) (before : Option Candidate) : Bool :=
  before.all fun earlier => !earlier.isActive || earlier.side != candidate.side

def Candidate.isAdvancedAfter (candidate : Candidate) (generation : Nat) (before : Option Candidate) :
    Bool :=
  candidate.isActive && candidate.lastGeneration == generation
    && before.any fun earlier => earlier.isActive && earlier.side == candidate.side

/-- The report tells the difference between two snapshots, the second of which comes from the first by a scan
that found `correlation`. -/
structure CycleReport.IsDifference (report : CycleReport) (base next : Snapshot)
    (correlation : Correlation) : Prop extends report.Describes next where
  nodup_resolved : (report.resolved.map (·.key)).Nodup
  mem_resolved_iff : ∀ candidate, candidate ∈ report.resolved ↔
    next.candidates.get? candidate.key = some candidate ∧ candidate.state = .resolved
  active_of_resolved : ∀ candidate ∈ report.resolved,
    ∃ before, base.candidates.get? candidate.key = some before ∧ before.isActive = true
  nodup_newConfirmed : (report.newConfirmed.map (·.key)).Nodup
  mem_newConfirmed_iff : ∀ candidate, candidate ∈ report.newConfirmed ↔
    next.candidates.get? candidate.key = some candidate
      ∧ candidate.isConfirmedAfter (base.candidates.get? candidate.key) = true
  disjoint : ∀ ended ∈ report.resolved, ∀ confirmed ∈ report.newConfirmed, ended.key ≠ confirmed.key
  evicted : report.evicted = base.candidates.values.countP fun candidate => candidate.state == .resolved
  newCandidates : report.newCandidates = next.candidates.toList.countP fun entry =>
    entry.2.isNewAfter (base.candidates.get? entry.1)
  discrepancies : correlation.discrepancies.size =
    report.newCandidates + report.withinRetention + next.candidates.toList.countP fun entry =>
      entry.2.isAdvancedAfter next.generation (base.candidates.get? entry.1)
  mem_candidateCounts_iff : ∀ count, count ∈ report.candidateCounts ↔
    0 < count.count ∧ count.count = next.candidates.values.countP fun candidate =>
      candidate.side == count.side && candidate.kind == count.kind && candidate.state == count.state

/-- A bound claim and one that is not bound have the same key. -/
def Inventory.MixesClaims (inventory : Inventory) (key : Key) : Prop :=
  ∃ bound ∈ inventory.records, ∃ unbound ∈ inventory.records,
    bound.kind = .volumeClaim ∧ unbound.kind = .volumeClaim
      ∧ bound.isBoundClaim = true ∧ unbound.isBoundClaim = false
      ∧ Key.ofRecord? bound = some key ∧ Key.ofRecord? unbound = some key

def Snapshot.IsOrderly (snapshot : Snapshot) : Prop :=
  ∀ key candidate, snapshot.candidates.get? key = some candidate →
    candidate.key = key ∧ candidate.lastGeneration ≤ snapshot.generation

/-- The tally has one entry for each count that is not zero. -/
theorem CandidateCount.mem_tally_iff {candidates : List Candidate} {count : CandidateCount} :
    count ∈ tally candidates ↔
      0 < count.count ∧ count.count = candidates.countP fun candidate =>
        candidate.side == count.side && candidate.kind == count.kind && candidate.state == count.state := by
  have hsides : ∀ side : OrphanSide, side ∈ OrphanSide.all := fun side => by cases side <;> decide
  have hkinds : ∀ kind : Kind, kind ∈ Kind.all := fun kind => by cases kind <;> decide
  have hstates : ∀ state : CandidateState, state ∈ CandidateState.all :=
    fun state => by cases state <;> decide
  have hcount : ∀ side kind state, count? candidates side kind state = some count ↔
      side = count.side ∧ kind = count.kind ∧ state = count.state ∧ 0 < count.count
        ∧ count.count = candidates.countP fun candidate =>
          candidate.side == side && candidate.kind == kind && candidate.state == state := by
    intro side kind state
    rw [count?, List.countP_eq_length_filter]
    cases candidates.filter fun candidate =>
        candidate.side == side && candidate.kind == kind && candidate.state == state with
    | nil =>
        simp only [List.length_nil, reduceCtorEq, false_iff]
        omega
    | cons first rest =>
        simp only [Option.some.injEq]
        constructor
        · rintro rfl
          exact ⟨rfl, rfl, rfl, Nat.succ_pos _, rfl⟩
        · rintro ⟨rfl, rfl, rfl, -, hlength⟩
          rw [← hlength]
  simp only [tally, List.mem_flatMap, List.mem_filterMap, hcount]
  constructor
  · rintro ⟨side, -, kind, -, state, -, rfl, rfl, rfl, hcounted⟩
    exact hcounted
  · intro hcounted
    exact ⟨count.side, hsides _, count.kind, hkinds _, count.state, hstates _, rfl, rfl, rfl, hcounted⟩

/-! ### One key -/

namespace Candidate

variable (candidate : Candidate) (generation : Nat) (entry : Option Candidate)

theorem isNewAfter_iff :
    candidate.isNewAfter entry = true ↔
      ∀ earlier, entry = some earlier → earlier.isActive = true → earlier.side ≠ candidate.side := by
  cases entry with
  | none => simp [isNewAfter]
  | some earlier => cases hactive : earlier.isActive <;> simp [isNewAfter, hactive]

theorem isAdvancedAfter_iff :
    candidate.isAdvancedAfter generation entry = true ↔
      candidate.isActive = true ∧ candidate.lastGeneration = generation
        ∧ ∃ earlier, entry = some earlier ∧ earlier.isActive = true ∧ earlier.side = candidate.side := by
  cases entry <;> simp [isAdvancedAfter, and_assoc]

theorem isNewAfter_filter_isActive :
    candidate.isNewAfter (entry.filter (·.isActive)) = candidate.isNewAfter entry := by
  cases entry with
  | none => rfl
  | some earlier =>
      rw [isNewAfter, isNewAfter, Option.filter]
      cases hactive : earlier.isActive <;> simp [hactive]

theorem isAdvancedAfter_filter_isActive :
    candidate.isAdvancedAfter generation (entry.filter (·.isActive)) =
      candidate.isAdvancedAfter generation entry := by
  cases entry with
  | none => rfl
  | some earlier =>
      rw [isAdvancedAfter, isAdvancedAfter, Option.filter]
      cases hactive : earlier.isActive <;> simp [hactive]

theorem isConfirmedAfter_filter_isActive :
    candidate.isConfirmedAfter (entry.filter (·.isActive)) = candidate.isConfirmedAfter entry := by
  cases entry with
  | none => rfl
  | some earlier =>
      rw [isConfirmedAfter, isConfirmedAfter, Option.filter]
      cases hstate : earlier.state <;> simp [isActive, isConfirmed, hstate]

end Candidate

namespace Round

variable {round : Round} {orphan : Option (OrphanSide × Record)} {before : Option Candidate}
  {ledger : Ledger}

/-- What is booked as resolved is what is resolved in the entry. -/
theorem Books.resolved_eq (hbooks : round.Books orphan before ledger)
    (hactive : ∀ candidate, before = some candidate → candidate.isActive = true) :
    ledger.resolved = (ledger.entry.filter (·.state == .resolved)).toList := by
  cases hbooks with
  | kept =>
      cases before with
      | none => rfl
      | some candidate =>
          have hstate := hactive candidate rfl
          rw [Candidate.isActive, bne_iff_ne] at hstate
          simp [Option.filter, hstate]
  | ended candidate ended _ _ _ hended => simp [Option.filter, hended]
  | followed side record after _ _ _ hafter =>
      rw [Candidate.isActive, bne_iff_ne] at hafter
      simp [Option.filter, hafter]

theorem Books.isSome_of_mem_resolved (hbooks : round.Books orphan before ledger) {candidate : Candidate}
    (hmem : candidate ∈ ledger.resolved) : before.isSome = true := by
  cases hbooks with
  | kept => cases hmem
  | ended _ _ _ hbefore =>
      rw [hbefore]
      rfl
  | followed => cases hmem

/-- What is booked as confirmed is what has become confirmed in the entry. -/
theorem Books.confirmed_eq (hbooks : round.Books orphan before ledger) :
    ledger.confirmed = (ledger.entry.filter (·.isConfirmedAfter before)).toList := by
  cases hbooks with
  | kept =>
      cases before with
      | none => rfl
      | some candidate =>
          have hsame : candidate.isConfirmedAfter (some candidate) = false := by
            cases hconfirmed : candidate.isConfirmed <;> simp [Candidate.isConfirmedAfter, hconfirmed]
          simp [Option.filter, hsame]
  | ended candidate ended _ _ _ hended =>
      have hunconfirmed : ended.isConfirmedAfter before = false := by
        rw [Candidate.isConfirmedAfter, Candidate.isConfirmed, hended]
        rfl
      simp [Option.filter, hunconfirmed]
  | followed side record after =>
      simp only [Option.filter]
      split <;> rfl

/-- A candidate is started where a record of one side is followed and no active candidate of this side is there. -/
theorem starts_iff {pair : Pair} :
    round.starts pair before = true ↔
      ∃ side record, pair.orphan? = some (side, record)
        ∧ ¬ (side = .backendOnly ∧ round.withholds record = true)
        ∧ ∀ candidate, before = some candidate → candidate.isActive = true → candidate.side ≠ side := by
  rw [starts, isWithheld]
  cases pair.orphan? with
  | none => simp
  | some orphan =>
      obtain ⟨side, record⟩ := orphan
      cases before with
      | none => simp [Decidable.or_iff_not_imp_left]
      | some candidate => simp [Decidable.or_iff_not_imp_left]

/-- A candidate goes on where a record of one side is followed and an active candidate of this side is there. -/
theorem continues_iff {pair : Pair} :
    round.continues pair before = true ↔
      ∃ side record, pair.orphan? = some (side, record)
        ∧ ¬ (side = .backendOnly ∧ round.withholds record = true)
        ∧ ∃ candidate, before = some candidate ∧ candidate.isActive = true ∧ candidate.side = side := by
  rw [continues, isWithheld]
  cases pair.orphan? with
  | none => simp
  | some orphan =>
      obtain ⟨side, record⟩ := orphan
      cases before with
      | none => simp
      | some candidate =>
          by_cases hside : candidate.side = side
          · subst hside
            simp [Decidable.or_iff_not_imp_left]
          · simp [hside, Ne.symm hside]

/-- The pairs that start a candidate are those under whose key there is a new one afterwards. -/
theorem Books.exists_starts_iff {pair : Option Pair}
    (hbooks : round.Books (pair.bind Pair.orphan?) before ledger)
    (hactive : ∀ candidate, before = some candidate → candidate.isActive = true) :
    (∃ found, pair = some found ∧ round.starts found before = true) ↔
      ∃ after, ledger.entry = some after ∧ after.isNewAfter before = true := by
  constructor
  · rintro ⟨found, rfl, hstarts⟩
    obtain ⟨side, record, horphan, hfollowed, hother⟩ := starts_iff.1 hstarts
    cases hbooks with
    | kept hleft => exact absurd (hleft side record horphan) hfollowed
    | ended _ _ hnone => cases hnone.symm.trans horphan
    | followed side' record' after horphan' _ hside =>
        cases horphan'.symm.trans horphan
        refine ⟨after, rfl, (after.isNewAfter_iff before).2 ?_⟩
        rw [hside]
        exact hother
  · rintro ⟨after, hentry, hnew⟩
    rw [Candidate.isNewAfter_iff] at hnew
    cases hbooks with
    | kept => exact absurd rfl (hnew after hentry (hactive after hentry))
    | ended candidate ended _ hbefore hside =>
        cases hentry
        exact absurd hside.symm (hnew candidate hbefore (hactive candidate hbefore))
    | followed side record after horphan hfollowed hside =>
        cases hentry
        obtain ⟨found, hpair, hfound⟩ := Option.bind_eq_some_iff.1 horphan
        rw [hside] at hnew
        exact ⟨found, hpair, starts_iff.2 ⟨side, record, hfound, hfollowed, hnew⟩⟩

/-- The pairs that go on with a candidate are those under whose key one is advanced. -/
theorem Books.exists_continues_iff {pair : Option Pair}
    (hbooks : round.Books (pair.bind Pair.orphan?) before ledger)
    (hearlier : ∀ candidate, before = some candidate → candidate.lastGeneration < round.generation) :
    (∃ found, pair = some found ∧ round.continues found before = true) ↔
      ∃ after, ledger.entry = some after ∧ after.isAdvancedAfter round.generation before = true := by
  constructor
  · rintro ⟨found, rfl, hcontinues⟩
    obtain ⟨side, record, horphan, hfollowed, hsame⟩ := continues_iff.1 hcontinues
    cases hbooks with
    | kept hleft => exact absurd (hleft side record horphan) hfollowed
    | ended _ _ hnone => cases hnone.symm.trans horphan
    | followed side' record' after horphan' _ hside hafter hgeneration =>
        cases horphan'.symm.trans horphan
        refine ⟨after, rfl, (after.isAdvancedAfter_iff _ before).2 ⟨hafter, hgeneration, ?_⟩⟩
        rw [hside]
        exact hsame
  · rintro ⟨after, hentry, hadvanced⟩
    obtain ⟨hafter, hgeneration, hsame⟩ := (after.isAdvancedAfter_iff _ before).1 hadvanced
    cases hbooks with
    | kept =>
        have hlt := hearlier after hentry
        omega
    | ended candidate ended _ _ _ hended =>
        cases hentry
        rw [Candidate.isActive, hended] at hafter
        cases hafter
    | followed side record after horphan hfollowed hside =>
        cases hentry
        obtain ⟨found, hpair, hfound⟩ := Option.bind_eq_some_iff.1 horphan
        rw [hside] at hsame
        exact ⟨found, hpair, continues_iff.2 ⟨side, record, hfound, hfollowed, hsame⟩⟩

theorem kept_eq_filter_isActive {entry : Option Candidate}
    (hearlier : ∀ candidate, entry = some candidate → candidate.lastGeneration < round.generation) :
    round.kept entry = entry.filter (·.isActive) := by
  cases entry with
  | none => rfl
  | some candidate =>
      have hlt := hearlier candidate rfl
      have hexpired : (!candidate.isExpired round.generation) = candidate.isActive := by
        rw [Candidate.isExpired, decide_eq_true hlt, Bool.and_true, Candidate.isActive]
        rfl
      rw [kept, Option.filter, Option.filter, hexpired]

/-- What holds of the entry that eviction leaves, and of every candidate that is ended or followed, holds of
the entry after the four passes. -/
theorem passed_induction {p : Candidate → Prop} {key : Key} {sighting : Sighting}
    {entry : Option Candidate} (hkept : ∀ candidate, round.kept entry = some candidate → p candidate)
    (hended : ∀ resolution candidate, p candidate → p (round.ended resolution candidate))
    (hfollowed : ∀ side record, p (round.followed key side record (round.kept entry))) :
    ∀ candidate, round.passed key sighting entry = some candidate → p candidate := by
  have hmap : ∀ (resolution : Resolution) (entry : Option Candidate),
      (∀ candidate, entry = some candidate → p candidate) →
        ∀ candidate, entry.map (round.ended resolution) = some candidate → p candidate := by
    rintro resolution entry hentry candidate hcandidate
    obtain ⟨earlier, hearlier, rfl⟩ := Option.map_eq_some_iff.1 hcandidate
    exact hended resolution earlier (hentry earlier hearlier)
  have hpaired : ∀ candidate,
      round.paired key sighting.pair (round.kept entry) = some candidate → p candidate := by
    unfold paired
    split
    · exact hkept
    · split
      · exact hmap .matched _ hkept
      · split
        · exact hkept
        · intro candidate hcandidate
          cases hcandidate
          exact hfollowed _ _
  have hsettled : ∀ candidate, round.settled sighting.settled
      (round.paired key sighting.pair (round.kept entry)) = some candidate → p candidate := by
    unfold settled
    split
    · exact hmap .matched _ hpaired
    · exact hpaired
  unfold passed vanished
  split
  · exact hmap .vanished _ hsettled
  · exact hsettled

end Round

/-! ### One scan -/

namespace Snapshot

theorem isOrderly_initial : initial.IsOrderly := by
  intro key candidate hentry
  cases hentry

/-- A scan keeps findings orderly. -/
theorem IsOrderly.advanced {snapshot : Snapshot} (horderly : snapshot.IsOrderly) (policy : Policy)
    (retention : Int) (now : Instant) (cluster backend : Inventory) :
    (snapshot.advanced policy retention now cluster backend).IsOrderly := by
  intro key candidate hentry
  simp only [Snapshot.advanced] at hentry ⊢
  rw [Classification.get?_run] at hentry
  let round : Round := ⟨snapshot.generation + 1, now, policy, retention⟩
  let p : Candidate → Prop := fun candidate =>
    candidate.key = key ∧ candidate.lastGeneration ≤ round.generation
  have hkept : ∀ candidate, round.kept (snapshot.candidates.get? key) = some candidate →
      p candidate := by
    intro candidate hcandidate
    obtain ⟨hkey, hle⟩ := horderly key candidate (Option.filter_eq_some_iff.1 hcandidate).1
    exact ⟨hkey, Nat.le_succ_of_le hle⟩
  have hended : ∀ resolution candidate, p candidate → p (round.ended resolution candidate) := by
    rintro resolution candidate ⟨hkey, hle⟩
    refine ⟨(round.key_ended resolution candidate).trans hkey, ?_⟩
    rw [Round.ended]
    split
    · exact hle
    · exact Nat.le_refl _
  have hfollowed : ∀ side record,
      p (round.followed key side record (round.kept (snapshot.candidates.get? key))) := by
    intro side record
    refine ⟨Round.key_followed (fun candidate hcandidate => (hkept candidate hcandidate).1), ?_⟩
    exact Nat.le_of_eq (Round.lastGeneration_followed ..)
  exact Round.passed_induction hkept hended hfollowed candidate hentry

end Snapshot

/-- A key that only bound claims have is not paired: what could be paired there is a claim as well. -/
theorem Correlation.pairs_eq_none_of_settled {cluster : Inventory} {backend : List Record}
    {skipped : List Scope} {key : Key} (happart : ¬ cluster.MixesClaims key)
    (hsettled : key ∈ (of (cluster.observed skipped) backend).settled.keys) :
    (of (cluster.observed skipped) backend).pairs.get? key = none := by
  have hclaim : ∀ record : Record, record.kind.scope = .claim → record.kind = .volumeClaim := by
    intro record
    cases record.kind <;> simp [Kind.scope]
  obtain ⟨side, bound, hbound, hside, hkey, hisBound⟩ := mem_keys_settled_iff.1 hsettled
  have hboundKind : bound.kind = .volumeClaim := by
    simp only [Record.isBoundClaim, Bool.and_eq_true, beq_iff_eq] at hisBound
    exact hisBound.1.1
  have hscope : key.scope = .claim := by
    rw [(Key.isNormal_of_ofRecord? hkey).2, hboundKind]
    rfl
  have hcluster : side = .cluster := by
    rw [← hside, hboundKind]
    rfl
  subst hcluster
  rw [Option.eq_none_iff_forall_not_mem]
  intro pair hpair
  have hclaimed : 1 ≤ (eligible (cluster.observed skipped) backend .cluster key).length
      + (eligible (cluster.observed skipped) backend .backend key).length :=
    (mem_keys_pairs_iff.1 (SortedMap.mem_keys_iff.2 ⟨pair, hpair⟩)).1
  obtain ⟨other, hother⟩ : ∃ other, eligible (cluster.observed skipped) backend other key ≠ [] := by
    by_contra hnone
    have hempty : ∀ other, eligible (cluster.observed skipped) backend other key = [] := by
      intro other
      by_contra hsome
      exact hnone ⟨other, hsome⟩
    rw [hempty, hempty] at hclaimed
    cases hclaimed
  obtain ⟨unbound, hmem⟩ := List.exists_mem_of_ne_nil _ hother
  obtain ⟨hunbound, hotherSide, hotherKey, hfree⟩ := mem_eligible_iff.1 hmem
  have hunboundKind : unbound.kind = .volumeClaim := by
    apply hclaim
    rw [← (Key.isNormal_of_ofRecord? hotherKey).2, hscope]
  have hcluster : other = .cluster := by
    rw [← hotherSide, hunboundKind]
    rfl
  subst hcluster
  exact happart ⟨bound, (List.mem_filter.1 hbound).1, unbound, (List.mem_filter.1 hunbound).1,
    hboundKind, hunboundKind, hisBound, hfree, hkey, hotherKey⟩

/-- A list whose part of every key is what a function says has every key at most once. -/
theorem nodup_map_key_of_filter {candidates : List Candidate} {entry : Key → Option Candidate}
    (hpart : ∀ key, candidates.filter (·.key == key) = (entry key).toList) :
    (candidates.map (·.key)).Nodup := by
  rw [List.nodup_iff_count_le_one]
  intro key
  have hcount : (candidates.map (·.key)).count key = (candidates.filter (·.key == key)).length := by
    rw [List.count, List.countP_map, List.countP_eq_length_filter]
    rfl
  rw [hcount, hpart]
  cases entry key <;> simp

theorem mem_iff_of_filter {candidates : List Candidate} {entry : Key → Option Candidate}
    (hpart : ∀ key, candidates.filter (·.key == key) = (entry key).toList) (candidate : Candidate) :
    candidate ∈ candidates ↔ entry candidate.key = some candidate := by
  rw [← Option.mem_toList, ← hpart, List.mem_filter]
  simp

namespace Classification

variable {round : Round} {correlation : Correlation} {base : SortedMap Key Candidate}
  (skipped : List Scope)
  (hkeyed : ∀ key candidate, base.get? key = some candidate → candidate.key = key)
  (hearlier : ∀ key candidate, base.get? key = some candidate →
    candidate.lastGeneration < round.generation)
  (happart : ∀ key ∈ correlation.settled.keys, correlation.pairs.get? key = none)

include hkeyed hearlier happart

/-- What a classification leaves and notes under a key is something that a scan can book. -/
theorem books_run (key : Key) :
    round.Books ((correlation.pairs.get? key).bind Pair.orphan?)
      ((base.get? key).filter (·.isActive)) ((run round skipped correlation base).ledger key) := by
  rw [ledger_run round skipped correlation hkeyed, Round.kept_eq_filter_isActive (hearlier key)]
  have hactive : ∀ candidate, (base.get? key).filter (·.isActive) = some candidate →
      candidate.isActive = true := fun candidate hentry => (Option.filter_eq_some_iff.1 hentry).2
  have hunpaired : (correlation.sighting skipped key).settled = true →
      (correlation.sighting skipped key).pair = none :=
    fun hsettled => happart key (SortedMap.contains_eq_true_iff.1 hsettled)
  exact Round.books_passed hactive key hunpaired

/-- What a classification notes as resolved under a key is what is resolved there in the end. -/
theorem resolved_run (key : Key) :
    (run round skipped correlation base).resolved.filter (·.key == key) =
      (((run round skipped correlation base).candidates.get? key).filter
        (·.state == .resolved)).toList :=
  (books_run skipped hkeyed hearlier happart key).resolved_eq fun _ hentry =>
    (Option.filter_eq_some_iff.1 hentry).2

/-- The newly confirmed candidates of a key are what its entry has come to be confirmed as. -/
theorem newConfirmed_run (key : Key) :
    (run round skipped correlation base).newConfirmed.filter (·.key == key) =
      (((run round skipped correlation base).candidates.get? key).filter
        (·.isConfirmedAfter (base.get? key))).toList := by
  have hconfirmed := (books_run skipped hkeyed hearlier happart key).confirmed_eq
  simp only [Candidate.isConfirmedAfter_filter_isActive] at hconfirmed
  exact hconfirmed

/-- The candidates that are counted as new are those that go on from nothing. -/
theorem newCandidates_run :
    (run round skipped correlation base).newCandidates =
      (run round skipped correlation base).candidates.toList.countP fun entry =>
        entry.2.isNewAfter (base.get? entry.1) := by
  rw [(counts_run round skipped correlation base).1]
  refine SortedMap.countP_toList_eq (p := fun key pair => round.starts pair (round.kept (base.get? key)))
    (q := fun key (candidate : Candidate) => candidate.isNewAfter (base.get? key)) fun key => ?_
  have hbooks := books_run skipped hkeyed hearlier happart key
  have hstarts := hbooks.exists_starts_iff fun _ hentry => (Option.filter_eq_some_iff.1 hentry).2
  simp only [Candidate.isNewAfter_filter_isActive] at hstarts
  rw [Round.kept_eq_filter_isActive (hearlier key)]
  exact hstarts

/-- As many pairs go on with a candidate as entries are observed once more. -/
theorem continued_run :
    (correlation.pairs.toList.countP fun entry =>
        round.continues entry.2 (round.kept (base.get? entry.1))) =
      (run round skipped correlation base).candidates.toList.countP fun entry =>
        entry.2.isAdvancedAfter round.generation (base.get? entry.1) := by
  refine SortedMap.countP_toList_eq
    (p := fun key pair => round.continues pair (round.kept (base.get? key)))
    (q := fun key (candidate : Candidate) => candidate.isAdvancedAfter round.generation (base.get? key))
    fun key => ?_
  have hbooks := books_run skipped hkeyed hearlier happart key
  have hcontinues := hbooks.exists_continues_iff fun candidate hentry =>
    hearlier key candidate (Option.filter_eq_some_iff.1 hentry).1
  simp only [Candidate.isAdvancedAfter_filter_isActive] at hcontinues
  rw [Round.kept_eq_filter_isActive (hearlier key)]
  exact hcontinues

/-- Every pair with a record on one side only is a new candidate, a withheld one or an advanced one. -/
theorem size_discrepancies_run :
    correlation.discrepancies.size =
      (run round skipped correlation base).newCandidates
        + (run round skipped correlation base).withinRetention
        + (run round skipped correlation base).candidates.toList.countP fun entry =>
          entry.2.isAdvancedAfter round.generation (base.get? entry.1) := by
  obtain ⟨hnew, hwithin, -⟩ := counts_run round skipped correlation base
  rw [← continued_run skipped hkeyed hearlier happart, hnew, hwithin]
  -- The healthy pairs and the three kinds of others make up all the pairs.
  have hsorts : correlation.pairs.toList.length = _ := length_eq_countP_of_sorts
    fun entry _ => round.sorts_of_pair entry.2 (round.kept (base.get? entry.1))
  have hsplit := List.length_eq_countP_add_countP (l := correlation.pairs.toList)
    (p := fun entry => entry.2.isHealthy)
  have hsize : correlation.discrepancies.size =
      correlation.pairs.toList.countP fun entry => !entry.2.isHealthy := by
    rw [Correlation.discrepancies, SortedMap.size, SortedMap.filter, List.countP_eq_length_filter]
  simp only [Bool.not_eq_true, Bool.decide_eq_false] at hsplit
  omega

end Classification

/-- What an engine proposes is reported as the difference from the findings that the attempt read. -/
theorem Engine.isDifference_propose (engine : Engine) (attempt : Attempt) (cluster backend : Inventory)
    (elapsed : Nat) (horderly : attempt.base.IsOrderly) (happart : ∀ key, ¬ cluster.MixesClaims key) :
    let proposal := engine.propose attempt cluster backend elapsed
    proposal.report.IsDifference attempt.base proposal.batch.toSnapshot
      (Attempt.correlation cluster backend) := by
  intro proposal
  let round := attempt.round engine.policy engine.retention
  let skipped := skippedScopes cluster backend
  let correlation := Attempt.correlation cluster backend
  have hkeyed : ∀ key candidate, attempt.base.candidates.get? key = some candidate →
      candidate.key = key := fun key candidate hentry => (horderly key candidate hentry).1
  have hearlier : ∀ key candidate, attempt.base.candidates.get? key = some candidate →
      candidate.lastGeneration < round.generation :=
    fun key candidate hentry => Nat.lt_succ_of_le (horderly key candidate hentry).2
  have hunpaired : ∀ key ∈ correlation.settled.keys, correlation.pairs.get? key = none :=
    fun key hsettled => Correlation.pairs_eq_none_of_settled (happart key) hsettled
  have hresolved := Classification.resolved_run skipped hkeyed hearlier hunpaired
  have hconfirmed := Classification.newConfirmed_run skipped hkeyed hearlier hunpaired
  have hmemResolved : ∀ candidate, candidate ∈ proposal.report.resolved ↔
      proposal.batch.candidates.get? candidate.key = some candidate
        ∧ candidate.state = .resolved := by
    intro candidate
    refine (mem_iff_of_filter hresolved candidate).trans ?_
    rw [Option.filter_eq_some_iff, beq_iff_eq]
    rfl
  have hmemConfirmed : ∀ candidate, candidate ∈ proposal.report.newConfirmed ↔
      proposal.batch.candidates.get? candidate.key = some candidate
        ∧ candidate.isConfirmedAfter (attempt.base.candidates.get? candidate.key) = true := by
    intro candidate
    refine (mem_iff_of_filter hconfirmed candidate).trans ?_
    rw [Option.filter_eq_some_iff]
    rfl
  have hdescribes := engine.describes_propose attempt cluster backend elapsed
  exact
    { toDescribes := hdescribes
      nodup_resolved := nodup_map_key_of_filter hresolved
      mem_resolved_iff := hmemResolved
      active_of_resolved := by
        intro candidate hmem
        have hnoted : candidate ∈ ((Classification.run round skipped correlation
            attempt.base.candidates).ledger candidate.key).resolved :=
          List.mem_filter.2 ⟨hmem, beq_self_eq_true _⟩
        have hbooks := Classification.books_run skipped hkeyed hearlier hunpaired candidate.key
        obtain ⟨before, hbefore⟩ := Option.isSome_iff_exists.1 (hbooks.isSome_of_mem_resolved hnoted)
        exact ⟨before, Option.filter_eq_some_iff.1 hbefore⟩
      nodup_newConfirmed := nodup_map_key_of_filter hconfirmed
      mem_newConfirmed_iff := hmemConfirmed
      disjoint := by
        intro ended hended confirmed hnew heq
        obtain ⟨hentry, hstate⟩ := (hmemResolved ended).1 hended
        obtain ⟨hentry', hstate'⟩ := (hmemConfirmed confirmed).1 hnew
        rw [heq, hentry'] at hentry
        cases hentry
        rw [Candidate.isConfirmedAfter, Candidate.isConfirmed, hstate] at hstate'
        cases hstate'
      evicted := by
        have hexpired : ∀ entry ∈ attempt.base.candidates.toList,
            entry.2.isExpired round.generation = (entry.2.state == .resolved) := by
          intro entry hentry
          have hlt := hearlier entry.1 entry.2 (SortedMap.get?_eq_some_iff.2 hentry)
          rw [Candidate.isExpired, decide_eq_true hlt, Bool.and_true]
        have hcount := (Classification.counts_run round skipped correlation
          attempt.base.candidates).2.2
        rw [SortedMap.values, List.countP_map]
        refine hcount.trans (List.countP_congr fun entry hentry => ?_)
        rw [hexpired entry hentry]
        rfl
      newCandidates := Classification.newCandidates_run skipped hkeyed hearlier hunpaired
      discrepancies := Classification.size_discrepancies_run skipped hkeyed hearlier hunpaired
      mem_candidateCounts_iff := by
        intro count
        rw [hdescribes.tally]
        exact CandidateCount.mem_tally_iff }

namespace Stage

def offered? : Stage → Option Inventory
  | proposed cluster _ _ => some cluster
  | _ => none

theorem exists_eq_proposed {stage : Stage} {cluster : Inventory} (hoffered : stage.offered? = some cluster) :
    ∃ backend proposal, stage = .proposed cluster backend proposal := by
  cases stage <;> cases hoffered
  exact ⟨_, _, rfl⟩

end Stage

namespace Fleet

variable {fleet : Fleet} {before : List Action}

/-- The findings of a fleet are orderly, as long as other writers write orderly ones. -/
theorem isOrderly_run (hfresh : fleet.IsFresh)
    (hwriters : ∀ batch, Action.intrude batch ∈ before → batch.toSnapshot.IsOrderly) :
    (fleet.run before).store.snapshot.IsOrderly := by
  induction before using List.reverseRecOn with
  | nil =>
      have hempty : (fleet.run []).store.snapshot = .initial := hfresh.empty
      rw [hempty]
      exact Snapshot.isOrderly_initial
  | append_singleton earlier last ih =>
      have horderly := ih fun batch hbatch => hwriters batch (List.mem_append_left _ hbatch)
      rw [run_append_singleton]
      obtain hsame | ⟨batch, hlast, -, hsnapshot⟩ | ⟨number, cycle, hinstalls⟩ :=
        snapshot_act_cases hfresh earlier last
      · rw [hsame]
        exact horderly
      · rw [hsnapshot]
        exact hwriters batch (List.mem_append_right _ (List.mem_singleton.2 hlast.symm))
      · obtain ⟨engine, cluster, backend, -, -, -, hsnapshot⟩ := hinstalls.sequential
        rw [hsnapshot, Engine.afterCycle_eq_advanced]
        exact horderly.advanced engine.policy engine.retention cycle.attempt.startedAt cluster backend

/-- **The report of a cycle that commits is the difference that the commit makes.** The other writers of the
fleet are to store candidates under their own keys and not to date them ahead. -/
theorem committed_report_is_difference (fleet : Fleet) (hfresh : fleet.IsFresh) (before : List Action)
    (hwriters : ∀ batch, Action.intrude batch ∈ before → batch.toSnapshot.IsOrderly)
    (number elapsed : Nat) (cycle later : Cycle) (cluster backend : Inventory) (proposal : Proposal)
    (report : CycleReport) (hcycle : (fleet.run before).cycles[number]? = some cycle)
    (hstage : cycle.stage = .proposed cluster backend proposal)
    (hlater : (fleet.run (before ++ [.proceed number elapsed])).cycles[number]? = some later)
    (hreport : later.stage.report? = some report)
    (happart : ∀ key, ¬ cluster.MixesClaims key) :
    report.outcome = .committed
      ∧ report.IsDifference (fleet.run before).store.snapshot
        (fleet.run (before ++ [.proceed number elapsed])).store.snapshot
        (Attempt.correlation cluster backend) := by
  have hmem := List.mem_of_getElem? hcycle
  obtain ⟨first, spent, -, rfl⟩ :=
    (abides_run hfresh before).proposals cycle hmem cluster backend proposal hstage
  have horderly := isOrderly_run hfresh hwriters
  rw [run_append_singleton] at hlater ⊢
  obtain hsame | ⟨engine, engine', stage, -, -, hmoves, hstore, hmoved⟩ :=
    (effect_act (fleet.run before) (.proceed number elapsed)).cycle_cases hcycle
  · cases hlater.symm.trans hsame
    rw [hstage] at hreport
    cases hreport
  · -- One step after the offer there is a report only if the proposal was installed.
    cases hlater.symm.trans hmoved
    rw [hstage] at hmoves
    obtain rfl : stage = .reported report := hmoves.eq_reported rfl hreport
    cases hmoves with
    | install _ _ _ hfollows =>
        have hcurrent := (follows_iff_current hfresh hcycle hstage).1 hfollows
        have hdifference := first.isDifference_propose cycle.attempt cluster backend spent
          (hcurrent ▸ horderly) happart
        rw [hstore]
        rw [hcurrent] at hdifference
        exact ⟨rfl, hdifference⟩

/-- The second of two scans finds one orphan gone and another one there. -/
theorem difference_of_second_report :
    let volume := fun name : String =>
      { Record.named .backendVolume ("tank/" ++ name) with rawKey := some name }
    let before : List Action :=
      [.begin 0 ⟨1, 0⟩, .receive 0 (.fetched ⟨[], []⟩) (.fetched ⟨[volume "a"], []⟩), .proceed 0 5,
        .proceed 0 6, .begin 0 ⟨2, 0⟩, .receive 1 (.fetched ⟨[], []⟩) (.fetched ⟨[volume "b"], []⟩),
        .proceed 1 5]
    solitary.IsFresh
      ∧ ∃ later cluster backend report,
        (solitary.run (before ++ [.proceed 1 6])).cycles[1]? = some later
        ∧ later.stage.report? = some report
        ∧ report.resolved.map (·.key) = [⟨.volume, "a"⟩]
        ∧ report.newConfirmed.map (·.key) = [⟨.volume, "b"⟩]
        ∧ report.IsDifference (solitary.run before).store.snapshot
          (solitary.run (before ++ [.proceed 1 6])).store.snapshot (Attempt.correlation cluster backend) := by
  intro volume before
  have hoffers : ((solitary.run before).cycles[1]?.bind (·.stage.offered?)).map (·.records) =
      some [] := by decide +kernel +revert
  have hlisted : ((solitary.run (before ++ [.proceed 1 6])).cycles[1]?.bind (·.stage.report?)).map
      (fun report => (report.resolved.map (·.key), report.newConfirmed.map (·.key))) =
        some ([⟨.volume, "a"⟩], [⟨.volume, "b"⟩]) := by decide +kernel +revert
  have hfresh : solitary.IsFresh := ⟨rfl, rfl, rfl⟩
  have hwriters : ∀ batch, Action.intrude batch ∈ before → batch.toSnapshot.IsOrderly := by
    intro batch hbatch
    simp [before] at hbatch
  obtain ⟨cluster, hoffered, hnone⟩ := Option.map_eq_some_iff.1 hoffers
  obtain ⟨cycle, hcycle, hcluster⟩ := Option.bind_eq_some_iff.1 hoffered
  obtain ⟨backend, proposal, hstage⟩ := Stage.exists_eq_proposed hcluster
  obtain ⟨report, hwritten, hkeys⟩ := Option.map_eq_some_iff.1 hlisted
  obtain ⟨later, hlater, hreport⟩ := Option.bind_eq_some_iff.1 hwritten
  have happart : ∀ key, ¬ cluster.MixesClaims key := by
    rintro key ⟨bound, hbound, -⟩
    rw [hnone] at hbound
    cases hbound
  simp only [Prod.mk.injEq] at hkeys
  obtain ⟨hresolved, hconfirmed⟩ := hkeys
  obtain ⟨-, hdifference⟩ := committed_report_is_difference solitary hfresh before hwriters 1 6 cycle
    later cluster backend proposal report hcycle hstage hlater hreport happart
  exact ⟨hfresh, later, cluster, backend, report, hlater, hreport, hresolved, hconfirmed, hdifference⟩

end Fleet

end OrphanWatch
