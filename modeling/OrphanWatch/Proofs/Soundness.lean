import OrphanWatch.Proofs.Classification
import OrphanWatch.Proofs.Correlation
import OrphanWatch.Proofs.Scan

/-!
# Well-formed findings

Every candidate that a run leaves in the store is consistent in itself, with its key, with the policy and
with the generation (`Candidate.Sound`). A scan begins by evicting what was resolved before, so an entry that
it keeps is active and was last changed in an earlier generation. That is what lets one more observation be
counted without overtaking the generation.
-/

namespace OrphanWatch

/-- What holds of a candidate under its key, in the findings of a generation committed at a time. -/
structure Candidate.Sound (policy : Policy) (generation : Nat) (committedAt : Option Instant) (key : Key)
    (candidate : Candidate) : Prop where
  key_eq : candidate.key = key
  key_isNormal : key.IsNormal
  kind_side : candidate.kind.side = candidate.side.holder
  kind_scope : candidate.kind.scope = candidate.key.scope
  resolved_iff_resolution : candidate.state = .resolved ↔ candidate.resolution.isSome = true
  resolved_iff_resolvedAt : candidate.state = .resolved ↔ candidate.resolvedAt.isSome = true
  confirmedAt_of_confirmed : candidate.state = .confirmed → candidate.confirmedAt.isSome = true
  confirmedAt_of_candidate : candidate.state = .candidate → candidate.confirmedAt = none
  one_le_observations : 1 ≤ candidate.observations
  observations_le_max : candidate.observations ≤ maxObservations
  observations_le_lastGeneration : candidate.observations ≤ candidate.lastGeneration
  lastGeneration_le : candidate.lastGeneration ≤ generation
  policy_of_confirmedAt : ∀ time, candidate.confirmedAt = some time →
    policy.observations ≤ candidate.observations
      ∧ policy.minAge ≤ time.since candidate.firstObservedAt
  generation_of_resolved : candidate.state = .resolved →
    candidate.lastGeneration = generation ∧ candidate.resolvedAt = committedAt

namespace Candidate

variable {policy : Policy} {generation : Nat} {committedAt : Option Instant} {key : Key}
  {candidate : Candidate} {now : Instant}

/-- An active candidate stays sound in the next generation. -/
theorem Sound.of_active (hsound : candidate.Sound policy generation committedAt key)
    (hactive : candidate.state ≠ .resolved) :
    candidate.Sound policy (generation + 1) (some now) key :=
  { hsound with
    lastGeneration_le := Nat.le_succ_of_le hsound.lastGeneration_le
    generation_of_resolved := fun hresolved => absurd hresolved hactive }

theorem Sound.start {side : OrphanSide} {record : Record} (hkey : key.IsNormal)
    (hside : record.kind.side = side.holder) (hscope : record.kind.scope = key.scope) :
    (start key side record (generation + 1) now).Sound policy (generation + 1) (some now) key where
  key_eq := rfl
  key_isNormal := hkey
  kind_side := hside
  kind_scope := hscope
  resolved_iff_resolution := by simp [Candidate.start]
  resolved_iff_resolvedAt := by simp [Candidate.start]
  confirmedAt_of_confirmed := by simp [Candidate.start]
  confirmedAt_of_candidate := fun _ => rfl
  one_le_observations := Nat.le_refl 1
  observations_le_max := show 1 ≤ maxObservations by decide
  observations_le_lastGeneration := Nat.le_add_left 1 generation
  lastGeneration_le := Nat.le_refl _
  policy_of_confirmedAt := fun time htime => by cases htime
  generation_of_resolved := fun hresolved => by cases hresolved

/-- Counting one more scan cannot overtake the generation, since the candidate was last changed before. -/
theorem Sound.recount (hsound : candidate.Sound policy generation committedAt key)
    (hactive : candidate.state ≠ .resolved) (record : Record) :
    (candidate.recount record (generation + 1) now).Sound policy (generation + 1) (some now) key where
  key_eq := hsound.key_eq
  key_isNormal := hsound.key_isNormal
  kind_side := hsound.kind_side
  kind_scope := hsound.kind_scope
  resolved_iff_resolution := hsound.resolved_iff_resolution
  resolved_iff_resolvedAt := hsound.resolved_iff_resolvedAt
  confirmedAt_of_confirmed := hsound.confirmedAt_of_confirmed
  confirmedAt_of_candidate := hsound.confirmedAt_of_candidate
  one_le_observations := by
    have hmax : 1 ≤ maxObservations := by decide
    exact Nat.le_min.2 ⟨Nat.le_add_left 1 _, hmax⟩
  observations_le_max := Nat.min_le_right _ _
  observations_le_lastGeneration := by
    have hcount := hsound.observations_le_lastGeneration
    have hlast := hsound.lastGeneration_le
    have hmin : (candidate.recount record (generation + 1) now).observations ≤
        candidate.observations + 1 := Nat.min_le_left _ _
    exact Nat.le_trans hmin (Nat.succ_le_succ (Nat.le_trans hcount hlast))
  lastGeneration_le := Nat.le_refl _
  policy_of_confirmedAt := fun time htime => by
    obtain ⟨hcount, hage⟩ := hsound.policy_of_confirmedAt time htime
    have hmore : candidate.observations ≤
        (candidate.recount record (generation + 1) now).observations :=
      Nat.le_min.2 ⟨Nat.le_succ _, hsound.observations_le_max⟩
    exact ⟨Nat.le_trans hcount hmore, hage⟩
  generation_of_resolved := fun hresolved => absurd hresolved hactive

/-- A candidate is confirmed only if it meets the policy, so it stays sound. -/
theorem Sound.evaluate (hsound : candidate.Sound policy generation (some now) key) :
    (candidate.evaluate now policy).1.Sound policy generation (some now) key := by
  unfold Candidate.evaluate
  split
  · next hmet =>
      obtain ⟨hstate, hpolicy⟩ := hmet
      rw [Policy.isMetBy, Candidate.age, Bool.and_eq_true, decide_eq_true_eq,
        decide_eq_true_eq] at hpolicy
      have hresolution := hsound.resolved_iff_resolution
      have hresolvedAt := hsound.resolved_iff_resolvedAt
      rw [hstate] at hresolution hresolvedAt
      exact
        { hsound with
          resolved_iff_resolution := by simpa using hresolution
          resolved_iff_resolvedAt := by simpa using hresolvedAt
          confirmedAt_of_confirmed := fun _ => rfl
          confirmedAt_of_candidate := fun h => by cases h
          policy_of_confirmedAt := fun time htime => by
            cases htime
            exact hpolicy
          generation_of_resolved := fun h => by cases h }
  · exact hsound

theorem Sound.resolve (hsound : candidate.Sound policy generation (some now) key)
    (resolution : Resolution) :
    (candidate.resolve resolution generation now).1.Sound policy generation (some now) key := by
  unfold Candidate.resolve
  split
  · exact hsound
  · exact
      { hsound with
        resolved_iff_resolution := by simp
        resolved_iff_resolvedAt := by simp
        confirmedAt_of_confirmed := fun h => by cases h
        confirmedAt_of_candidate := fun h => by cases h
        observations_le_lastGeneration :=
          Nat.le_trans hsound.observations_le_lastGeneration hsound.lastGeneration_le
        lastGeneration_le := Nat.le_refl _
        generation_of_resolved := fun _ => ⟨rfl, rfl⟩ }

end Candidate

def SoundEntry (policy : Policy) (generation : Nat) (committedAt : Option Instant) (key : Key)
    (entry : Option Candidate) : Prop :=
  ∀ candidate, entry = some candidate → candidate.Sound policy generation committedAt key

namespace Round

variable {policy : Policy} {generation : Nat} {committedAt : Option Instant} {key : Key}
  {entry : Option Candidate} {round : Round}

/-- What eviction keeps of sound findings is active: what is resolved is of the old generation. -/
theorem active_of_kept (hgeneration : round.generation = generation + 1)
    (hsound : SoundEntry policy generation committedAt key entry) {candidate : Candidate}
    (hkept : round.kept entry = some candidate) :
    candidate.Sound policy generation committedAt key ∧ candidate.state ≠ .resolved := by
  obtain ⟨hentry, hunexpired⟩ := Option.filter_eq_some_iff.1 hkept
  have hcandidate := hsound candidate hentry
  refine ⟨hcandidate, fun hresolved => ?_⟩
  have hlast := (hcandidate.generation_of_resolved hresolved).1
  have hlt : candidate.lastGeneration < round.generation := by omega
  simp [Candidate.isExpired, hresolved, hlt] at hunexpired

theorem sound_kept (hgeneration : round.generation = generation + 1)
    (hsound : SoundEntry policy generation committedAt key entry) :
    SoundEntry policy (generation + 1) (some round.now) key (round.kept entry) := by
  intro candidate hkept
  obtain ⟨hcandidate, hactive⟩ := active_of_kept hgeneration hsound hkept
  exact hcandidate.of_active hactive

/-- What is followed is sound: it is under a normal key, on the side of its record. -/
theorem sound_followed (hgeneration : round.generation = generation + 1)
    (hpolicy : round.policy = policy) (hsound : SoundEntry policy generation committedAt key entry)
    {side : OrphanSide} {record : Record} (hclaims : Placement.of side.holder record = .claims key) :
    (round.followed key side record entry).Sound policy (generation + 1) (some round.now) key := by
  obtain ⟨hside, hkey, -⟩ := Placement.of_eq_claims_iff.1 hclaims
  obtain ⟨hnormal, hscope⟩ := Key.isNormal_of_ofRecord? hkey
  rw [followed_eq, hgeneration, hpolicy]
  split
  · next candidate hcontinuing =>
      obtain ⟨hentry, hactive⟩ := Option.filter_eq_some_iff.1 hcontinuing
      have hstate : candidate.state ≠ .resolved := by
        simp only [Candidate.isActive, Bool.and_eq_true, bne_iff_ne] at hactive
        exact hactive.1
      exact ((hsound candidate hentry).recount hstate record).evaluate
  · exact (Candidate.Sound.start hnormal hside hscope.symm).evaluate

theorem sound_map_ended (hgeneration : round.generation = generation + 1) (resolution : Resolution)
    (hsound : SoundEntry policy (generation + 1) (some round.now) key entry) :
    SoundEntry policy (generation + 1) (some round.now) key (entry.map (round.ended resolution)) := by
  intro candidate hended
  obtain ⟨before, hbefore, rfl⟩ := Option.map_eq_some_iff.1 hended
  rw [ended_eq, hgeneration]
  exact (hsound before hbefore).resolve resolution

/-- A pair leaves a sound entry: its record claims the key on its side. -/
theorem sound_paired (hgeneration : round.generation = generation + 1)
    (hpolicy : round.policy = policy) (hsound : SoundEntry policy generation committedAt key entry)
    {pair : Option Pair}
    (hclaims : ∀ found side record, pair = some found → found.orphan? = some (side, record) →
      Placement.of side.holder record = .claims key) :
    SoundEntry policy (generation + 1) (some round.now) key
      (round.paired key pair (round.kept entry)) := by
  have hkept := sound_kept hgeneration hsound
  cases pair with
  | none => exact hkept
  | some found =>
      simp only [paired]
      cases horphan : found.orphan? with
      | none => exact sound_map_ended hgeneration .matched hkept
      | some orphan =>
          obtain ⟨side, record⟩ := orphan
          simp only
          split
          · exact hkept
          · intro candidate hfollowed
            cases hfollowed
            have hbefore : SoundEntry policy generation committedAt key (round.kept entry) :=
              fun candidate hkept => (active_of_kept hgeneration hsound hkept).1
            exact sound_followed hgeneration hpolicy hbefore (hclaims found side record rfl horphan)

/-- One scan turns a sound entry into a sound one of the next generation. -/
theorem sound_passed (hgeneration : round.generation = generation + 1)
    (hpolicy : round.policy = policy) (hsound : SoundEntry policy generation committedAt key entry)
    {sighting : Sighting}
    (hclaims : ∀ found side record, sighting.pair = some found →
      found.orphan? = some (side, record) → Placement.of side.holder record = .claims key) :
    SoundEntry policy (generation + 1) (some round.now) key (round.passed key sighting entry) := by
  have hpaired := sound_paired hgeneration hpolicy hsound hclaims
  have hsettled : SoundEntry policy (generation + 1) (some round.now) key
      (round.settled sighting.settled (round.paired key sighting.pair (round.kept entry))) := by
    unfold settled
    split
    · exact sound_map_ended hgeneration .matched hpaired
    · exact hpaired
  unfold passed vanished
  split
  · exact sound_map_ended hgeneration .vanished hsettled
  · exact hsettled

end Round

def Snapshot.Sound (policy : Policy) (snapshot : Snapshot) : Prop :=
  ∀ key, SoundEntry policy snapshot.generation snapshot.committedAt key
    (snapshot.candidates.get? key)

namespace Snapshot

theorem sound_initial (policy : Policy) : initial.Sound policy := by
  intro key candidate hentry
  cases hentry

/-- What is classified against sound findings is sound. -/
theorem Sound.advanced {policy : Policy} {snapshot : Snapshot} (hsound : snapshot.Sound policy)
    (retention : Int) (now : Instant) (cluster backend : Inventory) :
    (snapshot.advanced policy retention now cluster backend).Sound policy := by
  intro key candidate hentry
  simp only [Snapshot.advanced] at hentry
  rw [Classification.get?_run] at hentry
  refine Round.sound_passed rfl rfl (hsound key) ?_ candidate hentry
  intro pair side record hpair horphan
  exact Correlation.claims_of_orphan hpair horphan

end Snapshot

namespace Engine

variable {engine now : Engine} {attempts : List Attempt}

/-- The findings and the base of every attempt that has not ended are sound. -/
theorem Reaches.sound (hempty : engine.store.snapshot = .initial)
    (hreaches : engine.Reaches now attempts) :
    now.policy = engine.policy ∧ now.store.snapshot.Sound engine.policy
      ∧ ∀ attempt ∈ attempts, attempt.base.Sound engine.policy := by
  induction hreaches with
  | refl =>
      rw [hempty]
      exact ⟨rfl, Snapshot.sound_initial engine.policy, fun attempt hmem => by cases hmem⟩
  | begin hreaches startedAt ih =>
      obtain ⟨hpolicy, hsnapshot, hbases⟩ := ih
      refine ⟨hpolicy, hsnapshot, fun attempt hmem => ?_⟩
      rcases List.mem_append.1 hmem with hbefore | hlast
      · exact hbases attempt hbefore
      · rw [List.mem_singleton.1 hlast]
        exact hsnapshot
  | @conclude now before after attempt hreaches cluster backend cancelled elapsed ih =>
      obtain ⟨hpolicy, hsnapshot, hbases⟩ := ih
      obtain ⟨hpolicy', -⟩ := conclude_settings now attempt cluster backend cancelled elapsed
      refine ⟨hpolicy'.trans hpolicy, ?_, fun other hmem => hbases other ?_⟩
      · obtain hsame | ⟨left, right, -, hadvanced⟩ :=
          snapshot_conclude now attempt cluster backend cancelled elapsed
        · rw [hsame]
          exact hsnapshot
        · have hbase := hbases attempt (List.mem_append_right _ List.mem_cons_self)
          rw [hadvanced, hpolicy]
          exact hbase.advanced now.retention attempt.startedAt left right
      · rcases List.mem_append.1 hmem with hbefore | hafter
        · exact List.mem_append_left _ hbefore
        · exact List.mem_append_right _ (List.mem_cons_of_mem _ hafter)

/-- **The findings that an engine can come to have are well-formed**, and a resolved candidate is among the
findings of one generation only. -/
theorem findings_wellFormed (engine : Engine) (hempty : engine.store.snapshot = .initial)
    (now : Engine) (attempts : List Attempt) (hreaches : engine.Reaches now attempts) :
    (∀ key candidate, now.store.snapshot.candidates.get? key = some candidate →
      candidate.Sound engine.policy now.store.snapshot.generation now.store.snapshot.committedAt key)
      ∧ ∀ key candidate, now.store.snapshot.candidates.get? key = some candidate →
        candidate.state = .resolved →
        ∀ other others, engine.Reaches other others →
          other.store.snapshot.candidates.get? key = some candidate →
          other.store.generation = now.store.generation := by
  obtain ⟨-, hsound, -⟩ := hreaches.sound hempty
  refine ⟨hsound, fun key candidate hentry hresolved other others hother hentry' => ?_⟩
  obtain ⟨-, hsound', -⟩ := hother.sound hempty
  have hnow := (hsound key candidate hentry).generation_of_resolved hresolved
  have hthen := (hsound' key candidate hentry').generation_of_resolved hresolved
  exact hthen.1.symm.trans hnow.1

theorem findings_wellFormed_of_vanished :
    let record : Record := { Record.named .backendVolume "tank/a" with rawKey := some "A " }
    let engine := ofPolicy ⟨2, 5⟩ 0
    let now := engine.scanAll
      [.complete ⟨1, 0⟩ [record], .complete ⟨7, 0⟩ [record], .complete ⟨9, 0⟩ []]
    engine.store.snapshot = .initial ∧ engine.Reaches now []
      ∧ ∃ candidate, now.store.snapshot.candidates.get? ⟨.volume, "a"⟩ = some candidate
        ∧ candidate.state = .resolved
        ∧ candidate.Sound engine.policy now.store.snapshot.generation now.store.snapshot.committedAt
          ⟨.volume, "a"⟩ := by
  intro record engine now
  have hstate : (now.store.snapshot.candidates.get? ⟨.volume, "a"⟩).map (·.state) =
      some .resolved := by decide +kernel +revert
  have hreaches : engine.Reaches now [] := reaches_scanAll engine _
  obtain ⟨candidate, hentry, hresolved⟩ := Option.map_eq_some_iff.1 hstate
  have hsound := (findings_wellFormed engine rfl now [] hreaches).1 _ candidate hentry
  exact ⟨rfl, hreaches, candidate, hentry, hresolved, hsound⟩

end Engine

end OrphanWatch
