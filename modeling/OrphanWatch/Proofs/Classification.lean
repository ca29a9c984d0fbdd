import OrphanWatch.Classification
import OrphanWatch.Proofs.SortedMap

/-!
# Classification, one key at a time

Four passes change one map of candidates, and later passes see what earlier ones wrote. Every step of a
pass changes the entry of a single key, and no pass visits a key twice; so what becomes of a key depends on
its own entry and on its own sighting alone.

`Round.passed` is the composition of the four passes at one key (`Classification.get?_run`), and
`Round.next` is the transition in one step.
-/

namespace OrphanWatch

/-- What one scan finds out about one key. -/
structure Sighting where
  pair : Option Pair
  /-- Whether a bound claim has the key. -/
  settled : Bool
  /-- Whether the key is left alone because of a collision. -/
  excluded : Bool
  /-- Whether the scope of the key is left out. -/
  skipped : Bool
  deriving DecidableEq, Repr

def Correlation.sighting (correlation : Correlation) (skipped : List Scope) (key : Key) : Sighting :=
  ⟨correlation.pairs.get? key, correlation.settled.contains key,
    correlation.excludedKeys.contains key, skipped.contains key.scope⟩

namespace Round

def kept (round : Round) (entry : Option Candidate) : Option Candidate :=
  entry.filter fun candidate => !candidate.isExpired round.generation

def ended (round : Round) (resolution : Resolution) (candidate : Candidate) : Candidate :=
  if candidate.state = .resolved then candidate
  else
    { candidate with
      state := .resolved
      resolution := some resolution
      resolvedAt := some round.now
      lastGeneration := round.generation }

/-- A candidate that has been observed often enough and for long enough is confirmed. -/
def judged (round : Round) (candidate : Candidate) : Candidate :=
  if candidate.state = .candidate ∧ round.policy.observations ≤ candidate.observations
      ∧ round.policy.minAge ≤ round.now.since candidate.firstObservedAt then
    { candidate with state := .confirmed, confirmedAt := some round.now }
  else candidate

def continued (round : Round) (record : Record) (candidate : Candidate) : Candidate :=
  round.judged
    { candidate with
      observations := min (candidate.observations + 1) 0xffffffff
      lastObservedAt := round.now
      lastGeneration := round.generation
      nativeId := record.nativeId
      sizeBytes := record.sizeBytes }

def started (round : Round) (key : Key) (side : OrphanSide) (record : Record) : Candidate :=
  round.judged
    { key, side
      kind := record.kind
      nativeId := record.nativeId
      sizeBytes := record.sizeBytes
      firstObservedAt := round.now
      lastObservedAt := round.now
      observations := 1
      state := .candidate
      lastGeneration := round.generation
      confirmedAt := none
      resolvedAt := none
      resolution := none }

/-- The candidate of a key that one side alone holds: an active one of that side goes on, and in place of
anything else a new one is started. -/
def followed (round : Round) (key : Key) (side : OrphanSide) (record : Record)
    (entry : Option Candidate) : Candidate :=
  match entry.filter fun candidate => candidate.state != .resolved && candidate.side == side with
  | some candidate => round.continued record candidate
  | none => round.started key side record

def paired (round : Round) (key : Key) (pair : Option Pair) (entry : Option Candidate) :
    Option Candidate :=
  match pair with
  | none => entry
  | some pair =>
    match pair.orphan? with
    | none => entry.map (round.ended .matched)
    | some (side, record) =>
      if side = .backendOnly ∧ round.withholds record = true then entry
      else some (round.followed key side record entry)

def settled (round : Round) (isSettled : Bool) (entry : Option Candidate) : Option Candidate :=
  if isSettled then entry.map (round.ended .matched) else entry

def vanished (round : Round) (isGone : Bool) (entry : Option Candidate) : Option Candidate :=
  if isGone then entry.map (round.ended .vanished) else entry

def passed (round : Round) (key : Key) (sighting : Sighting) (entry : Option Candidate) :
    Option Candidate :=
  round.vanished (sighting.pair.isNone && !sighting.excluded && !sighting.skipped)
    (round.settled sighting.settled (round.paired key sighting.pair (round.kept entry)))

/-- The transition of the entry of a key in one scan.

An expired entry counts as none. A healthy pair resolves the candidate, a record on one side alone goes on
with it or starts a new one, unless it is withheld, and a key that is found nowhere resolves it as vanished.
A settled key has its candidate resolved in any case. -/
def next (round : Round) (key : Key) (sighting : Sighting) (entry : Option Candidate) :
    Option Candidate :=
  let entry := entry.filter fun candidate =>
    !(candidate.state == .resolved && candidate.lastGeneration < round.generation)
  let met :=
    match sighting.pair with
    | some (.healthy ..) => entry.map (round.ended .matched)
    | some (.clusterOnly record) => some (round.followed key .clusterOnly record entry)
    | some (.backendOnly record) =>
      if record.kind = .backendSnapshot
          ∧ ∃ created ∈ record.createdAt, round.now.since created < round.retention then entry
      else some (round.followed key .backendOnly record entry)
    | none =>
      if sighting.settled || sighting.excluded || sighting.skipped then entry
      else entry.map (round.ended .vanished)
  if sighting.settled then met.map (round.ended .matched) else met

/-! ### The records that the code makes -/

theorem ended_eq (round : Round) (resolution : Resolution) (candidate : Candidate) :
    round.ended resolution candidate =
      (candidate.resolve resolution round.generation round.now).1 := by
  rw [ended, Candidate.resolve]
  split <;> rfl

theorem judged_eq (round : Round) (candidate : Candidate) :
    round.judged candidate = (candidate.evaluate round.now round.policy).1 := by
  have hmet : round.policy.isMetBy candidate round.now = true ↔
      round.policy.observations ≤ candidate.observations
        ∧ round.policy.minAge ≤ round.now.since candidate.firstObservedAt := by
    rw [Policy.isMetBy, Bool.and_eq_true, decide_eq_true_eq, decide_eq_true_eq, Candidate.age]
  rw [judged, Candidate.evaluate]
  simp only [hmet]
  split <;> rfl

theorem continued_eq (round : Round) (record : Record) (candidate : Candidate) :
    round.continued record candidate =
      (candidate.observe record round.generation round.now round.policy).1 :=
  judged_eq ..

theorem started_eq (round : Round) (key : Key) (side : OrphanSide) (record : Record) :
    round.started key side record =
      ((Candidate.start key side record round.generation round.now).evaluate round.now
        round.policy).1 :=
  judged_eq ..

theorem followed_eq (round : Round) (key : Key) (side : OrphanSide) (record : Record)
    (entry : Option Candidate) :
    round.followed key side record entry =
      match entry.filter fun candidate => candidate.isActive && candidate.side == side with
      | some candidate => (candidate.observe record round.generation round.now round.policy).1
      | none =>
        ((Candidate.start key side record round.generation round.now).evaluate round.now
          round.policy).1 := by
  simp only [← continued_eq, ← started_eq]
  rfl

theorem withholds_iff {round : Round} {record : Record} :
    round.withholds record = true ↔ record.kind = .backendSnapshot
      ∧ ∃ created ∈ record.createdAt, round.now.since created < round.retention := by
  rw [withholds, Bool.and_eq_true, beq_iff_eq, Option.any_eq_true]
  simp only [decide_eq_true_eq, Option.mem_def]

theorem ended_eq_self {round : Round} {resolution : Resolution} {candidate : Candidate}
    (hstate : candidate.state = .resolved) : round.ended resolution candidate = candidate :=
  if_pos hstate

theorem state_ended (round : Round) (resolution : Resolution) (candidate : Candidate) :
    (round.ended resolution candidate).state = .resolved := by
  rw [ended]
  split
  · assumption
  · rfl

/-- What is resolved once stays as it is. -/
theorem ended_ended (round : Round) (first second : Resolution) (candidate : Candidate) :
    round.ended second (round.ended first candidate) = round.ended first candidate :=
  ended_eq_self (state_ended round first candidate)

end Round

namespace Classification

/-! ### Single steps -/

theorem get?_evict (round : Round) (base : SortedMap Key Candidate) (key : Key) :
    (evict round base).candidates.get? key = round.kept (base.get? key) :=
  SortedMap.get?_filter base _ key

/-- Resolving the candidate of one key leaves those of all others alone. -/
theorem get?_resolveAt (round : Round) (resolution : Resolution) (state : Classification)
    (key other : Key) :
    (state.resolveAt round resolution key).candidates.get? other =
      if other = key then (state.candidates.get? other).map (round.ended resolution)
      else state.candidates.get? other := by
  unfold resolveAt
  cases hentry : state.candidates.get? key with
  | none =>
      by_cases heq : other = key
      · simp [heq, hentry]
      · simp [heq]
  | some candidate =>
      by_cases hstate : candidate.state = .resolved
      · have hsame : round.ended resolution candidate = candidate := Round.ended_eq_self hstate
        simp only [Candidate.resolve, if_pos hstate]
        by_cases heq : other = key
        · simp [heq, hentry, hsame]
        · simp [heq]
      · simp only [Candidate.resolve, if_neg hstate, SortedMap.get?_insert_eq_ite]
        by_cases heq : other = key
        · simp [heq, hentry, Round.ended, hstate]
        · simp [heq]

theorem get?_store (state : Classification) (key other : Key) (observed : Candidate × Transition) :
    (state.store key observed).candidates.get? other =
      if other = key then some observed.1 else state.candidates.get? other :=
  SortedMap.get?_insert_eq_ite ..

/-- A pair changes the entry of its own key only. -/
theorem get?_applyPair (round : Round) (state : Classification) (entry : Key × Pair) (other : Key) :
    (state.applyPair round entry).candidates.get? other =
      if other = entry.1 then round.paired entry.1 (some entry.2) (state.candidates.get? other)
      else state.candidates.get? other := by
  rw [applyPair, Round.paired]
  cases horphan : entry.2.orphan? with
  | none =>
      simp only
      rw [get?_resolveAt]
  | some orphan =>
      obtain ⟨side, record⟩ := orphan
      simp only [followOrphan]
      by_cases hwithheld : side = .backendOnly ∧ round.withholds record = true
      · simp [hwithheld]
      · rw [if_neg hwithheld, if_neg hwithheld, continuing?, Round.followed_eq]
        by_cases heq : other = entry.1
        · subst heq
          rw [if_pos rfl]
          cases hcontinuing : (state.candidates.get? entry.1).filter fun candidate =>
              candidate.isActive && candidate.side == side with
          | some candidate => simp only [get?_store, if_true]
          | none => simp only [get?_store, if_true]
        · rw [if_neg heq]
          split <;> simp only [get?_store, if_neg heq]

/-! ### Whole passes -/

/-- The pass over the pairs changes every entry by its own pair, if there is one. -/
theorem get?_pairs_pass (round : Round) (pairs : SortedMap Key Pair) (state : Classification)
    (key : Key) :
    (pairs.toList.foldl (applyPair round) state).candidates.get? key =
      round.paired key (pairs.get? key) (state.candidates.get? key) := by
  have hstep := get?_applyPair round
  cases hpair : pairs.get? key with
  | none =>
      have hne : ∀ entry ∈ pairs.toList, key ≠ entry.1 := by
        rintro ⟨other, pair⟩ hentry rfl
        rw [← SortedMap.get?_eq_some_iff, hpair] at hentry
        cases hentry
      exact SortedMap.get?_foldl_of_forall_ne hstep hne state
  | some pair =>
      have hentry : (key, pair) ∈ pairs.toList := SortedMap.get?_eq_some_iff.1 hpair
      exact SortedMap.get?_foldl_of_mem hstep pairs.nodup_keys hentry state

/-- A pass that resolves the listed keys, each of which is listed once. -/
theorem get?_resolve_pass (round : Round) (resolution : Resolution) {keys : List Key}
    (hnodup : keys.Nodup) (state : Classification) (key : Key) :
    (keys.foldl (resolveAt round resolution) state).candidates.get? key =
      if key ∈ keys then (state.candidates.get? key).map (round.ended resolution)
      else state.candidates.get? key := by
  have hstep := get?_resolveAt round resolution
  by_cases hmem : key ∈ keys
  · rw [if_pos hmem]
    have hnodup' : (keys.map id).Nodup := by rwa [List.map_id]
    exact SortedMap.get?_foldl_of_mem hstep hnodup' hmem state
  · rw [if_neg hmem]
    have hne : ∀ other ∈ keys, key ≠ id other := by
      rintro other hother rfl
      exact hmem hother
    exact SortedMap.get?_foldl_of_forall_ne hstep hne state

/-- What a classification leaves under a key is what its four passes make of the key's own entry. -/
theorem get?_run (round : Round) (skipped : List Scope) (correlation : Correlation)
    (base : SortedMap Key Candidate) (key : Key) :
    (run round skipped correlation base).candidates.get? key =
      round.passed key (correlation.sighting skipped key) (base.get? key) := by
  -- The last pass lists the keys that have an entry; at all others there is nothing to resolve.
  have hlisted : ∀ (state : Classification) (p : Key → Bool),
      (if key ∈ state.candidates.keys.filter p
        then (state.candidates.get? key).map (round.ended .vanished)
        else state.candidates.get? key) = round.vanished (p key) (state.candidates.get? key) := by
    intro state p
    rw [Round.vanished]
    cases hentry : state.candidates.get? key with
    | none => simp
    | some candidate =>
        have hmem : key ∈ state.candidates.keys := SortedMap.mem_keys_iff.2 ⟨candidate, hentry⟩
        simp [List.mem_filter, hmem]
  simp only [run]
  rw [get?_resolve_pass round .vanished ((SortedMap.nodup_keys _).filter _), hlisted,
    get?_resolve_pass round .matched (SortedMap.nodup_keys _), get?_pairs_pass, get?_evict]
  have hgone : isGone correlation skipped key =
      ((correlation.pairs.get? key).isNone && !correlation.excludedKeys.contains key
        && !skipped.contains key.scope) := by
    rw [isGone, SortedMap.contains, Option.not_isSome]
  rw [hgone, Round.passed, Round.settled, Correlation.sighting]
  by_cases hsettled : key ∈ correlation.settled.keys
  · rw [if_pos hsettled, if_pos (SortedMap.contains_eq_true_iff.2 hsettled)]
  · rw [if_neg hsettled, if_neg (fun h => hsettled (SortedMap.contains_eq_true_iff.1 h))]

/-- **Classification is pointwise.** After the four passes the entry of every key is the transition of its
own entry by its own sighting. -/
theorem get?_candidates_run_eq_next (round : Round) (skipped : List Scope) (correlation : Correlation)
    (base : SortedMap Key Candidate) (key : Key) :
    (run round skipped correlation base).candidates.get? key =
      round.next key (correlation.sighting skipped key) (base.get? key) := by
  rw [get?_run]
  generalize correlation.sighting skipped key = sighting
  obtain ⟨pair, isSettled, isExcluded, isSkipped⟩ := sighting
  have hkept : (base.get? key).filter (fun candidate =>
      !(candidate.state == .resolved && candidate.lastGeneration < round.generation)) =
        round.kept (base.get? key) := rfl
  simp only [Round.passed, Round.next, hkept]
  generalize round.kept (base.get? key) = entry
  cases pair with
  | none =>
      -- The last pass does not ask whether the key is settled, but then there is nothing left to end.
      have htwice : (entry.map (round.ended .matched)).map (round.ended .vanished) =
          entry.map (round.ended .matched) := by
        rw [Option.map_map]
        exact congrArg (entry.map ·) (funext fun c => Round.ended_ended round .matched .vanished c)
      cases isSettled <;> cases isExcluded <;> cases isSkipped <;>
        simp [Round.paired, Round.settled, Round.vanished, htwice]
  | some pair =>
      cases pair with
      | healthy cluster backend =>
          simp [Round.paired, Pair.orphan?, Round.settled, Round.vanished]
      | clusterOnly record =>
          simp [Round.paired, Pair.orphan?, Round.settled, Round.vanished]
      | backendOnly record =>
          simp [Round.paired, Pair.orphan?, Round.settled, Round.vanished, Round.withholds_iff]

/-- A scan over nine keys, each of which takes another case of the transition. -/
theorem get?_candidates_run_of_nine_keys :
    let round : Round := ⟨7, ⟨1000, 0⟩, ⟨2, Span.ofSeconds 500⟩, Span.ofSeconds 60⟩
    let record (kind : Kind) (rawKey : String) : Record :=
      { Record.named kind "new" with rawKey := some rawKey, sizeBytes := 9, createdAt := some ⟨990, 0⟩ }
    let bound : Record :=
      { Record.named .volumeClaim "ns/bound" with status := some "Bound" }.withAttribute .boundVolume "pv"
    let correlation : Correlation := .of
      [record .volume "shared", record .volume "left", record .volume "turned", bound,
        record .volume "twice", record .volume "twice"]
      [record .backendVolume "shared", record .backendVolume "fresh", record .backendSnapshot "young"]
    let old (key : Key) (side : OrphanSide) (kind : Kind) : Candidate :=
      ⟨key, side, kind, "old", 5, ⟨100, 0⟩, ⟨900, 0⟩, 1, .candidate, 6, none, none, none⟩
    let shared := old ⟨.volume, "shared"⟩ .backendOnly .backendVolume
    let left := old ⟨.volume, "left"⟩ .clusterOnly .volume
    let turned := old ⟨.volume, "turned"⟩ .backendOnly .backendVolume
    let settled := old ⟨.claim, "ns/bound"⟩ .clusterOnly .volumeClaim
    let twice := old ⟨.volume, "twice"⟩ .clusterOnly .volume
    let young := old ⟨.snapshot, "young"⟩ .backendOnly .backendSnapshot
    let gone := old ⟨.volume, "gone"⟩ .clusterOnly .volume
    let past : Candidate := { old ⟨.volume, "past"⟩ .clusterOnly .volume with
      state := .resolved, resolvedAt := some ⟨900, 0⟩, resolution := some .vanished }
    let entry (candidate : Candidate) := (candidate.key, candidate)
    let base := SortedMap.ofList ([shared, left, turned, settled, twice, young, gone, past].map entry)
    let next := (run round [] correlation base).candidates
    next.get? ⟨.volume, "shared"⟩ = some { shared with
        state := .resolved, resolution := some .matched, resolvedAt := some ⟨1000, 0⟩, lastGeneration := 7 }
      ∧ next.get? ⟨.volume, "left"⟩ = some { left with
        nativeId := "new", sizeBytes := 9, lastObservedAt := ⟨1000, 0⟩, observations := 2,
        lastGeneration := 7, state := .confirmed, confirmedAt := some ⟨1000, 0⟩ }
      ∧ next.get? ⟨.volume, "turned"⟩ = some
        ⟨⟨.volume, "turned"⟩, .clusterOnly, .volume, "new", 9, ⟨1000, 0⟩, ⟨1000, 0⟩, 1, .candidate, 7,
          none, none, none⟩
      ∧ next.get? ⟨.volume, "fresh"⟩ = some
        ⟨⟨.volume, "fresh"⟩, .backendOnly, .backendVolume, "new", 9, ⟨1000, 0⟩, ⟨1000, 0⟩, 1, .candidate, 7,
          none, none, none⟩
      ∧ next.get? ⟨.claim, "ns/bound"⟩ = some { settled with
        state := .resolved, resolution := some .matched, resolvedAt := some ⟨1000, 0⟩, lastGeneration := 7 }
      ∧ next.get? ⟨.volume, "gone"⟩ = some { gone with
        state := .resolved, resolution := some .vanished, resolvedAt := some ⟨1000, 0⟩, lastGeneration := 7 }
      ∧ next.get? ⟨.volume, "twice"⟩ = some twice
      ∧ next.get? ⟨.snapshot, "young"⟩ = some young
      ∧ next.get? ⟨.volume, "past"⟩ = none := by
  intro round record bound correlation old shared left turned settled twice young gone past entry base next
  have hnext : ∀ key, next.get? key = round.next key (correlation.sighting [] key) (base.get? key) :=
    get?_candidates_run_eq_next round [] correlation base
  simp only [hnext]
  clear hnext next
  decide +kernel +revert

end Classification

end OrphanWatch
