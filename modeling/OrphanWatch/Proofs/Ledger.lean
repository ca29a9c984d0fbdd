import OrphanWatch.Proofs.Classification

/-!
# What a scan notes, one key at a time

While the passes of a classification change the candidates, they note which ones they confirm and resolve.
Looked at under one key, the candidates and the notes form a ledger, and a step changes the ledger of its own
key alone. `Round.Books` says everything that a scan can book under a key.
-/

namespace OrphanWatch

/-- What a classification has under a key, and what it has noted there. -/
structure Ledger where
  entry : Option Candidate
  confirmed : List Candidate
  resolved : List Candidate

theorem Candidate.key_evaluate (candidate : Candidate) (now : Instant) (policy : Policy) :
    (candidate.evaluate now policy).1.key = candidate.key := by
  rw [evaluate]
  split <;> rfl

theorem Candidate.lastGeneration_evaluate (candidate : Candidate) (now : Instant) (policy : Policy) :
    (candidate.evaluate now policy).1.lastGeneration = candidate.lastGeneration := by
  rw [evaluate]
  split <;> rfl

theorem Candidate.key_observe (candidate : Candidate) (record : Record) (generation : Nat)
    (now : Instant) (policy : Policy) :
    (candidate.observe record generation now policy).1.key = candidate.key :=
  key_evaluate (candidate.recount record generation now) now policy

namespace Round

theorem key_ended (round : Round) (resolution : Resolution) (candidate : Candidate) :
    (round.ended resolution candidate).key = candidate.key := by
  rw [ended]
  split <;> rfl

theorem side_ended (round : Round) (resolution : Resolution) (candidate : Candidate) :
    (round.ended resolution candidate).side = candidate.side := by
  rw [ended]
  split <;> rfl

theorem key_followed {round : Round} {key : Key} {side : OrphanSide} {record : Record}
    {entry : Option Candidate} (hkey : ∀ candidate, entry = some candidate → candidate.key = key) :
    (round.followed key side record entry).key = key := by
  rw [followed_eq]
  split
  · next candidate hcontinuing =>
      rw [Candidate.key_observe]
      exact hkey candidate (Option.filter_eq_some_iff.1 hcontinuing).1
  · exact Candidate.key_evaluate ..

theorem lastGeneration_followed (round : Round) (key : Key) (side : OrphanSide) (record : Record)
    (entry : Option Candidate) :
    (round.followed key side record entry).lastGeneration = round.generation := by
  rw [followed_eq]
  split
  · exact Candidate.lastGeneration_evaluate ..
  · exact Candidate.lastGeneration_evaluate ..

theorem key_of_paired {round : Round} {key : Key} {pair : Option Pair} {entry : Option Candidate}
    (hkey : ∀ candidate, entry = some candidate → candidate.key = key) {after : Candidate}
    (hafter : round.paired key pair entry = some after) : after.key = key := by
  unfold paired at hafter
  split at hafter
  · exact hkey after hafter
  · split at hafter
    · obtain ⟨before, hbefore, rfl⟩ := Option.map_eq_some_iff.1 hafter
      rw [key_ended]
      exact hkey before hbefore
    · split at hafter
      · exact hkey after hafter
      · cases hafter
        exact key_followed hkey

end Round

namespace Ledger

def store (ledger : Ledger) (observed : Candidate × Transition) : Ledger where
  entry := some observed.1
  confirmed :=
    if observed.2 = .confirmed then ledger.confirmed ++ [observed.1] else ledger.confirmed
  resolved := ledger.resolved

def resolve (ledger : Ledger) (round : Round) (resolution : Resolution) : Ledger :=
  match ledger.entry with
  | none => ledger
  | some candidate =>
    if candidate.state = .resolved then ledger
    else
      { ledger with
        entry := some (round.ended resolution candidate)
        resolved := ledger.resolved ++ [round.ended resolution candidate] }

def follow (ledger : Ledger) (round : Round) (key : Key) (side : OrphanSide) (record : Record) :
    Ledger :=
  if side = .backendOnly ∧ round.withholds record = true then ledger
  else
    match ledger.entry.filter fun candidate => candidate.isActive && candidate.side == side with
    | some candidate =>
      ledger.store (candidate.observe record round.generation round.now round.policy)
    | none =>
      ledger.store
        ((Candidate.start key side record round.generation round.now).evaluate round.now round.policy)

def pair (ledger : Ledger) (round : Round) (key : Key) (pair : Pair) : Ledger :=
  match pair.orphan? with
  | none => ledger.resolve round .matched
  | some (side, record) => ledger.follow round key side record

def passed (ledger : Ledger) (round : Round) (key : Key) (sighting : Sighting) : Ledger :=
  let paired :=
    match sighting.pair with
    | none => ledger
    | some pair => ledger.pair round key pair
  let settled := if sighting.settled then paired.resolve round .matched else paired
  if sighting.pair.isNone && !sighting.excluded && !sighting.skipped then
    settled.resolve round .vanished
  else settled

theorem resolve_of_resolved {ledger : Ledger} {round : Round} {resolution : Resolution}
    (hresolved : ∀ candidate, ledger.entry = some candidate → candidate.state = .resolved) :
    ledger.resolve round resolution = ledger := by
  unfold resolve
  cases hentry : ledger.entry with
  | none => rfl
  | some candidate => exact if_pos (hresolved candidate hentry)

theorem resolve_resolve (ledger : Ledger) (round : Round) (first second : Resolution) :
    (ledger.resolve round first).resolve round second = ledger.resolve round first := by
  refine resolve_of_resolved fun candidate hcandidate => ?_
  unfold resolve at hcandidate
  split at hcandidate
  · next hnone =>
      rw [hnone] at hcandidate
      cases hcandidate
  · next before hentry =>
      split at hcandidate
      · next hstate =>
          rw [hentry] at hcandidate
          cases hcandidate
          exact hstate
      · cases hcandidate
        exact Round.state_ended round first before

end Ledger

namespace Classification

def IsKeyed (state : Classification) : Prop :=
  ∀ key candidate, state.candidates.get? key = some candidate → candidate.key = key

def ledger (state : Classification) (key : Key) : Ledger where
  entry := state.candidates.get? key
  confirmed := state.newConfirmed.filter (·.key == key)
  resolved := state.resolved.filter (·.key == key)

variable {round : Round} {state : Classification}

/-! ### Single steps -/

theorem ledger_store {key : Key} {observed : Candidate × Transition} (hkey : observed.1.key = key)
    (other : Key) :
    (state.store key observed).ledger other =
      if other = key then (state.ledger other).store observed else state.ledger other := by
  have hentry := get?_store state key other observed
  by_cases heq : other = key
  · subst heq
    rw [if_pos rfl] at hentry ⊢
    simp only [ledger, Ledger.store, hentry]
    by_cases hconfirmed : observed.2 = .confirmed
    · simp [store, hconfirmed, hkey]
    · simp [store, hconfirmed]
  · rw [if_neg heq] at hentry ⊢
    have hne : observed.1.key ≠ other := fun hsame => heq (hsame.symm.trans hkey)
    simp only [ledger, hentry]
    by_cases hconfirmed : observed.2 = .confirmed
    · simp [store, hconfirmed, hne]
    · simp [store, hconfirmed]

theorem resolveAt_of_resolved {resolution : Resolution} {key : Key}
    (hresolved : ∀ candidate, state.candidates.get? key = some candidate → candidate.state = .resolved) :
    state.resolveAt round resolution key = state := by
  unfold resolveAt
  cases hentry : state.candidates.get? key with
  | none => rfl
  | some candidate => simp only [Candidate.resolve, if_pos (hresolved candidate hentry)]

/-- Resolving the candidate of one key leaves the ledgers of all others alone. -/
theorem ledger_resolveAt (hkeyed : state.IsKeyed) (resolution : Resolution) (key other : Key) :
    (state.resolveAt round resolution key).ledger other =
      if other = key then (state.ledger other).resolve round resolution else state.ledger other := by
  -- A candidate that is resolved already is not noted again.
  by_cases hdone : ∀ candidate, state.candidates.get? key = some candidate → candidate.state = .resolved
  · rw [resolveAt_of_resolved hdone]
    by_cases heq : other = key
    · subst heq
      rw [if_pos rfl]
      exact (Ledger.resolve_of_resolved hdone).symm
    · rw [if_neg heq]
  · obtain ⟨candidate, hfound, hstate⟩ : ∃ candidate, state.candidates.get? key = some candidate
        ∧ candidate.state ≠ .resolved := by
      simpa only [Classical.not_forall, exists_prop] using hdone
    have hnext : state.resolveAt round resolution key =
        { state with
          candidates := state.candidates.insert key (round.ended resolution candidate)
          resolved := state.resolved ++ [round.ended resolution candidate] } := by
      simp only [resolveAt, hfound, Round.ended, Candidate.resolve, if_neg hstate]
    have hkey : (round.ended resolution candidate).key = key := by
      rw [Round.key_ended]
      exact hkeyed key candidate hfound
    have hentry := get?_resolveAt round resolution state key other
    rw [hnext] at hentry ⊢
    by_cases heq : other = key
    · subst heq
      rw [if_pos rfl] at hentry ⊢
      simp only [ledger, Ledger.resolve, hentry, hfound, if_neg hstate, Option.map_some]
      simp [hkey]
    · rw [if_neg heq] at hentry ⊢
      have hne : (round.ended resolution candidate).key ≠ other :=
        fun hsame => heq (hsame.symm.trans hkey)
      simp only [ledger, hentry]
      simp [hne]

theorem ledger_followOrphan (hkeyed : state.IsKeyed) (key : Key) (side : OrphanSide) (record : Record)
    (other : Key) :
    (state.followOrphan round key side record).ledger other =
      if other = key then (state.ledger other).follow round key side record
      else state.ledger other := by
  unfold followOrphan
  by_cases hwithheld : side = .backendOnly ∧ round.withholds record = true
  · rw [if_pos hwithheld, Ledger.follow, if_pos hwithheld, ite_self]
    rfl
  · rw [if_neg hwithheld, Ledger.follow, if_neg hwithheld]
    have hcontinuing : state.continuing? key side =
        (state.ledger key).entry.filter fun candidate => candidate.isActive && candidate.side == side :=
      rfl
    cases hfound : state.continuing? key side with
    | some candidate =>
        obtain ⟨hentry, -⟩ := Option.filter_eq_some_iff.1 hfound
        have hkey : (candidate.observe record round.generation round.now round.policy).1.key = key := by
          rw [Candidate.key_observe]
          exact hkeyed key candidate hentry
        simp only
        rw [ledger_store hkey]
        by_cases heq : other = key
        · subst heq
          rw [← hcontinuing, hfound]
        · rw [if_neg heq, if_neg heq]
    | none =>
        have hkey : ((Candidate.start key side record round.generation round.now).evaluate round.now
            round.policy).1.key = key := Candidate.key_evaluate ..
        have hstored : (state.store key ((Candidate.start key side record round.generation
            round.now).evaluate round.now round.policy)).ledger other = _ := ledger_store hkey other
        by_cases heq : other = key
        · subst heq
          rw [if_pos rfl] at hstored ⊢
          rw [← hcontinuing, hfound]
          exact hstored
        · rw [if_neg heq] at hstored ⊢
          exact hstored

theorem ledger_applyPair (hkeyed : state.IsKeyed) (entry : Key × Pair) (other : Key) :
    (state.applyPair round entry).ledger other =
      if other = entry.1 then (state.ledger other).pair round entry.1 entry.2
      else state.ledger other := by
  rw [applyPair, Ledger.pair]
  cases entry.2.orphan? with
  | none => exact ledger_resolveAt hkeyed .matched entry.1 other
  | some orphan => exact ledger_followOrphan hkeyed entry.1 orphan.1 orphan.2 other

theorem IsKeyed.resolveAt (hkeyed : state.IsKeyed) (round : Round) (resolution : Resolution) (key : Key) :
    (state.resolveAt round resolution key).IsKeyed := by
  intro other candidate hentry
  rw [get?_resolveAt] at hentry
  by_cases heq : other = key
  · rw [if_pos heq] at hentry
    obtain ⟨before, hbefore, rfl⟩ := Option.map_eq_some_iff.1 hentry
    rw [Round.key_ended]
    exact hkeyed other before hbefore
  · rw [if_neg heq] at hentry
    exact hkeyed other candidate hentry

theorem IsKeyed.applyPair (hkeyed : state.IsKeyed) (round : Round) (entry : Key × Pair) :
    (state.applyPair round entry).IsKeyed := by
  intro other candidate hentry
  rw [get?_applyPair] at hentry
  by_cases heq : other = entry.1
  · subst heq
    rw [if_pos rfl] at hentry
    exact Round.key_of_paired (hkeyed entry.1) hentry
  · rw [if_neg heq] at hentry
    exact hkeyed other candidate hentry

/-! ### Whole passes -/

theorem IsKeyed.foldl {ι : Type} {step : Classification → ι → Classification}
    (hstep : ∀ state item, IsKeyed state → IsKeyed (step state item)) (hkeyed : state.IsKeyed)
    (items : List ι) : (items.foldl step state).IsKeyed := by
  induction items generalizing state with
  | nil => exact hkeyed
  | cons head rest ih => exact ih (hstep state head hkeyed)

theorem ledger_pairs_pass (hkeyed : state.IsKeyed) (round : Round) (pairs : SortedMap Key Pair)
    (key : Key) :
    (pairs.toList.foldl (applyPair round) state).ledger key =
      match pairs.get? key with
      | none => state.ledger key
      | some pair => (state.ledger key).pair round key pair := by
  let book : Key × Pair → Ledger → Ledger := fun entry ledger => ledger.pair round entry.1 entry.2
  have hkeep : ∀ (state : Classification) (entry : Key × Pair), state.IsKeyed →
      (state.applyPair round entry).IsKeyed := fun state entry hstate => hstate.applyPair round entry
  have hstep : ∀ (state : Classification) (entry : Key × Pair) (other : Key), state.IsKeyed →
      (state.applyPair round entry).ledger other =
        if other = entry.1 then book entry (state.ledger other) else state.ledger other :=
    fun state entry other hstate => ledger_applyPair hstate entry other
  cases hpair : pairs.get? key with
  | none =>
      have hne : ∀ entry ∈ pairs.toList, key ≠ entry.1 := by
        rintro ⟨other, pair⟩ hentry rfl
        rw [← SortedMap.get?_eq_some_iff, hpair] at hentry
        cases hentry
      exact SortedMap.look_foldl_of_forall_ne hkeep hstep hne state hkeyed
  | some pair =>
      have hentry : (key, pair) ∈ pairs.toList := SortedMap.get?_eq_some_iff.1 hpair
      exact SortedMap.look_foldl_of_mem hkeep hstep pairs.nodup_keys hentry state hkeyed

theorem ledger_resolve_pass (hkeyed : state.IsKeyed) (round : Round) (resolution : Resolution)
    {keys : List Key} (hnodup : keys.Nodup) (key : Key) :
    (keys.foldl (resolveAt round resolution) state).ledger key =
      if key ∈ keys then (state.ledger key).resolve round resolution else state.ledger key := by
  let book : Key → Ledger → Ledger := fun _ ledger => ledger.resolve round resolution
  have hkeep : ∀ (state : Classification) (key : Key), state.IsKeyed →
      (state.resolveAt round resolution key).IsKeyed :=
    fun state key hstate => hstate.resolveAt round resolution key
  have hstep : ∀ (state : Classification) (key other : Key), state.IsKeyed →
      (state.resolveAt round resolution key).ledger other =
        if other = id key then book key (state.ledger other) else state.ledger other :=
    fun state key other hstate => ledger_resolveAt hstate resolution key other
  by_cases hmem : key ∈ keys
  · rw [if_pos hmem]
    have hnodup' : (keys.map id).Nodup := by rwa [List.map_id]
    exact SortedMap.look_foldl_of_mem hkeep hstep hnodup' hmem state hkeyed
  · rw [if_neg hmem]
    have hne : ∀ other ∈ keys, key ≠ id other := by
      rintro other hother rfl
      exact hmem hother
    exact SortedMap.look_foldl_of_forall_ne hkeep hstep hne state hkeyed

/-- The ledger of a key after a classification is what the passes make of the key's own entry. -/
theorem ledger_run (round : Round) (skipped : List Scope) (correlation : Correlation)
    {base : SortedMap Key Candidate}
    (hkeyed : ∀ key candidate, base.get? key = some candidate → candidate.key = key) (key : Key) :
    (run round skipped correlation base).ledger key =
      (⟨round.kept (base.get? key), [], []⟩ : Ledger).passed round key
        (correlation.sighting skipped key) := by
  have hevicted : (evict round base).IsKeyed := by
    intro other candidate hentry
    rw [get?_evict] at hentry
    exact hkeyed other candidate (Option.filter_eq_some_iff.1 hentry).1
  have hledger : (evict round base).ledger key = ⟨round.kept (base.get? key), [], []⟩ := by
    rw [ledger, get?_evict]
    rfl
  have hpaired := hevicted.foldl (fun _ entry hstate => hstate.applyPair round entry)
    correlation.pairs.toList
  have hsettled := hpaired.foldl (fun _ key hstate => hstate.resolveAt round .matched key)
    correlation.settled.keys
  -- Of the keys that are gone, the last pass lists those with an entry; the others have nothing to resolve.
  have hlisted : ∀ (state : Classification) (p : Key → Bool),
      (if key ∈ state.candidates.keys.filter p then (state.ledger key).resolve round .vanished
        else state.ledger key) =
        if p key = true then (state.ledger key).resolve round .vanished else state.ledger key := by
    intro state p
    cases hentry : state.candidates.get? key with
    | none =>
        have hnone : (state.ledger key).resolve round .vanished = state.ledger key :=
          Ledger.resolve_of_resolved fun candidate hcandidate => by
            rw [ledger, hentry] at hcandidate
            cases hcandidate
        rw [hnone, ite_self, ite_self]
    | some candidate =>
        have hmem : key ∈ state.candidates.keys := SortedMap.mem_keys_iff.2 ⟨candidate, hentry⟩
        simp [List.mem_filter, hmem]
  have hgone : isGone correlation skipped key =
      ((correlation.pairs.get? key).isNone && !correlation.excludedKeys.contains key
        && !skipped.contains key.scope) := by
    rw [isGone, SortedMap.contains, Option.not_isSome]
  simp only [run]
  rw [ledger_resolve_pass hsettled round .vanished ((SortedMap.nodup_keys _).filter _), hlisted,
    ledger_resolve_pass hpaired round .matched (SortedMap.nodup_keys _),
    ledger_pairs_pass hevicted, hledger, hgone, Ledger.passed, Correlation.sighting]
  by_cases hmem : key ∈ correlation.settled.keys
  · rw [if_pos hmem, if_pos (SortedMap.contains_eq_true_iff.2 hmem)]
  · rw [if_neg hmem, if_neg (fun h => hmem (SortedMap.contains_eq_true_iff.1 h))]

end Classification

def Candidate.isConfirmedAfter (candidate : Candidate) (before : Option Candidate) : Bool :=
  candidate.isConfirmed
    && before.all fun earlier => !earlier.isConfirmed || earlier.side != candidate.side

/-- Everything that a scan can book under a key, given the record that one side alone holds there and the
active candidate. -/
inductive Round.Books (round : Round) (orphan : Option (OrphanSide × Record))
    (before : Option Candidate) : Ledger → Prop
  | kept (hleft : ∀ side record, orphan = some (side, record) →
        side = .backendOnly ∧ round.withholds record = true) :
      Books round orphan before ⟨before, [], []⟩
  | ended (candidate ended : Candidate) (hnone : orphan = none) (hbefore : before = some candidate)
      (hside : ended.side = candidate.side) (hended : ended.state = .resolved) :
      Books round orphan before ⟨some ended, [], [ended]⟩
  | followed (side : OrphanSide) (record : Record) (after : Candidate)
      (horphan : orphan = some (side, record))
      (hfollowed : ¬ (side = .backendOnly ∧ round.withholds record = true))
      (hside : after.side = side) (hactive : after.isActive = true)
      (hgeneration : after.lastGeneration = round.generation) :
      Books round orphan before
        ⟨some after, if after.isConfirmedAfter before = true then [after] else [], []⟩

/-- What an evaluation books under a key that had no notes. -/
theorem Ledger.store_evaluate (candidate : Candidate) (hactive : candidate.isActive = true)
    (before : Option Candidate) (now : Instant) (policy : Policy) :
    ∃ after, (⟨before, [], []⟩ : Ledger).store (candidate.evaluate now policy) =
        ⟨some after, if (after.isConfirmed && !candidate.isConfirmed) = true then [after] else [], []⟩
      ∧ after.side = candidate.side ∧ after.isActive = true
      ∧ after.lastGeneration = candidate.lastGeneration := by
  unfold Candidate.evaluate
  split
  · next hmet =>
      refine ⟨{ candidate with state := .confirmed, confirmedAt := some now }, ?_, rfl, rfl, rfl⟩
      simp [store, Candidate.isConfirmed, hmet.1]
  · refine ⟨candidate, ?_, rfl, hactive, rfl⟩
    simp [store]

namespace Round

variable {round : Round} {orphan : Option (OrphanSide × Record)} {before : Option Candidate}

theorem books_resolve (hactive : ∀ candidate, before = some candidate → candidate.isActive = true)
    (hnone : orphan = none) (resolution : Resolution) :
    round.Books orphan before ((⟨before, [], []⟩ : Ledger).resolve round resolution) := by
  cases before with
  | none =>
      refine .kept fun side record horphan => ?_
      rw [hnone] at horphan
      cases horphan
  | some candidate =>
      have hstate : candidate.state ≠ .resolved := by
        have hcandidate := hactive candidate rfl
        rwa [Candidate.isActive, bne_iff_ne] at hcandidate
      rw [Ledger.resolve]
      simp only [if_neg hstate]
      exact .ended candidate _ hnone rfl (side_ended round resolution candidate)
        (state_ended round resolution candidate)

theorem books_follow (hactive : ∀ candidate, before = some candidate → candidate.isActive = true)
    (key : Key) {side : OrphanSide} {record : Record} (horphan : orphan = some (side, record)) :
    round.Books orphan before ((⟨before, [], []⟩ : Ledger).follow round key side record) := by
  unfold Ledger.follow
  by_cases hwithheld : side = .backendOnly ∧ round.withholds record = true
  · rw [if_pos hwithheld]
    refine .kept fun other found hfound => ?_
    rw [horphan] at hfound
    cases hfound
    exact hwithheld
  · rw [if_neg hwithheld]
    cases hcontinuing : before.filter fun candidate => candidate.isActive && candidate.side == side with
    | some candidate =>
        obtain ⟨hbefore, hsame⟩ := Option.filter_eq_some_iff.1 hcontinuing
        rw [Bool.and_eq_true, beq_iff_eq] at hsame
        obtain ⟨after, hstored, hside, hafter, hgeneration⟩ :=
          Ledger.store_evaluate (candidate.recount record round.generation round.now) hsame.1 before
            round.now round.policy
        have hside' : after.side = candidate.side := hside
        have hconfirmed : after.isConfirmedAfter before =
            (after.isConfirmed
              && !(candidate.recount record round.generation round.now).isConfirmed) := by
          simp [Candidate.isConfirmedAfter, hbefore, hside', Candidate.isConfirmed, Candidate.recount]
        simp only [Candidate.observe]
        rw [hstored, ← hconfirmed]
        exact .followed side record after horphan hwithheld (hside'.trans hsame.2) hafter hgeneration
    | none =>
        -- What is there is on the other side, and it does not matter whether it was confirmed.
        have hother : ∀ candidate, before = some candidate → candidate.side ≠ side := by
          intro candidate hbefore hside
          rw [hbefore, Option.filter_eq_none_iff] at hcontinuing
          have hdiffers := hcontinuing candidate rfl
          rw [Bool.and_eq_true, beq_iff_eq] at hdiffers
          exact hdiffers ⟨hactive candidate hbefore, hside⟩
        obtain ⟨after, hstored, hside, hafter, hgeneration⟩ :=
          Ledger.store_evaluate (Candidate.start key side record round.generation round.now) rfl before
            round.now round.policy
        have hconfirmed : after.isConfirmedAfter before = (after.isConfirmed
            && !(Candidate.start key side record round.generation round.now).isConfirmed) := by
          have hside' : after.side = side := hside
          have hstart : (Candidate.start key side record round.generation round.now).isConfirmed = false :=
            rfl
          rw [hstart, Candidate.isConfirmedAfter]
          cases before with
          | none => rfl
          | some candidate =>
              have hne : (candidate.side != after.side) = true := by
                rw [hside', bne_iff_ne]
                exact hother candidate rfl
              rw [Option.all_some, hne, Bool.or_true]
              rfl
        simp only
        rw [hstored, ← hconfirmed]
        exact .followed side record after horphan hwithheld hside hafter hgeneration

/-- A key that is both settled and paired would have its candidate followed first and resolved then. -/
theorem books_passed (hactive : ∀ candidate, before = some candidate → candidate.isActive = true)
    (key : Key) {sighting : Sighting} (happart : sighting.settled = true → sighting.pair = none) :
    round.Books (sighting.pair.bind Pair.orphan?) before
      ((⟨before, [], []⟩ : Ledger).passed round key sighting) := by
  obtain ⟨pair, isSettled, isExcluded, isSkipped⟩ := sighting
  cases pair with
  | none =>
      have hnone : (none : Option Pair).bind Pair.orphan? = none := rfl
      cases isSettled with
      | true =>
          simp only [Ledger.passed, if_true]
          rw [Ledger.resolve_resolve, ite_self]
          exact books_resolve hactive hnone .matched
      | false =>
          simp only [Ledger.passed, Bool.false_eq_true, if_false]
          split
          · exact books_resolve hactive hnone .vanished
          · exact .kept fun side record horphan => by cases horphan
  | some pair =>
      have hunsettled : isSettled = false := by
        cases isSettled with
        | false => rfl
        | true => cases happart rfl
      subst hunsettled
      simp only [Ledger.passed, Option.isNone_some, Bool.false_and, Bool.false_eq_true, if_false,
        Option.bind_some, Ledger.pair]
      cases horphan : pair.orphan? with
      | none => exact books_resolve hactive rfl .matched
      | some orphan => exact books_follow hactive key rfl

end Round

/-! ### What is counted -/

namespace Round

def isWithheld (round : Round) (pair : Pair) : Bool :=
  pair.orphan?.any fun orphan => orphan.1 == .backendOnly && round.withholds orphan.2

def continues (round : Round) (pair : Pair) (entry : Option Candidate) : Bool :=
  !round.isWithheld pair && pair.orphan?.any fun orphan =>
    (entry.filter fun candidate => candidate.isActive && candidate.side == orphan.1).isSome

def starts (round : Round) (pair : Pair) (entry : Option Candidate) : Bool :=
  !round.isWithheld pair && pair.orphan?.any fun orphan =>
    (entry.filter fun candidate => candidate.isActive && candidate.side == orphan.1).isNone

/-- A pair is healthy, or withheld, or goes on with a candidate, or starts one. -/
theorem sorts_of_pair (round : Round) (pair : Pair) (entry : Option Candidate) :
    pair.isHealthy.toNat + (round.starts pair entry).toNat + (round.isWithheld pair).toNat
      + (round.continues pair entry).toNat = 1 := by
  have hwithheld : pair.isHealthy = true → round.isWithheld pair = false := by
    intro hhealthy
    rw [isWithheld, Pair.orphan?_eq_none_iff.2 hhealthy]
    rfl
  rw [starts, continues]
  cases horphan : pair.orphan? with
  | none =>
      have hhealthy := Pair.orphan?_eq_none_iff.1 horphan
      simp [hhealthy, hwithheld hhealthy]
  | some orphan =>
      have hsick : pair.isHealthy = false := by
        rw [Bool.eq_false_iff, Ne, ← Pair.orphan?_eq_none_iff, horphan]
        exact Option.some_ne_none orphan
      rw [hsick, Option.any_some, Option.any_some]
      cases round.isWithheld pair <;>
        cases entry.filter fun candidate => candidate.isActive && candidate.side == orphan.1 <;> rfl

end Round

namespace Classification

variable (round : Round) (state : Classification)

theorem exists_resolveAt_eq (resolution : Resolution) (key : Key) :
    ∃ candidates resolved,
      state.resolveAt round resolution key = { state with candidates, resolved } := by
  unfold resolveAt
  cases state.candidates.get? key with
  | none => exact ⟨_, _, rfl⟩
  | some candidate =>
      simp only [Candidate.resolve]
      split
      · next hended =>
          split at hended
          · cases hended
          · exact ⟨_, _, rfl⟩
      · exact ⟨_, _, rfl⟩

theorem exists_resolve_pass_eq (resolution : Resolution) (keys : List Key) :
    ∃ candidates resolved,
      keys.foldl (resolveAt round resolution) state = { state with candidates, resolved } := by
  induction keys generalizing state with
  | nil => exact ⟨_, _, rfl⟩
  | cons key rest ih =>
      obtain ⟨candidates, resolved, hstep⟩ := exists_resolveAt_eq round state resolution key
      obtain ⟨candidates', resolved', hrest⟩ := ih (state.resolveAt round resolution key)
      refine ⟨candidates', resolved', ?_⟩
      rw [List.foldl_cons, hrest, hstep]

theorem counts_followOrphan (key : Key) {pair : Pair} {side : OrphanSide} {record : Record}
    (horphan : pair.orphan? = some (side, record)) :
    (state.followOrphan round key side record).newCandidates = state.newCandidates
        + (if round.starts pair (state.candidates.get? key) = true then 1 else 0)
      ∧ (state.followOrphan round key side record).withinRetention = state.withinRetention
        + (if round.isWithheld pair = true then 1 else 0)
      ∧ (state.followOrphan round key side record).evicted = state.evicted := by
  unfold followOrphan
  by_cases hwithheld : side = .backendOnly ∧ round.withholds record = true
  · have hpair : round.isWithheld pair = true := by simp [Round.isWithheld, horphan, hwithheld]
    have hstarts : round.starts pair (state.candidates.get? key) = false := by
      simp [Round.starts, hpair]
    rw [if_pos hwithheld, hpair, hstarts]
    exact ⟨rfl, rfl, rfl⟩
  · have hpair : round.isWithheld pair = false := by
      rw [Round.isWithheld, horphan, Option.any_some, Bool.eq_false_iff, Ne, Bool.and_eq_true,
        beq_iff_eq]
      exact hwithheld
    have hstarts : round.starts pair (state.candidates.get? key) =
        (state.continuing? key side).isNone := by
      rw [Round.starts, hpair, horphan, Option.any_some, Bool.not_false, Bool.true_and]
      rfl
    rw [if_neg hwithheld, hpair, hstarts]
    cases state.continuing? key side with
    | some candidate => exact ⟨rfl, rfl, rfl⟩
    | none => exact ⟨rfl, rfl, rfl⟩

theorem counts_applyPair (entry : Key × Pair) :
    (state.applyPair round entry).newCandidates = state.newCandidates
        + (if round.starts entry.2 (state.candidates.get? entry.1) = true then 1 else 0)
      ∧ (state.applyPair round entry).withinRetention = state.withinRetention
        + (if round.isWithheld entry.2 = true then 1 else 0)
      ∧ (state.applyPair round entry).evicted = state.evicted := by
  cases horphan : entry.2.orphan? with
  | none =>
      have hpair : round.isWithheld entry.2 = false := by rw [Round.isWithheld, horphan]; rfl
      have hstarts : round.starts entry.2 (state.candidates.get? entry.1) = false := by
        rw [Round.starts, horphan, Option.any_none, Bool.and_false]
      obtain ⟨candidates, resolved, hresolved⟩ := exists_resolveAt_eq round state .matched entry.1
      have happly : state.applyPair round entry = { state with candidates, resolved } := by
        simp only [applyPair, horphan]
        exact hresolved
      rw [hpair, hstarts, happly]
      exact ⟨rfl, rfl, rfl⟩
  | some orphan =>
      have happly : state.applyPair round entry =
          state.followOrphan round entry.1 orphan.1 orphan.2 := by
        simp only [applyPair, horphan]
      rw [happly]
      exact counts_followOrphan round state entry.1 horphan

/-- What a classification counts can be told from the pairs and from the candidates before. -/
theorem counts_run (skipped : List Scope) (correlation : Correlation)
    (base : SortedMap Key Candidate) :
    ((run round skipped correlation base).newCandidates = correlation.pairs.toList.countP fun entry =>
        round.starts entry.2 (round.kept (base.get? entry.1)))
      ∧ ((run round skipped correlation base).withinRetention =
        correlation.pairs.toList.countP fun entry => round.isWithheld entry.2)
      ∧ (run round skipped correlation base).evicted =
        base.toList.countP fun entry => entry.2.isExpired round.generation := by
  let view : Classification → Key → Option Candidate := fun state => state.candidates.get?
  let book : Key × Pair → Option Candidate → Option Candidate :=
    fun entry => round.paired entry.1 (some entry.2)
  have hview : ∀ state entry key, True → view (applyPair round state entry) key =
      if key = entry.1 then book entry (view state key) else view state key :=
    fun state entry key _ => get?_applyPair round state entry key
  let paired := correlation.pairs.toList.foldl (applyPair round) (evict round base)
  have hnew : paired.newCandidates = 0 + correlation.pairs.toList.countP fun entry =>
      round.starts entry.2 (view (evict round base) entry.1) :=
    SortedMap.count_foldl (p := fun _ => True) (q := fun entry candidate => round.starts entry.2 candidate)
      (fun _ _ _ => trivial) hview (fun state entry => (counts_applyPair round state entry).1)
      correlation.pairs.nodup_keys (evict round base) trivial
  have hwithin : paired.withinRetention = 0 + correlation.pairs.toList.countP fun entry =>
      round.isWithheld entry.2 :=
    SortedMap.count_foldl (p := fun _ => True) (q := fun entry _ => round.isWithheld entry.2)
      (fun _ _ _ => trivial) hview (fun state entry => (counts_applyPair round state entry).2.1)
      correlation.pairs.nodup_keys (evict round base) trivial
  have hevicted : paired.evicted = (evict round base).evicted := by
    refine List.foldlRecOn (motive := fun state : Classification =>
      state.evicted = (evict round base).evicted) _ _ rfl fun state hstate entry _ => ?_
    rw [(counts_applyPair round state entry).2.2, hstate]
  -- The two passes that only resolve leave the counters alone.
  obtain ⟨candidates, resolved, hsettled⟩ :=
    exists_resolve_pass_eq round paired .matched correlation.settled.keys
  obtain ⟨candidates', resolved', hrun⟩ := exists_resolve_pass_eq round
    { paired with candidates, resolved } .vanished
    (candidates.keys.filter (isGone correlation skipped))
  have hsame : run round skipped correlation base =
      { paired with candidates := candidates', resolved := resolved' } := by
    simp only [run]
    simp only [paired] at hsettled hrun
    rw [hsettled, hrun]
  rw [hsame]
  refine ⟨?_, ?_, ?_⟩
  · simp only [hnew, Nat.zero_add, view, get?_evict]
  · simp only [hwithin, Nat.zero_add]
  · have hsplit := List.length_eq_countP_add_countP (l := base.toList)
      (p := fun entry => !entry.2.isExpired round.generation)
    simp only [hevicted, evict, SortedMap.size, SortedMap.filter, ← List.countP_eq_length_filter]
    simp only [Bool.not_eq_true, Bool.not_eq_false', Bool.decide_eq_true] at hsplit
    omega

end Classification

end OrphanWatch
