import OrphanWatch.Proofs.Accounting
import OrphanWatch.Proofs.Ledger
import OrphanWatch.Proofs.Scan

/-!
# Scopes that cannot be listed

A kind that one side cannot list freezes the scope of the kind, on both sides, and nothing else
(`Engine.unlisted_kinds_freeze_their_scopes`). Nothing of the scope is correlated, so of its candidates only
the expired ones are touched. A key of any other scope is sighted as if every kind had been listed, because
the records of a key are all in the scope of the key.
-/

namespace OrphanWatch

/-- Some side cannot list a kind of the scope. -/
def IsFrozen (cluster backend : Inventory) (scope : Scope) : Prop :=
  ∃ kind ∈ cluster.unlisted ++ backend.unlisted, kind.scope = scope

instance (cluster backend : Inventory) : DecidablePred (IsFrozen cluster backend) := fun scope =>
  inferInstanceAs (Decidable (∃ kind ∈ cluster.unlisted ++ backend.unlisted, kind.scope = scope))

def Inventory.recordsOutside (inventory : Inventory) (frozen : Scope → Prop) [DecidablePred frozen] :
    List Record :=
  inventory.records.filter fun record => ¬ frozen record.kind.scope

def Snapshot.outside (snapshot : Snapshot) (frozen : Scope → Prop) [DecidablePred frozen] : Snapshot :=
  { snapshot with candidates := snapshot.candidates.filter fun key _ => ¬ frozen key.scope }

structure Correlation.Avoids (correlation : Correlation) (frozen : Scope → Prop) : Prop where
  pairs : ∀ key ∈ correlation.pairs.keys, ¬ frozen key.scope
  collisions : ∀ collision ∈ correlation.collisions, ¬ frozen collision.key.scope
  settled : ∀ key ∈ correlation.settled.keys, ¬ frozen key.scope
  unmatchable : ∀ kind ∈ correlation.unmatchable.keys, ¬ frozen kind.scope
  uncorrelated : ∀ kind ∈ correlation.uncorrelated.keys, ¬ frozen kind.scope

/-- The skipped scopes are those of which some side cannot list a kind. -/
theorem mem_skippedScopes_iff {cluster backend : Inventory} {scope : Scope} :
    scope ∈ skippedScopes cluster backend ↔ IsFrozen cluster backend scope := by
  have hall : scope ∈ Scope.all := by cases scope <;> decide
  rw [skippedScopes, List.mem_filter, List.any_eq_true]
  simp only [hall, true_and, beq_iff_eq]
  rfl

theorem Inventory.observed_eq_recordsOutside (inventory cluster backend : Inventory) :
    inventory.observed (skippedScopes cluster backend) =
      inventory.recordsOutside (IsFrozen cluster backend) := by
  apply List.filter_congr
  intro record _
  rw [List.contains_eq_mem, ← decide_not, decide_eq_decide, mem_skippedScopes_iff]

/-! ### Records of one scope -/

def listedIn (cluster backend : List Record) (side : Side) (scope : Scope) : List Record :=
  (listed cluster backend side).filter fun record => record.kind.scope == scope

section Sighting

variable {cluster backend cluster' backend' : List Record} {key : Key}

theorem eligible_eq_filter_listedIn (side : Side) :
    eligible cluster backend side key =
      (listedIn cluster backend side key.scope).filter fun record => record.IsEligible side key := by
  rw [eligible, listedIn, List.filter_filter]
  apply List.filter_congr
  intro record _
  by_cases heligible : record.IsEligible side key
  · have hscope : record.kind.scope = key.scope := (Key.isNormal_of_ofRecord? heligible.2.1).2.symm
    simp [heligible, hscope]
  · simp [heligible]

theorem mem_keys_settled_iff_listedIn :
    key ∈ (Correlation.of cluster backend).settled.keys ↔
      ∃ side, ∃ record ∈ listedIn cluster backend side key.scope, record.IsSettled side key := by
  rw [Correlation.mem_keys_settled_iff]
  apply exists_congr
  intro side
  constructor
  · rintro ⟨record, hlisted, hsettled⟩
    have hscope : record.kind.scope = key.scope := (Key.isNormal_of_ofRecord? hsettled.2.1).2.symm
    exact ⟨record, List.mem_filter.2 ⟨hlisted, beq_iff_eq.2 hscope⟩, hsettled⟩
  · rintro ⟨record, hlisted, hsettled⟩
    exact ⟨record, (List.mem_filter.1 hlisted).1, hsettled⟩

/-- A key is sighted alike in two pairs of inventories with the same records in its scope. -/
theorem sighting_congr {skipped skipped' : List Scope}
    (hrecords : ∀ side, listedIn cluster backend side key.scope = listedIn cluster' backend' side key.scope)
    (hskipped : key.scope ∈ skipped ↔ key.scope ∈ skipped') :
    (Correlation.of cluster backend).sighting skipped key =
      (Correlation.of cluster' backend').sighting skipped' key := by
  have heligible : ∀ side, eligible cluster backend side key = eligible cluster' backend' side key := by
    intro side
    rw [eligible_eq_filter_listedIn, eligible_eq_filter_listedIn, hrecords]
  have hpair : (Correlation.of cluster backend).pairs.get? key =
      (Correlation.of cluster' backend').pairs.get? key := by
    apply Option.ext
    intro pair
    rw [Correlation.get?_pairs_eq_some_iff, Correlation.get?_pairs_eq_some_iff, heligible, heligible]
  have hsettled : (Correlation.of cluster backend).settled.contains key =
      (Correlation.of cluster' backend').settled.contains key := by
    rw [Bool.eq_iff_iff, SortedMap.contains_eq_true_iff, SortedMap.contains_eq_true_iff,
      mem_keys_settled_iff_listedIn, mem_keys_settled_iff_listedIn]
    simp only [hrecords]
  have hexcluded : (Correlation.of cluster backend).excludedKeys.contains key =
      (Correlation.of cluster' backend').excludedKeys.contains key := by
    rw [Bool.eq_iff_iff, SortedMap.contains_eq_true_iff, SortedMap.contains_eq_true_iff,
      Correlation.mem_excludedKeys_iff, Correlation.mem_excludedKeys_iff]
    simp only [heligible]
  rw [Correlation.sighting, Correlation.sighting, hpair, hsettled, hexcluded, List.contains_eq_mem,
    List.contains_eq_mem, decide_eq_decide.2 hskipped]

theorem exists_mem_of_countListed_ne_zero {p : Side → Record → Bool}
    (hcount : countListed cluster backend p ≠ 0) :
    ∃ side, ∃ record ∈ listed cluster backend side, p side record = true := by
  by_cases hcluster : cluster.countP (p .cluster) = 0
  · have hbackend : backend.countP (p .backend) ≠ 0 := by
      rw [countListed] at hcount
      omega
    obtain ⟨record, hrecord⟩ := List.countP_pos_iff.1 (Nat.pos_of_ne_zero hbackend)
    exact ⟨.backend, record, hrecord⟩
  · obtain ⟨record, hrecord⟩ := List.countP_pos_iff.1 (Nat.pos_of_ne_zero hcluster)
    exact ⟨.cluster, record, hrecord⟩

/-- What is correlated has the scope of a record. -/
theorem avoids_of {frozen : Scope → Prop}
    (hrecords : ∀ side, ∀ record ∈ listed cluster backend side, ¬ frozen record.kind.scope) :
    (Correlation.of cluster backend).Avoids frozen := by
  have heligible : ∀ side {key}, eligible cluster backend side key ≠ [] → ¬ frozen key.scope := by
    intro side key hsome
    obtain ⟨record, hmem⟩ := List.exists_mem_of_ne_nil _ hsome
    obtain ⟨hlisted, -, hkey, -⟩ := Correlation.mem_eligible_iff.1 hmem
    rw [(Key.isNormal_of_ofRecord? hkey).2]
    exact hrecords side record hlisted
  have hcounted : ∀ {kind : Kind} {p : Side → Record → Bool},
      (countListed cluster backend fun side record => record.kind == kind && p side record) ≠ 0 →
        ¬ frozen kind.scope := by
    intro kind p hcount
    obtain ⟨side, record, hlisted, hrecord⟩ := exists_mem_of_countListed_ne_zero hcount
    rw [Bool.and_eq_true, beq_iff_eq] at hrecord
    rw [← hrecord.1]
    exact hrecords side record hlisted
  refine ⟨fun key hkey => ?_, fun collision hcollision => ?_, fun key hkey => ?_, fun kind hkind => ?_,
    fun kind hkind => ?_⟩
  · have hsome := (Correlation.mem_keys_pairs_iff.1 hkey).1
    by_cases hcluster : eligible cluster backend .cluster key = []
    · apply heligible .backend
      intro hbackend
      rw [hcluster, hbackend] at hsome
      cases hsome
    · exact heligible .cluster hcluster
  · apply heligible collision.side
    intro hnil
    have hmany := (Correlation.mem_collisions_iff.1 hcollision).1
    rw [hnil] at hmany
    cases hmany
  · obtain ⟨side, record, hlisted, -, hrecord, -⟩ := Correlation.mem_keys_settled_iff.1 hkey
    rw [(Key.isNormal_of_ofRecord? hrecord).2]
    exact hrecords side record hlisted
  · obtain ⟨count, hcount⟩ := SortedMap.mem_keys_iff.1 hkind
    apply hcounted (p := fun side record => record.IsUnmatchable side)
    intro hzero
    rw [Correlation.get?_unmatchable] at hcount
    simp [hzero] at hcount
  · obtain ⟨count, hcount⟩ := SortedMap.mem_keys_iff.1 hkind
    apply hcounted (p := fun side record => record.IsBound side)
    intro hzero
    rw [Correlation.get?_uncorrelated] at hcount
    simp [hzero] at hcount

end Sighting

/-! ### Candidates of the other keys -/

namespace SortedMap

variable {κ α : Type} [Ord κ] [Std.TransOrd κ] [Std.LawfulEqOrd κ] [DecidableEq κ]

theorem filter_insert (m : SortedMap κ α) {p : κ → α → Bool} {key : κ} (value : α)
    (hkept : p key value = true) : (m.insert key value).filter p = (m.filter p).insert key value := by
  apply ext_get?
  intro other
  rw [get?_filter, get?_insert_eq_ite, get?_insert_eq_ite, get?_filter]
  by_cases heq : other = key
  · subst heq
    rw [if_pos rfl, if_pos rfl]
    simp [hkept]
  · rw [if_neg heq, if_neg heq]

omit [Std.TransOrd κ] [Std.LawfulEqOrd κ] [DecidableEq κ] in
theorem keys_filter (m : SortedMap κ α) (p : κ → Bool) :
    (m.filter fun key _ => p key).keys = m.keys.filter p := by
  rw [keys, keys, filter, List.filter_map]
  rfl

end SortedMap

namespace Classification

def outside (state : Classification) (p : Key → Bool) : Classification :=
  { state with candidates := state.candidates.filter fun key _ => p key, evicted := 0 }

variable {round : Round} {state : Classification} {p : Key → Bool} {key : Key}

theorem get?_outside (hkey : p key = true) :
    (state.outside p).candidates.get? key = state.candidates.get? key := by
  rw [outside, SortedMap.get?_filter]
  cases state.candidates.get? key with
  | none => rfl
  | some candidate => simp [Option.filter, hkey]

theorem outside_store (state : Classification) (hkey : p key = true)
    (observed : Candidate × Transition) :
    (state.store key observed).outside p = (state.outside p).store key observed := by
  have hfilter := SortedMap.filter_insert state.candidates (p := fun key _ => p key) observed.1 hkey
  simp only [store, outside, hfilter]

theorem outside_resolveAt (hkey : p key = true) (resolution : Resolution) :
    (state.resolveAt round resolution key).outside p =
      (state.outside p).resolveAt round resolution key := by
  unfold resolveAt
  rw [get?_outside hkey]
  cases hentry : state.candidates.get? key with
  | none => rfl
  | some candidate =>
      simp only [Candidate.resolve]
      by_cases hstate : candidate.state = .resolved
      · simp only [if_pos hstate]
      · have hfilter := fun ended : Candidate =>
          SortedMap.filter_insert state.candidates (p := fun key _ => p key) ended hkey
        simp only [if_neg hstate, outside, hfilter]

theorem outside_applyPair {entry : Key × Pair} (hkey : p entry.1 = true) :
    (state.applyPair round entry).outside p = (state.outside p).applyPair round entry := by
  unfold applyPair
  cases entry.2.orphan? with
  | none => exact outside_resolveAt hkey .matched
  | some orphan =>
      obtain ⟨side, record⟩ := orphan
      have hcontinuing : (state.outside p).continuing? entry.1 side = state.continuing? entry.1 side := by
        rw [continuing?, get?_outside hkey, continuing?]
      simp only [followOrphan, hcontinuing]
      split
      · rfl
      · cases state.continuing? entry.1 side with
        | some candidate => exact outside_store state hkey _
        | none =>
            have hstored := outside_store state hkey
              ((Candidate.start entry.1 side record round.generation round.now).evaluate round.now
                round.policy)
            simp only [← hstored]
            rfl

theorem outside_foldl {ι : Type} {step : Classification → ι → Classification} {items : List ι}
    (hstep : ∀ state, ∀ item ∈ items, (step state item).outside p = step (state.outside p) item) :
    (items.foldl step state).outside p = items.foldl step (state.outside p) := by
  induction items generalizing state with
  | nil => rfl
  | cons head rest ih =>
      rw [List.foldl_cons, List.foldl_cons, ← hstep state head List.mem_cons_self]
      exact ih fun state item hitem => hstep state item (List.mem_cons_of_mem _ hitem)

theorem outside_evict (round : Round) (base : SortedMap Key Candidate) (p : Key → Bool) :
    (evict round base).outside p = (evict round (base.filter fun key _ => p key)).outside p := by
  have hkept : ((base.filter fun _ candidate => !candidate.isExpired round.generation).filter
        fun key _ => p key) =
      ((base.filter fun key _ => p key).filter fun _ candidate =>
        !candidate.isExpired round.generation).filter fun key _ => p key := by
    apply SortedMap.eq_of_toList
    simp only [SortedMap.filter, List.filter_filter]
    apply List.filter_congr
    intro entry _
    cases p entry.1 <;> simp
  simp only [outside, evict, hkept]

/-- If a classification visits only keys with a property, then what it does to these, and what it notes, does
not depend on the other candidates. -/
theorem outside_run (round : Round) {skipped : List Scope} {correlation : Correlation}
    (hpairs : ∀ key ∈ correlation.pairs.keys, p key = true)
    (hsettled : ∀ key ∈ correlation.settled.keys, p key = true)
    (hgone : ∀ key, isGone correlation skipped key = true → p key = true)
    (base : SortedMap Key Candidate) :
    (run round skipped correlation base).outside p =
      (run round skipped correlation (base.filter fun key _ => p key)).outside p := by
  let settle : Classification → Classification := fun state =>
    correlation.settled.keys.foldl (resolveAt round .matched)
      (correlation.pairs.toList.foldl (applyPair round) state)
  let finish : Classification → Classification := fun state =>
    (state.candidates.keys.filter (isGone correlation skipped)).foldl (resolveAt round .vanished) state
  have hsettle : ∀ state, (settle state).outside p = settle (state.outside p) := by
    intro state
    simp only [settle]
    rw [outside_foldl fun _ key hkey => outside_resolveAt (hsettled key hkey) .matched,
      outside_foldl fun _ entry hentry => outside_applyPair (hpairs _ (List.mem_map_of_mem hentry))]
  -- The last pass visits the keys that are gone, and these have the property.
  have hfinish : ∀ state, (finish state).outside p = finish (state.outside p) := by
    intro state
    have hlisted : (state.outside p).candidates.keys.filter (isGone correlation skipped) =
        state.candidates.keys.filter (isGone correlation skipped) := by
      rw [outside, SortedMap.keys_filter, List.filter_filter]
      apply List.filter_congr
      intro key _
      cases hkey : isGone correlation skipped key with
      | false => rw [Bool.false_and]
      | true => rw [hgone key hkey, Bool.and_true]
    simp only [finish]
    rw [hlisted, outside_foldl fun _ key hkey =>
      outside_resolveAt (hgone key (List.mem_filter.1 hkey).2) .vanished]
  calc (run round skipped correlation base).outside p
      = (finish (settle (evict round base))).outside p := rfl
    _ = finish (settle ((evict round base).outside p)) := by rw [hfinish, hsettle]
    _ = finish (settle ((evict round (base.filter fun key _ => p key)).outside p)) := by
        rw [outside_evict]
    _ = (finish (settle (evict round (base.filter fun key _ => p key)))).outside p := by
        rw [hfinish, hsettle]
    _ = (run round skipped correlation (base.filter fun key _ => p key)).outside p := rfl

/-- A frozen key is sighted nowhere, so it keeps what eviction leaves. -/
theorem get?_run_of_unsighted {skipped : List Scope} {correlation : Correlation}
    (hsighting : correlation.sighting skipped key = ⟨none, false, false, true⟩)
    (base : SortedMap Key Candidate) :
    (run round skipped correlation base).candidates.get? key = round.kept (base.get? key) := by
  rw [get?_run, hsighting]
  rfl

theorem notes_run_of_unsighted (round : Round) {skipped : List Scope} {correlation : Correlation}
    (hsighting : correlation.sighting skipped key = ⟨none, false, false, true⟩)
    {base : SortedMap Key Candidate}
    (hkeyed : ∀ key candidate, base.get? key = some candidate → candidate.key = key)
    {candidate : Candidate} (hkey : candidate.key = key) :
    candidate ∉ (run round skipped correlation base).newConfirmed
      ∧ candidate ∉ (run round skipped correlation base).resolved := by
  have hledger := ledger_run round skipped correlation hkeyed key
  rw [hsighting] at hledger
  have hconfirmed : (run round skipped correlation base).newConfirmed.filter (·.key == key) = [] :=
    congrArg Ledger.confirmed hledger
  have hresolved : (run round skipped correlation base).resolved.filter (·.key == key) = [] :=
    congrArg Ledger.resolved hledger
  rw [List.filter_eq_nil_iff] at hconfirmed hresolved
  exact ⟨fun hmem => hconfirmed candidate hmem (beq_iff_eq.2 hkey),
    fun hmem => hresolved candidate hmem (beq_iff_eq.2 hkey)⟩

end Classification

/-! ### One scan -/

section Scan

variable {cluster backend : Inventory} {key : Key}

/-- Nothing of a frozen scope is correlated. -/
theorem avoids_correlation (cluster backend : Inventory) :
    (Attempt.correlation cluster backend).Avoids (IsFrozen cluster backend) := by
  have houtside : ∀ inventory : Inventory, ∀ record ∈ inventory.observed (skippedScopes cluster backend),
      ¬ IsFrozen cluster backend record.kind.scope := by
    intro inventory record hobserved
    rw [Inventory.observed_eq_recordsOutside] at hobserved
    simpa using (List.mem_filter.1 hobserved).2
  apply avoids_of
  intro side
  cases side with
  | cluster => exact houtside cluster
  | backend => exact houtside backend

theorem Correlation.Avoids.sighting_eq {correlation : Correlation}
    (havoids : correlation.Avoids (IsFrozen cluster backend)) (hkey : IsFrozen cluster backend key.scope) :
    correlation.sighting (skippedScopes cluster backend) key = ⟨none, false, false, true⟩ := by
  have hpair : correlation.pairs.get? key = none := by
    rw [Option.eq_none_iff_forall_not_mem]
    intro pair hpair
    exact havoids.pairs key (SortedMap.mem_keys_iff.2 ⟨pair, hpair⟩) hkey
  have hsettled : correlation.settled.contains key = false := by
    rw [Bool.eq_false_iff, Ne, SortedMap.contains_eq_true_iff]
    exact fun hmem => havoids.settled key hmem hkey
  have hexcluded : correlation.excludedKeys.contains key = false := by
    rw [Bool.eq_false_iff, Ne, excludedKeys, SortedMap.contains_ofKeys]
    intro hmem
    obtain ⟨collision, hcollision, rfl⟩ := List.mem_map.1 hmem
    exact havoids.collisions collision hcollision hkey
  have hskipped : (skippedScopes cluster backend).contains key.scope = true := by
    rw [List.contains_eq_mem, decide_eq_true_eq]
    exact mem_skippedScopes_iff.2 hkey
  rw [sighting, hpair, hsettled, hexcluded, hskipped]

/-- Outside the frozen scopes a key is sighted as if every kind had been listed. -/
theorem sighting_eq_of_listed {cluster' backend' : Inventory} (hkey : ¬ IsFrozen cluster backend key.scope)
    (hcluster : cluster'.unlisted = []) (hbackend : backend'.unlisted = [])
    (hclusterSame : cluster'.recordsOutside (IsFrozen cluster backend) =
      cluster.recordsOutside (IsFrozen cluster backend))
    (hbackendSame : backend'.recordsOutside (IsFrozen cluster backend) =
      backend.recordsOutside (IsFrozen cluster backend)) :
    (Attempt.correlation cluster backend).sighting (skippedScopes cluster backend) key =
      (Attempt.correlation cluster' backend').sighting (skippedScopes cluster' backend') key := by
  have hnone : ∀ scope, ¬ IsFrozen cluster' backend' scope := by
    rintro scope ⟨kind, hkind, -⟩
    rw [hcluster, hbackend] at hkind
    cases hkind
  -- The records in the scope of the key are all among those outside the frozen scopes.
  have hscope : ∀ records : List Record,
      records.filter (fun record => record.kind.scope == key.scope) =
        (records.filter fun record => ¬ IsFrozen cluster backend record.kind.scope).filter
          fun record => record.kind.scope == key.scope := by
    intro records
    rw [List.filter_filter]
    apply List.filter_congr
    intro record _
    by_cases hrecord : record.kind.scope = key.scope
    · simp [hrecord, hkey]
    · simp [hrecord]
  have hall : ∀ inventory : Inventory,
      inventory.observed (skippedScopes cluster' backend') = inventory.records := by
    intro inventory
    rw [Inventory.observed_eq_recordsOutside]
    apply List.filter_eq_self.2
    intro record _
    simpa using hnone record.kind.scope
  have hside : ∀ inventory other : Inventory, other.recordsOutside (IsFrozen cluster backend) =
      inventory.recordsOutside (IsFrozen cluster backend) →
      (inventory.observed (skippedScopes cluster backend)).filter
          (fun record => record.kind.scope == key.scope) =
        (other.observed (skippedScopes cluster' backend')).filter
          (fun record => record.kind.scope == key.scope) := by
    intro inventory other hsame
    calc (inventory.observed (skippedScopes cluster backend)).filter
          (fun record => record.kind.scope == key.scope)
        = (other.recordsOutside (IsFrozen cluster backend)).filter
            (fun record => record.kind.scope == key.scope) := by
          rw [Inventory.observed_eq_recordsOutside, hsame]
      _ = other.records.filter (fun record => record.kind.scope == key.scope) :=
          (hscope other.records).symm
      _ = (other.observed (skippedScopes cluster' backend')).filter
            (fun record => record.kind.scope == key.scope) := by rw [hall]
  apply sighting_congr
  · intro side
    cases side with
    | cluster => exact hside cluster cluster' hclusterSame
    | backend => exact hside backend backend' hbackendSame
  · rw [mem_skippedScopes_iff, mem_skippedScopes_iff]
    exact ⟨fun hfrozen => absurd hfrozen hkey, fun hfrozen => absurd hfrozen (hnone _)⟩

/-- What a classification notes does not depend on the candidates of the frozen scopes. -/
theorem notes_classify_outside (attempt : Attempt) (policy : Policy) (retention : Int)
    (cluster backend : Inventory) :
    let apart : Attempt := { attempt with base := attempt.base.outside (IsFrozen cluster backend) }
    (apart.classify policy retention cluster backend).newConfirmed =
        (attempt.classify policy retention cluster backend).newConfirmed
      ∧ (apart.classify policy retention cluster backend).resolved =
        (attempt.classify policy retention cluster backend).resolved := by
  intro apart
  have havoids := avoids_correlation cluster backend
  have hgone : ∀ key, Classification.isGone (Attempt.correlation cluster backend)
      (skippedScopes cluster backend) key = true → ¬ IsFrozen cluster backend key.scope := by
    intro key hgone
    simp only [Classification.isGone, Bool.and_eq_true, Bool.not_eq_true', List.contains_eq_mem,
      decide_eq_false_iff_not, mem_skippedScopes_iff] at hgone
    exact hgone.2
  have hsame : (attempt.classify policy retention cluster backend).outside
        (fun key => ¬ IsFrozen cluster backend key.scope) =
      (apart.classify policy retention cluster backend).outside
        (fun key => ¬ IsFrozen cluster backend key.scope) := by
    rw [Attempt.classify, Attempt.classify]
    exact Classification.outside_run (attempt.round policy retention)
      (fun key hkey => decide_eq_true (havoids.pairs key hkey))
      (fun key hkey => decide_eq_true (havoids.settled key hkey))
      (fun key hkey => decide_eq_true (hgone key hkey)) attempt.base.candidates
  -- `outside` leaves the notes as they are.
  generalize attempt.classify policy retention cluster backend = whole at hsame ⊢
  generalize apart.classify policy retention cluster backend = rest at hsame ⊢
  exact ⟨(congrArg Classification.newConfirmed hsame).symm, (congrArg Classification.resolved hsame).symm⟩

end Scan

namespace Engine

/-- A cycle with both inventories commits if its base is current. -/
theorem conclude_of_current (engine : Engine) (attempt : Attempt) (cluster backend : Inventory)
    (elapsed : Nat) (hcurrent : attempt.base.generation = engine.store.generation) :
    (engine.conclude attempt (.fetched cluster) (.fetched backend) false elapsed).1.store.snapshot =
        (engine.propose attempt cluster backend elapsed).batch.toSnapshot
      ∧ (engine.conclude attempt (.fetched cluster) (.fetched backend) false elapsed).2 =
        .ok (engine.propose attempt cluster backend elapsed).report := by
  let proposal := engine.propose attempt cluster backend elapsed
  have hfollows : proposal.batch.generation = engine.store.generation + 1 :=
    congrArg Nat.succ hcurrent
  have hcommit := commit_of_follows engine proposal hfollows
  simp only [proposal] at hcommit
  simp only [conclude, Bool.false_eq_true, if_false, hcommit]
  exact ⟨rfl, rfl⟩

/-- **A kind that cannot be listed freezes its scope and nothing else.** -/
theorem unlisted_kinds_freeze_their_scopes (engine : Engine) (attempt : Attempt)
    (cluster backend : Inventory) (elapsed : Nat)
    (hcurrent : attempt.base.generation = engine.store.generation) :
    let frozen := IsFrozen cluster backend
    let before := attempt.base.candidates
    let correlation := Attempt.correlation cluster backend
    let concluded := engine.conclude attempt (.fetched cluster) (.fetched backend) false elapsed
    let after := concluded.1.store.snapshot.candidates
    ∃ report, concluded.2 = .ok report ∧ report.outcome = .committed
      ∧ (∀ key candidate, frozen key.scope → before.get? key = some candidate →
        (candidate.isActive = true → after.get? key = some candidate)
          ∧ (candidate.state = .resolved → candidate.lastGeneration ≤ attempt.base.generation →
            after.get? key = none))
      ∧ (∀ key candidate, frozen key.scope → after.get? key = some candidate →
        before.get? key = some candidate)
      ∧ ((∀ key candidate, before.get? key = some candidate → candidate.key = key) →
        ∀ candidate, candidate ∈ report.newConfirmed ∨ candidate ∈ report.resolved →
          ¬ frozen candidate.key.scope)
      ∧ (∃ apart, (engine.conclude { attempt with base := attempt.base.outside frozen }
          (.fetched cluster) (.fetched backend) false elapsed).2 = .ok apart
        ∧ apart.newConfirmed = report.newConfirmed ∧ apart.resolved = report.resolved)
      ∧ (correlation.Avoids frozen ∧ report.healthyPairs = correlation.healthyCount
        ∧ report.uncorrelated = correlation.uncorrelated ∧ report.anomalies = correlation.anomalies)
      ∧ ∀ cluster' backend' elapsed', cluster'.unlisted = [] → backend'.unlisted = [] →
        cluster'.recordsOutside frozen = cluster.recordsOutside frozen →
        backend'.recordsOutside frozen = backend.recordsOutside frozen →
          let other := engine.conclude attempt (.fetched cluster') (.fetched backend') false elapsed'
          ∀ key, ¬ frozen key.scope →
            after.get? key = other.1.store.snapshot.candidates.get? key := by
  intro frozen before correlation concluded after
  obtain ⟨hsnapshot, hreport⟩ := engine.conclude_of_current attempt cluster backend elapsed hcurrent
  have havoids := avoids_correlation cluster backend
  have hkept : ∀ key, frozen key.scope → after.get? key =
      (attempt.round engine.policy engine.retention).kept (before.get? key) := by
    intro key hkey
    simp only [after, concluded, hsnapshot]
    exact Classification.get?_run_of_unsighted (havoids.sighting_eq hkey) before
  refine ⟨_, hreport, rfl, fun key candidate hkey hbefore => ⟨fun hactive => ?_, fun hended hearlier => ?_⟩,
    fun key candidate hkey hafter => ?_, fun hkeyed candidate hnoted hkey => ?_, ?_,
    ⟨havoids, rfl, rfl, rfl⟩, fun cluster' backend' elapsed' hcluster hbackend hclusterSame hbackendSame => ?_⟩
  · have hstate : candidate.state ≠ .resolved := by rwa [Candidate.isActive, bne_iff_ne] at hactive
    rw [hkept key hkey, hbefore]
    simp [Round.kept, Option.filter, Candidate.isExpired, hstate]
  · have hexpired : candidate.lastGeneration < attempt.base.generation + 1 := Nat.lt_succ_of_le hearlier
    rw [hkept key hkey, hbefore]
    simp [Round.kept, Option.filter, Candidate.isExpired, hended, Attempt.round, hexpired]
  · rw [hkept key hkey] at hafter
    exact (Option.filter_eq_some_iff.1 hafter).1
  · have hunnoted := Classification.notes_run_of_unsighted
      (attempt.round engine.policy engine.retention) (havoids.sighting_eq hkey) hkeyed rfl
    exact hnoted.elim hunnoted.1 hunnoted.2
  · obtain ⟨-, hapart⟩ := engine.conclude_of_current
      { attempt with base := attempt.base.outside frozen } cluster backend elapsed hcurrent
    exact ⟨_, hapart, notes_classify_outside attempt engine.policy engine.retention cluster backend⟩
  · intro other key hkey
    obtain ⟨hsnapshot', -⟩ := engine.conclude_of_current attempt cluster' backend' elapsed' hcurrent
    simp only [after, concluded, other, hsnapshot, hsnapshot']
    have hsighting := sighting_eq_of_listed hkey hcluster hbackend hclusterSame hbackendSame
    calc ((engine.propose attempt cluster backend elapsed).batch.toSnapshot).candidates.get? key
        = (attempt.round engine.policy engine.retention).passed key
            (correlation.sighting (skippedScopes cluster backend) key) (before.get? key) :=
          Classification.get?_run ..
      _ = ((engine.propose attempt cluster' backend' elapsed').batch.toSnapshot).candidates.get? key := by
          rw [hsighting]
          exact (Classification.get?_run ..).symm

/-- A confirmed orphan stays as it is when its scope cannot be listed, although both inventories are empty. -/
theorem unlisted_snapshots_keep_their_orphan :
    let record : Record := { Record.named .backendSnapshot "tank/a@s" with rawKey := some "a@s" }
    let engine := ((ofPolicy ⟨1, 0⟩ 0).scan (.complete ⟨1, 0⟩ [record])).1
    let attempt := (engine.begin ⟨2, 0⟩).2
    let concluded := engine.conclude attempt (.fetched ⟨[], [.snapshot]⟩) (.fetched ⟨[], []⟩) false 0
    attempt.base.generation = engine.store.generation
      ∧ ∃ candidate, attempt.base.candidates.get? ⟨.snapshot, "a@s"⟩ = some candidate
        ∧ candidate.isConfirmed = true
        ∧ concluded.1.store.snapshot.candidates.get? ⟨.snapshot, "a@s"⟩ = some candidate := by
  intro record engine attempt concluded
  have hconfirmed : (attempt.base.candidates.get? ⟨.snapshot, "a@s"⟩).map (·.isConfirmed) = some true := by
    decide +kernel +revert
  obtain ⟨candidate, hcandidate, hstate⟩ := Option.map_eq_some_iff.1 hconfirmed
  have hfrozen : IsFrozen ⟨[], [.snapshot]⟩ ⟨[], []⟩ .snapshot := by decide
  have hactive : candidate.isActive = true := by
    rw [Candidate.isConfirmed, beq_iff_eq] at hstate
    rw [Candidate.isActive, hstate]
    rfl
  obtain ⟨report, -, -, hkept, -⟩ := unlisted_kinds_freeze_their_scopes engine attempt ⟨[], [.snapshot]⟩
    ⟨[], []⟩ 0 rfl
  exact ⟨rfl, candidate, hcandidate, hstate, (hkept _ candidate hfrozen hcandidate).1 hactive⟩

end Engine

end OrphanWatch
