import Mathlib.Algebra.BigOperators.Group.List.Basic
import OrphanWatch.Proofs.Correlation

/-!
# What a correlation accounts for

A record is eligible for a key on a side if the side lists it as one of its own, the key is the record's, and
it is not a bound claim. Counting the eligible records of a key on both sides decides everything: the key
has a pair if there are some and at most one on each side, and a collision on every side that has several
(`Correlation.accounts_for_every_record`). So no record is lost, and none is counted twice.
-/

namespace OrphanWatch

namespace Record

variable (side : Side) (record : Record) (key : Key)

/-- The side that lists the record cannot use it: it is of the other side, or it has no key. -/
def IsUnmatchable : Prop :=
  record.kind.side ≠ side ∨ Key.ofRecord? record = none

def IsBound : Prop :=
  record.kind.side = side ∧ (Key.ofRecord? record).isSome = true ∧ record.isBoundClaim = true

def IsSettled : Prop :=
  record.kind.side = side ∧ Key.ofRecord? record = some key ∧ record.isBoundClaim = true

def IsEligible : Prop :=
  record.kind.side = side ∧ Key.ofRecord? record = some key ∧ record.isBoundClaim = false

instance : Decidable (record.IsUnmatchable side) :=
  inferInstanceAs (Decidable (_ ∨ _))

instance : Decidable (record.IsBound side) :=
  inferInstanceAs (Decidable (_ ∧ _ ∧ _))

instance : Decidable (record.IsSettled side key) :=
  inferInstanceAs (Decidable (_ ∧ _ ∧ _))

instance : Decidable (record.IsEligible side key) :=
  inferInstanceAs (Decidable (_ ∧ _ ∧ _))

end Record

def listed (cluster backend : List Record) : Side → List Record
  | .cluster => cluster
  | .backend => backend

def eligible (cluster backend : List Record) (side : Side) (key : Key) : List Record :=
  (listed cluster backend side).filter fun record => record.IsEligible side key

def countListed (cluster backend : List Record) (p : Side → Record → Bool) : Nat :=
  cluster.countP (p .cluster) + backend.countP (p .backend)

def Pair.on? (pair : Pair) : Side → Option Record
  | .cluster => pair.cluster?
  | .backend => pair.backend?

def Pair.size (pair : Pair) : Nat :=
  pair.cluster?.toList.length + pair.backend?.toList.length

/-- The ways in which a correlation accounts for a record. -/
inductive Account where
  | unmatchable
  | settled (key : Key)
  | paired (key : Key)
  | excluded (key : Key)
  deriving DecidableEq, Repr

def Account.placement : Account → Placement
  | unmatchable => .unmatchable
  | settled key => .settled key
  | paired key | excluded key => .claims key

def Correlation.Accounts (correlation : Correlation) (side : Side) (record : Record) :
    Account → Prop
  | .unmatchable => record.IsUnmatchable side
  | .settled key => record.IsSettled side key ∧ key ∈ correlation.settled.keys
  | .paired key => ∃ pair, correlation.pairs.get? key = some pair ∧ pair.on? side = some record
  | .excluded key => record.IsEligible side key ∧ key ∈ correlation.excludedKeys.keys

/-! ### Sums -/

theorem total_map_add {α : Type} (f g : α → Nat) (items : List α) :
    total (items.map fun item => f item + g item) = total (items.map f) + total (items.map g) :=
  List.sum_map_add

theorem total_map_zero {α : Type} (items : List α) : total (items.map fun _ => 0) = 0 := by
  induction items with
  | nil => rfl
  | cons item rest ih => rw [List.map_cons, total_cons, ih]

theorem total_map_ite {α : Type} [DecidableEq α] {items : List α} (hnodup : items.Nodup) (found : α) :
    total (items.map fun item => if found = item then 1 else 0) = if found ∈ items then 1 else 0 := by
  induction items with
  | nil => rfl
  | cons head rest ih =>
      obtain ⟨hhead, hrest⟩ := List.nodup_cons.1 hnodup
      rw [List.map_cons, total_cons, ih hrest]
      by_cases heq : found = head
      · subst heq
        simp [hhead]
      · simp [heq]

/-- Counting by keys: every item is counted under its own key. -/
theorem total_map_countP {α κ : Type} [DecidableEq κ] {keys : List κ} (hnodup : keys.Nodup)
    (keyOf : α → Option κ) (items : List α) :
    total (keys.map fun key => items.countP fun item => keyOf item = some key) =
      items.countP fun item => (keyOf item).any fun key => decide (key ∈ keys) := by
  induction items with
  | nil => exact total_map_zero keys
  | cons item rest ih =>
      simp only [List.countP_cons]
      rw [total_map_add, ih]
      congr 1
      cases hkey : keyOf item with
      | none =>
          have hzero := total_map_zero keys
          simpa using hzero
      | some found =>
          have hite := total_map_ite hnodup found
          simpa using hite

/-- If every item is of exactly one of four sorts, the sorts add up. -/
theorem length_eq_countP_of_sorts {α : Type} {p q r s : α → Bool} {items : List α}
    (hone : ∀ item ∈ items, (p item).toNat + (q item).toNat + (r item).toNat + (s item).toNat = 1) :
    items.length = items.countP p + items.countP q + items.countP r + items.countP s := by
  induction items with
  | nil => rfl
  | cons item rest ih =>
      have hitem := hone item List.mem_cons_self
      have hrest := ih fun other hother => hone other (List.mem_cons_of_mem _ hother)
      simp only [List.countP_cons, List.length_cons]
      cases hp : p item <;> cases hq : q item <;> cases hr : r item <;> cases hs : s item <;>
        simp_all <;> omega

namespace SortedMap

variable {κ : Type} [Ord κ] [Std.TransOrd κ] [Std.LawfulEqOrd κ] [DecidableEq κ]

theorem mem_keys_ofKeys {keys : List κ} {key : κ} :
    key ∈ (ofKeys keys fun _ => some ()).keys ↔ key ∈ keys := by
  rw [← contains_eq_true_iff, contains_ofKeys]

omit [Std.TransOrd κ] [Std.LawfulEqOrd κ] [DecidableEq κ] in
theorem ascending_keys {α : Type} (m : SortedMap κ α) :
    m.keys.Pairwise fun a b => compare a b = .lt :=
  List.pairwise_map.2 m.ascending

omit [Std.TransOrd κ] [DecidableEq κ] in
theorem map_values_eq_map_keys {α β : Type} {m : SortedMap κ α} {f : α → β} {g : κ → β}
    (hvalue : ∀ key value, m.get? key = some value → f value = g key) :
    m.values.map f = m.keys.map g := by
  rw [values, keys, List.map_map, List.map_map]
  apply List.map_congr_left
  intro entry hentry
  exact hvalue entry.1 entry.2 (get?_eq_some_iff.2 hentry)

end SortedMap

theorem pairwise_sortedTexts (texts : List String) : (sortedTexts texts).Pairwise (· ≤ ·) := by
  have hsorted : (sortedTexts texts).Pairwise fun a b => decide (a ≤ b) = true := by
    apply List.pairwise_mergeSort
    · intro a b c hab hbc
      simp only [decide_eq_true_eq] at hab hbc ⊢
      exact String.le_trans hab hbc
    · intro a b
      simpa using String.le_total a b
  exact hsorted.imp fun h => by simpa using h

/-! ### Placements -/

namespace Placement

variable {side : Side} {record : Record} {key : Key}

/-- What a side cannot use, or what has no key, is unmatchable. -/
theorem of_eq_unmatchable_iff : of side record = .unmatchable ↔ record.IsUnmatchable side := by
  unfold of Record.IsUnmatchable
  by_cases hside : record.kind.side = side
  · cases hkey : Key.ofRecord? record with
    | none => simp [hside]
    | some other => cases hbound : record.isBoundClaim <;> simp [hside]
  · simp [hside]

theorem of_eq_settled_iff : of side record = .settled key ↔ record.IsSettled side key := by
  unfold of Record.IsSettled
  by_cases hside : record.kind.side = side
  · cases hkey : Key.ofRecord? record with
    | none => simp [hside]
    | some other => cases hbound : record.isBoundClaim <;> simp [hside]
  · simp [hside]

theorem isSettled_of_iff : (of side record).isSettled = true ↔ record.IsBound side := by
  unfold of Record.IsBound
  by_cases hside : record.kind.side = side
  · cases hkey : Key.ofRecord? record with
    | none => simp [hside, isSettled]
    | some other => cases hbound : record.isBoundClaim <;> simp [hside, isSettled]
  · simp [hside, isSettled]

theorem isUnmatchable_of_iff : (of side record).isUnmatchable = true ↔ record.IsUnmatchable side := by
  rw [← of_eq_unmatchable_iff]
  cases of side record <;> simp [isUnmatchable]

theorem claimedKey?_of_iff :
    (of side record).claimedKey? = some key ↔ record.IsEligible side key := by
  rw [Record.IsEligible, ← of_eq_claims_iff]
  cases of side record <;> simp [claimedKey?]

theorem of_eq_claims_iff_isEligible : of side record = .claims key ↔ record.IsEligible side key :=
  of_eq_claims_iff

end Placement

theorem claiming_eq_eligible (cluster backend : List Record) (side : Side) (key : Key) :
    claiming side (listed cluster backend side) key = eligible cluster backend side key := by
  unfold claiming eligible
  apply List.filter_congr
  intro record _
  rw [decide_eq_decide]
  exact Placement.of_eq_claims_iff_isEligible

/-- A pair holds the claimants of the two sides, and nothing else. -/
theorem Pair.ofClaimants_eq_some_iff {cluster backend : List Record} {pair : Pair} :
    Pair.ofClaimants cluster backend = some pair ↔
      pair.cluster?.toList = cluster ∧ pair.backend?.toList = backend := by
  constructor
  · intro hpair
    unfold Pair.ofClaimants at hpair
    split at hpair
    all_goals cases hpair
    all_goals exact ⟨rfl, rfl⟩
  · rintro ⟨rfl, rfl⟩
    cases pair <;> rfl

/-- There is a pair exactly if some side has a claimant, and none has several. -/
theorem Pair.isSome_ofClaimants_iff {cluster backend : List Record} :
    (∃ pair, Pair.ofClaimants cluster backend = some pair) ↔
      1 ≤ cluster.length + backend.length ∧ cluster.length ≤ 1 ∧ backend.length ≤ 1 := by
  match cluster, backend with
  | [], [] => simp [Pair.ofClaimants]
  | [record], [] => simp [Pair.ofClaimants]
  | [], [record] => simp [Pair.ofClaimants]
  | [left], [right] => simp [Pair.ofClaimants]
  | _ :: _ :: _, _ => simp [Pair.ofClaimants]
  | [], _ :: _ :: _ => simp [Pair.ofClaimants]
  | [_], _ :: _ :: _ => simp [Pair.ofClaimants]

theorem Pair.isHealthy_iff {pair : Pair} :
    pair.isHealthy = true ↔
      pair.cluster?.toList.length = 1 ∧ pair.backend?.toList.length = 1 := by
  cases pair <;> simp [isHealthy, cluster?, backend?]


/-! ### Counts by kind -/

namespace Correlation

theorem countKinds_append_singleton (records : List Record) (record : Record) :
    countKinds (records ++ [record]) =
      (countKinds records).adjust record.kind fun count => count.getD 0 + 1 := by
  rw [countKinds, List.foldl_append]
  rfl

/-- A kind is counted if it occurs. -/
theorem get?_countKinds (records : List Record) (kind : Kind) :
    (countKinds records).get? kind =
      if records.countP (·.kind == kind) = 0 then none
      else some (records.countP (·.kind == kind)) := by
  induction records using List.reverseRecOn with
  | nil => rfl
  | append_singleton before record ih =>
      rw [countKinds_append_singleton, SortedMap.get?_adjust, List.countP_append,
        List.countP_singleton]
      by_cases heq : kind = record.kind
      · subst heq
        rw [if_pos rfl, ih]
        by_cases hzero : before.countP (·.kind == record.kind) = 0 <;> simp [hzero]
      · have hne : (record.kind == kind) = false := by simpa using Ne.symm heq
        rw [if_neg heq, ih, hne]
        simp

/-- The kinds of some records count every record once. -/
theorem total_values_countKinds (records : List Record) :
    total (countKinds records).values = records.length := by
  have hvalues : (countKinds records).values.map id =
      (countKinds records).keys.map fun kind =>
        records.countP fun record => some record.kind = some kind := by
    apply SortedMap.map_values_eq_map_keys
    intro kind count hcount
    rw [get?_countKinds] at hcount
    split at hcount
    · cases hcount
    · cases hcount
      apply List.countP_congr
      intro record _
      simp
  have hcount := total_map_countP (SortedMap.nodup_keys (countKinds records))
    (fun record : Record => some record.kind) records
  rw [List.map_id] at hvalues
  rw [hvalues, hcount, List.countP_eq_length]
  intro record hmem
  have hkey : record.kind ∈ (countKinds records).keys := by
    have hpos : records.countP (·.kind == record.kind) ≠ 0 := by
      rw [← Nat.pos_iff_ne_zero, List.countP_pos_iff]
      exact ⟨record, hmem, beq_self_eq_true _⟩
    rw [SortedMap.mem_keys_iff, get?_countKinds, if_neg hpos]
    exact ⟨_, rfl⟩
  simpa using hkey

/-! ### Collisions and settled keys -/

variable {cluster backend : List Record} {key : Key}

/-- A collision names all claimants of the key, in the order of their names. -/
theorem collisionUnder_claimants (side : Side) (records : List Record) (key : Key) :
    collisionUnder side (claimants side records) key =
      if 2 ≤ (claiming side records key).length then
        some ⟨key, side, sortedTexts ((claiming side records key).map (·.nativeId))⟩
      else none := by
  rw [collisionUnder, get?_claimants]
  cases claiming side records key with
  | nil => simp
  | cons first others => cases others <;> simp

/-- The keys that some record claims, each of them once. -/
theorem mem_claimedKeys_iff :
    key ∈ (SortedMap.ofKeys ((claimants .cluster cluster).keys
        ++ (claimants .backend backend).keys) fun _ => some ()).keys ↔
      ∃ side, eligible cluster backend side key ≠ [] := by
  rw [SortedMap.mem_keys_ofKeys, List.mem_append, mem_keys_claimants, mem_keys_claimants]
  constructor
  · rintro (hcluster | hbackend)
    · exact ⟨.cluster, by rwa [← claiming_eq_eligible]⟩
    · exact ⟨.backend, by rwa [← claiming_eq_eligible]⟩
  · rintro ⟨side, hside⟩
    rw [← claiming_eq_eligible] at hside
    cases side with
    | cluster => exact .inl hside
    | backend => exact .inr hside

/-- A key collides on a side if several of its records are eligible for the key. -/
theorem mem_collisions_iff {collision : KeyCollision} :
    collision ∈ (of cluster backend).collisions ↔
      2 ≤ (eligible cluster backend collision.side collision.key).length
        ∧ collision.nativeIds =
          sortedTexts ((eligible cluster backend collision.side collision.key).map (·.nativeId)) := by
  have hunder : ∀ side key,
      collisionUnder side (claimants side (listed cluster backend side)) key = some collision ↔
        collision.side = side ∧ collision.key = key ∧ 2 ≤ (eligible cluster backend side key).length
          ∧ collision.nativeIds =
            sortedTexts ((eligible cluster backend side key).map (·.nativeId)) := by
    intro side key
    rw [collisionUnder_claimants, claiming_eq_eligible]
    by_cases hmany : 2 ≤ (eligible cluster backend side key).length
    · rw [if_pos hmany, Option.some.injEq]
      constructor
      · rintro rfl
        exact ⟨rfl, rfl, hmany, rfl⟩
      · rintro ⟨rfl, rfl, -, hids⟩
        rw [← hids]
    · simp [hmany]
  have hmem : collision ∈ (of cluster backend).collisions ↔
      ∃ key, (∃ side, eligible cluster backend side key ≠ []) ∧ ∃ side,
        collisionUnder side (claimants side (listed cluster backend side)) key = some collision := by
    simp only [of, List.mem_flatMap, mem_claimedKeys_iff]
    refine exists_congr fun key => and_congr_right fun _ => ?_
    rw [List.mem_append, Option.mem_toList, Option.mem_toList]
    constructor
    · rintro (hcluster | hbackend)
      · exact ⟨.cluster, hcluster⟩
      · exact ⟨.backend, hbackend⟩
    · rintro ⟨side, hside⟩
      cases side with
      | cluster => exact .inl hside
      | backend => exact .inr hside
  rw [hmem]
  constructor
  · rintro ⟨key, -, side, hcollision⟩
    obtain ⟨rfl, rfl, hmany, hids⟩ := (hunder side key).1 hcollision
    exact ⟨hmany, hids⟩
  · rintro ⟨hmany, hids⟩
    refine ⟨collision.key, ⟨collision.side, ?_⟩, collision.side, (hunder _ _).2 ⟨rfl, rfl, hmany, hids⟩⟩
    intro hnil
    rw [hnil] at hmany
    cases hmany

theorem mem_excludedKeys_iff :
    key ∈ (of cluster backend).excludedKeys.keys ↔
      ∃ side, 2 ≤ (eligible cluster backend side key).length := by
  rw [excludedKeys, SortedMap.mem_keys_ofKeys, List.mem_map]
  constructor
  · rintro ⟨collision, hmem, rfl⟩
    exact ⟨collision.side, (mem_collisions_iff.1 hmem).1⟩
  · rintro ⟨side, hmany⟩
    let ids := sortedTexts ((eligible cluster backend side key).map (·.nativeId))
    have hmem : ⟨key, side, ids⟩ ∈ (of cluster backend).collisions :=
      mem_collisions_iff.2 ⟨hmany, rfl⟩
    exact ⟨_, hmem, rfl⟩

theorem pairwise_collisions :
    (of cluster backend).collisions.Pairwise fun a b =>
      compareLex (compareOn KeyCollision.key) (compareOn KeyCollision.side) a b = .lt := by
  have hkeys := (SortedMap.ofKeys ((claimants .cluster cluster).keys
    ++ (claimants .backend backend).keys) fun _ => some ()).ascending_keys
  have hunder : ∀ {key collision},
      collision ∈ (collisionUnder .cluster (claimants .cluster cluster) key).toList
        ++ (collisionUnder .backend (claimants .backend backend) key).toList →
      collision.key = key := by
    intro key collision hmem
    rcases List.mem_append.1 hmem with hcluster | hbackend
    · exact (collisionUnder_eq_some (Option.mem_toList.1 hcluster)).1
    · exact (collisionUnder_eq_some (Option.mem_toList.1 hbackend)).1
  simp only [of]
  rw [List.pairwise_flatMap]
  constructor
  · intro key _
    rw [collisionUnder_claimants, collisionUnder_claimants]
    split <;> split <;> simp [compareLex, compareOn]
    decide
  · refine hkeys.imp fun {first second} hlt a ha b hb => ?_
    rw [compareLex, compareOn, hunder ha, hunder hb, hlt]
    rfl

/-! ### Pairs and settled keys -/

/-- The pair under a key holds all that is eligible for the key. -/
theorem get?_pairs_eq_some_iff {pair : Pair} :
    (of cluster backend).pairs.get? key = some pair ↔
      pair.cluster?.toList = eligible cluster backend .cluster key
        ∧ pair.backend?.toList = eligible cluster backend .backend key := by
  have hcluster := claiming_eq_eligible cluster backend .cluster key
  have hbackend := claiming_eq_eligible cluster backend .backend key
  simp only [listed] at hcluster hbackend
  rw [get?_pairs, hcluster, hbackend]
  exact Pair.ofClaimants_eq_some_iff

theorem mem_keys_pairs_iff :
    key ∈ (of cluster backend).pairs.keys ↔
      1 ≤ (eligible cluster backend .cluster key).length
          + (eligible cluster backend .backend key).length
        ∧ (eligible cluster backend .cluster key).length ≤ 1
        ∧ (eligible cluster backend .backend key).length ≤ 1 := by
  rw [SortedMap.mem_keys_iff, ← Pair.isSome_ofClaimants_iff]
  apply exists_congr
  intro pair
  rw [get?_pairs_eq_some_iff, Pair.ofClaimants_eq_some_iff]

/-- A key that is claimed at all has a pair or is excluded, and not both. -/
theorem mem_keys_pairs_iff_not_mem_excludedKeys {side : Side}
    (hclaimed : eligible cluster backend side key ≠ []) :
    key ∈ (of cluster backend).pairs.keys ↔ key ∉ (of cluster backend).excludedKeys.keys := by
  have hpos := List.length_pos_iff.2 hclaimed
  rw [mem_keys_pairs_iff, mem_excludedKeys_iff]
  constructor
  · rintro ⟨-, hcluster, hbackend⟩ ⟨other, hmany⟩
    cases other with
    | cluster => omega
    | backend => omega
  · intro hfew
    have hcluster : ¬ 2 ≤ (eligible cluster backend .cluster key).length :=
      fun hmany => hfew ⟨.cluster, hmany⟩
    have hbackend : ¬ 2 ≤ (eligible cluster backend .backend key).length :=
      fun hmany => hfew ⟨.backend, hmany⟩
    cases side with
    | cluster => omega
    | backend => omega

theorem mem_keys_settled_iff :
    key ∈ (of cluster backend).settled.keys ↔
      ∃ side, ∃ record ∈ listed cluster backend side, record.IsSettled side key := by
  have hkey : ∀ side record,
      (Placement.of side record).settledKey? = some key ↔ record.IsSettled side key := by
    intro side record
    rw [← Placement.of_eq_settled_iff]
    cases Placement.of side record <;> simp [Placement.settledKey?]
  simp only [of]
  rw [SortedMap.mem_keys_ofKeys, List.mem_filterMap]
  constructor
  · rintro ⟨entry, hmem, hentry⟩
    rcases List.mem_append.1 hmem with hcluster | hbackend
    · obtain ⟨record, hrecord, rfl⟩ := List.mem_map.1 hcluster
      exact ⟨.cluster, record, hrecord, (hkey _ _).1 hentry⟩
    · obtain ⟨record, hrecord, rfl⟩ := List.mem_map.1 hbackend
      exact ⟨.backend, record, hrecord, (hkey _ _).1 hentry⟩
  · rintro ⟨side, record, hrecord, hsettled⟩
    refine ⟨(Placement.of side record, record), ?_, (hkey _ _).2 hsettled⟩
    cases side with
    | cluster => exact List.mem_append_left _ (List.mem_map.2 ⟨record, hrecord, rfl⟩)
    | backend => exact List.mem_append_right _ (List.mem_map.2 ⟨record, hrecord, rfl⟩)

/-- Only bound claims settle a key. -/
theorem scope_of_settled (hsettled : key ∈ (of cluster backend).settled.keys) : key.scope = .claim := by
  obtain ⟨side, bound, -, -, hkey, hbound⟩ := mem_keys_settled_iff.1 hsettled
  have hkind : bound.kind = .volumeClaim := by
    simp only [Record.isBoundClaim, Bool.and_eq_true, beq_iff_eq] at hbound
    exact hbound.1.1
  rw [(Key.isNormal_of_ofRecord? hkey).2, hkind]
  rfl

/-! ### Every record in one place -/

variable {side : Side} {record : Record}

theorem mem_eligible_iff :
    record ∈ eligible cluster backend side key ↔
      record ∈ listed cluster backend side ∧ record.IsEligible side key := by
  rw [eligible, List.mem_filter, decide_eq_true_eq]

theorem on?_toList_of_pair {pair : Pair}
    (hpair : (of cluster backend).pairs.get? key = some pair) (side : Side) :
    (pair.on? side).toList = eligible cluster backend side key := by
  obtain ⟨hcluster, hbackend⟩ := get?_pairs_eq_some_iff.1 hpair
  cases side with
  | cluster => exact hcluster
  | backend => exact hbackend

/-- The records of the pairs are the eligible ones of their keys. -/
theorem accounts_paired_iff (hlisted : record ∈ listed cluster backend side) :
    (of cluster backend).Accounts side record (.paired key) ↔
      record.IsEligible side key ∧ key ∈ (of cluster backend).pairs.keys := by
  constructor
  · rintro ⟨pair, hpair, hrecord⟩
    have hmem : record ∈ eligible cluster backend side key := by
      rw [← on?_toList_of_pair hpair, hrecord]
      exact List.mem_singleton_self record
    exact ⟨(mem_eligible_iff.1 hmem).2, SortedMap.mem_keys_iff.2 ⟨pair, hpair⟩⟩
  · rintro ⟨heligible, hkey⟩
    obtain ⟨pair, hpair⟩ := SortedMap.mem_keys_iff.1 hkey
    have hmem : record ∈ (pair.on? side).toList := by
      rw [on?_toList_of_pair hpair]
      exact mem_eligible_iff.2 ⟨hlisted, heligible⟩
    exact ⟨pair, hpair, Option.mem_toList.1 hmem⟩

theorem placement_of_accounts (hlisted : record ∈ listed cluster backend side) {account : Account}
    (haccount : (of cluster backend).Accounts side record account) :
    Placement.of side record = account.placement := by
  cases account with
  | unmatchable => exact Placement.of_eq_unmatchable_iff.2 haccount
  | settled key => exact Placement.of_eq_settled_iff.2 haccount.1
  | paired key =>
      exact Placement.of_eq_claims_iff_isEligible.2 ((accounts_paired_iff hlisted).1 haccount).1
  | excluded key => exact Placement.of_eq_claims_iff_isEligible.2 haccount.1

/-- Every listed record is accounted for in exactly one way. -/
theorem existsUnique_account (hlisted : record ∈ listed cluster backend side) :
    ∃! account, (of cluster backend).Accounts side record account := by
  cases hplacement : Placement.of side record with
  | unmatchable =>
      refine ⟨.unmatchable, Placement.of_eq_unmatchable_iff.1 hplacement, fun other hother => ?_⟩
      have hsame := placement_of_accounts hlisted hother
      rw [hplacement] at hsame
      cases other <;> cases hsame
      rfl
  | settled key =>
      have hsettled := Placement.of_eq_settled_iff.1 hplacement
      refine ⟨.settled key, ⟨hsettled, mem_keys_settled_iff.2 ⟨side, record, hlisted, hsettled⟩⟩,
        fun other hother => ?_⟩
      have hsame := placement_of_accounts hlisted hother
      rw [hplacement] at hsame
      cases other <;> cases hsame
      rfl
  | claims key =>
      have heligible := Placement.of_eq_claims_iff_isEligible.1 hplacement
      have hclaimed := List.ne_nil_of_mem (mem_eligible_iff.2 ⟨hlisted, heligible⟩)
      have hpaired := mem_keys_pairs_iff_not_mem_excludedKeys hclaimed
      by_cases hexcluded : key ∈ (of cluster backend).excludedKeys.keys
      · refine ⟨.excluded key, ⟨heligible, hexcluded⟩, fun other hother => ?_⟩
        have hsame := placement_of_accounts hlisted hother
        rw [hplacement] at hsame
        cases other with
        | paired other =>
            cases hsame
            exact absurd hexcluded (hpaired.1 ((accounts_paired_iff hlisted).1 hother).2)
        | excluded other => cases hsame; rfl
        | _ => cases hsame
      · refine ⟨.paired key, (accounts_paired_iff hlisted).2 ⟨heligible, hpaired.2 hexcluded⟩,
          fun other hother => ?_⟩
        have hsame := placement_of_accounts hlisted hother
        rw [hplacement] at hsame
        cases other with
        | paired other => cases hsame; rfl
        | excluded other =>
            cases hsame
            exact absurd hother.2 hexcluded
        | _ => cases hsame

/-! ### The sizes add up -/

def placed (cluster backend : List Record) : List (Placement × Record) :=
  cluster.map (fun record => (Placement.of .cluster record, record))
    ++ backend.map (fun record => (Placement.of .backend record, record))

theorem countP_placed (cluster backend : List Record) (p : Placement → Bool) (q : Record → Bool) :
    (((placed cluster backend).filter (p ·.1)).map (·.2)).countP q =
      countListed cluster backend fun side record => q record && p (Placement.of side record) := by
  simp only [placed, countListed, List.filter_append, List.map_append, List.countP_append,
    List.countP_map, List.countP_filter]
  rfl

theorem get?_countKinds_placed (cluster backend : List Record) {p : Placement → Bool}
    {q : Side → Record → Prop} [∀ side record, Decidable (q side record)]
    (hplacement : ∀ side record, p (Placement.of side record) = true ↔ q side record) (kind : Kind) :
    (countKinds (((placed cluster backend).filter (p ·.1)).map (·.2))).get? kind =
      let count := countListed cluster backend fun side record =>
        record.kind == kind && q side record
      if count = 0 then none else some count := by
  have hdecided : ∀ side record, p (Placement.of side record) = decide (q side record) := by
    intro side record
    rw [Bool.eq_iff_iff, decide_eq_true_eq]
    exact hplacement side record
  rw [get?_countKinds, countP_placed]
  simp only [hdecided]

theorem total_countKinds_placed (cluster backend : List Record) (p : Placement → Bool) :
    total (countKinds (((placed cluster backend).filter (p ·.1)).map (·.2))).values =
      countListed cluster backend fun side record => p (Placement.of side record) := by
  have hplaced := countP_placed cluster backend p fun _ => true
  simp only [Bool.true_and, List.countP_true] at hplaced
  rw [← hplaced]
  exact total_values_countKinds _

theorem get?_unmatchable (cluster backend : List Record) (kind : Kind) :
    (of cluster backend).unmatchable.get? kind =
      let count := countListed cluster backend fun side record =>
        record.kind == kind && record.IsUnmatchable side
      if count = 0 then none else some count :=
  get?_countKinds_placed cluster backend (fun _ _ => Placement.isUnmatchable_of_iff) kind

theorem get?_uncorrelated (cluster backend : List Record) (kind : Kind) :
    (of cluster backend).uncorrelated.get? kind =
      let count := countListed cluster backend fun side record =>
        record.kind == kind && record.IsBound side
      if count = 0 then none else some count :=
  get?_countKinds_placed cluster backend (fun _ _ => Placement.isSettled_of_iff) kind

theorem length_eligible (cluster backend : List Record) (side : Side) (key : Key) :
    (eligible cluster backend side key).length =
      (listed cluster backend side).countP fun record =>
        (Placement.of side record).claimedKey? = some key := by
  rw [eligible, ← List.countP_eq_length_filter]
  apply List.countP_congr
  intro record _
  rw [decide_eq_true_eq, decide_eq_true_eq, Placement.claimedKey?_of_iff]

/-- Over distinct keys, the eligible records are those whose key is among them. -/
theorem total_length_eligible (cluster backend : List Record) {keys : List Key}
    (hnodup : keys.Nodup) :
    total (keys.map fun key => (eligible cluster backend .cluster key).length
        + (eligible cluster backend .backend key).length) =
      countListed cluster backend fun side record =>
        (Placement.of side record).claimedKey?.any fun key => decide (key ∈ keys) := by
  simp only [length_eligible]
  rw [total_map_add, total_map_countP hnodup, total_map_countP hnodup]
  rfl

/-- What a side lists is unmatchable, settled or claims a key. -/
theorem length_listed (cluster backend : List Record) (side : Side) :
    (listed cluster backend side).length =
      (listed cluster backend side).countP (fun record => (Placement.of side record).isUnmatchable)
      + (listed cluster backend side).countP (fun record => (Placement.of side record).isSettled)
      + (listed cluster backend side).countP (fun record =>
          (Placement.of side record).claimedKey?.any fun key =>
            decide (key ∈ (of cluster backend).pairs.keys))
      + (listed cluster backend side).countP (fun record =>
          (Placement.of side record).claimedKey?.any fun key =>
            decide (key ∈ (of cluster backend).excludedKeys.keys)) := by
  apply length_eq_countP_of_sorts
  intro record hmem
  cases hplacement : Placement.of side record with
  | unmatchable => rfl
  | settled key => rfl
  | claims key =>
      have heligible := Placement.of_eq_claims_iff_isEligible.1 hplacement
      have hclaimed := List.ne_nil_of_mem (mem_eligible_iff.2 ⟨hmem, heligible⟩)
      have hpaired := mem_keys_pairs_iff_not_mem_excludedKeys hclaimed
      by_cases hexcluded : key ∈ (of cluster backend).excludedKeys.keys
      · simp [Placement.isUnmatchable, Placement.isSettled, Placement.claimedKey?, hpaired, hexcluded]
      · simp [Placement.isUnmatchable, Placement.isSettled, Placement.claimedKey?, hpaired, hexcluded]

/-- No record is lost between the listings and the correlation. -/
theorem total_sizes (cluster backend : List Record) :
    cluster.length + backend.length =
      total (of cluster backend).unmatchable.values + total (of cluster backend).uncorrelated.values
        + total ((of cluster backend).pairs.values.map (·.size))
        + total ((of cluster backend).excludedKeys.keys.map fun key =>
            (eligible cluster backend .cluster key).length
              + (eligible cluster backend .backend key).length) := by
  have hunmatchable : total (of cluster backend).unmatchable.values = _ :=
    total_countKinds_placed cluster backend Placement.isUnmatchable
  have huncorrelated : total (of cluster backend).uncorrelated.values = _ :=
    total_countKinds_placed cluster backend Placement.isSettled
  have hsizes : (of cluster backend).pairs.values.map (·.size) =
      (of cluster backend).pairs.keys.map fun key =>
        (eligible cluster backend .cluster key).length
          + (eligible cluster backend .backend key).length := by
    apply SortedMap.map_values_eq_map_keys
    intro key pair hpair
    obtain ⟨hcluster, hbackend⟩ := get?_pairs_eq_some_iff.1 hpair
    rw [Pair.size, hcluster, hbackend]
  have hpairs := total_length_eligible cluster backend (of cluster backend).pairs.nodup_keys
  have hexcluded := total_length_eligible cluster backend (of cluster backend).excludedKeys.nodup_keys
  have hcluster := length_listed cluster backend .cluster
  have hbackend := length_listed cluster backend .backend
  rw [hsizes, hpairs, hexcluded, hunmatchable, huncorrelated]
  simp only [countListed, listed] at *
  omega

/-- **A correlation accounts for every record.** -/
theorem accounts_for_every_record (cluster backend : List Record) :
    let correlation := of cluster backend
    let count := fun side key => (eligible cluster backend side key).length
    (∀ key, key ∈ correlation.pairs.keys ↔
      1 ≤ count .cluster key + count .backend key ∧ count .cluster key ≤ 1 ∧ count .backend key ≤ 1)
    ∧ (∀ key pair, correlation.pairs.get? key = some pair →
      (∀ side, (pair.on? side).toList = eligible cluster backend side key)
        ∧ (pair.isHealthy = true ↔ count .cluster key = 1 ∧ count .backend key = 1))
    ∧ (correlation.collisions.Pairwise fun a b =>
      compareLex (compareOn KeyCollision.key) (compareOn KeyCollision.side) a b = .lt)
    ∧ (∀ key side, (∃ collision ∈ correlation.collisions, collision.key = key ∧ collision.side = side)
      ↔ 2 ≤ count side key)
    ∧ (∀ collision ∈ correlation.collisions,
      collision.nativeIds.Pairwise (· ≤ ·)
        ∧ collision.nativeIds.Perm
          ((eligible cluster backend collision.side collision.key).map (·.nativeId)))
    ∧ (∀ key, key ∈ correlation.settled.keys ↔
      ∃ side, ∃ record ∈ listed cluster backend side, record.IsSettled side key)
    ∧ (∀ kind, correlation.unmatchable.get? kind =
      let count := countListed cluster backend fun side record =>
        record.kind == kind && record.IsUnmatchable side
      if count = 0 then none else some count)
    ∧ (∀ kind, correlation.uncorrelated.get? kind =
      let count := countListed cluster backend fun side record =>
        record.kind == kind && record.IsBound side
      if count = 0 then none else some count)
    ∧ (∀ side, ∀ record ∈ listed cluster backend side,
      ∃! account, correlation.Accounts side record account)
    ∧ cluster.length + backend.length =
      total correlation.unmatchable.values + total correlation.uncorrelated.values
        + total (correlation.pairs.values.map (·.size))
        + total (correlation.excludedKeys.keys.map fun key =>
            count .cluster key + count .backend key) := by
  refine ⟨fun key => mem_keys_pairs_iff, fun key pair hpair => ⟨?_, ?_⟩, pairwise_collisions,
    fun key side => ?_, fun collision hmem => ?_, fun key => mem_keys_settled_iff,
    get?_unmatchable cluster backend, get?_uncorrelated cluster backend,
    fun side record hlisted => existsUnique_account hlisted, total_sizes cluster backend⟩
  · exact on?_toList_of_pair hpair
  · obtain ⟨hcluster, hbackend⟩ := get?_pairs_eq_some_iff.1 hpair
    rw [Pair.isHealthy_iff, hcluster, hbackend]
  · constructor
    · rintro ⟨collision, hmem, rfl, rfl⟩
      exact (mem_collisions_iff.1 hmem).1
    · intro hmany
      let ids := sortedTexts ((eligible cluster backend side key).map (·.nativeId))
      exact ⟨⟨key, side, ids⟩, mem_collisions_iff.2 ⟨hmany, rfl⟩, rfl, rfl⟩
  · obtain ⟨-, hids⟩ := mem_collisions_iff.1 hmem
    rw [hids]
    exact ⟨pairwise_sortedTexts _, List.mergeSort_perm _ _⟩

end Correlation

end OrphanWatch
