import Mathlib.Data.List.Induction
import OrphanWatch.Correlation.Basic
import OrphanWatch.Proofs.NormalText
import OrphanWatch.Proofs.SortedMap

/-!
# What a correlation holds under one key

The pair under a key is made of the records that claim the key on the two sides, and of nothing else
(`Correlation.get?_pairs`). So the records of a pair have the kinds of their sides, and the scope and the
normal form of the key (`Correlation.claims_of_orphan`).
-/

namespace OrphanWatch

/-- A record with a key claims it, unless it is a bound claim. -/
theorem Placement.of_eq_claims_iff {side : Side} {record : Record} {key : Key} :
    Placement.of side record = .claims key ↔
      record.kind.side = side ∧ Key.ofRecord? record = some key ∧ record.isBoundClaim = false := by
  unfold Placement.of
  by_cases hside : record.kind.side = side
  · cases hkey : Key.ofRecord? record with
    | none => simp [hside]
    | some other => cases hbound : record.isBoundClaim <;> simp [hside]
  · simp [hside]

def claiming (side : Side) (records : List Record) (key : Key) : List Record :=
  records.filter fun record => decide (Placement.of side record = .claims key)

theorem placement_of_mem_claiming {side : Side} {records : List Record} {key : Key} {record : Record}
    (hmem : record ∈ claiming side records key) : Placement.of side record = .claims key := by
  simpa using (List.mem_filter.1 hmem).2

theorem claiming_append (side : Side) (left right : List Record) (key : Key) :
    claiming side (left ++ right) key = claiming side left key ++ claiming side right key :=
  List.filter_append ..

theorem claimants_append_singleton (side : Side) (records : List Record) (record : Record) :
    claimants side (records ++ [record]) =
      match (Placement.of side record).claimedKey? with
      | some key => (claimants side records).adjust key fun group => group.getD [] ++ [record]
      | none => claimants side records := by
  rw [claimants, List.foldl_append]
  rfl

/-- A key has a group if some record claims it, and then the group is all of those records. -/
theorem get?_claimants (side : Side) (records : List Record) (key : Key) :
    (claimants side records).get? key =
      if claiming side records key = [] then none else some (claiming side records key) := by
  induction records using List.reverseRecOn with
  | nil => rfl
  | append_singleton before record ih =>
      have hgroup : ((claimants side before).get? key).getD [] = claiming side before key := by
        rw [ih]
        by_cases hnil : claiming side before key = [] <;> simp [hnil]
      rw [claimants_append_singleton, claiming_append]
      cases hplace : Placement.of side record with
      | unmatchable => simp [Placement.claimedKey?, ih, claiming, hplace]
      | settled other => simp [Placement.claimedKey?, ih, claiming, hplace]
      | claims other =>
          rw [Placement.claimedKey?]
          simp only
          rw [SortedMap.get?_adjust]
          by_cases heq : key = other
          · subst heq
            rw [if_pos rfl, hgroup]
            simp [claiming, hplace]
          · simp [heq, ih, claiming, hplace, Ne.symm heq]

/-- The group under a key holds its claimants, in the order of the listing. -/
theorem getD_get?_claimants (side : Side) (records : List Record) (key : Key) :
    ((claimants side records).get? key).getD [] = claiming side records key := by
  rw [get?_claimants]
  by_cases hnil : claiming side records key = [] <;> simp [hnil]

theorem mem_keys_claimants {side : Side} {records : List Record} {key : Key} :
    key ∈ (claimants side records).keys ↔ claiming side records key ≠ [] := by
  rw [SortedMap.mem_keys_iff, get?_claimants]
  by_cases hnil : claiming side records key = [] <;> simp [hnil]

namespace Correlation

/-- The pair under a key comes from the records that claim it. -/
theorem get?_pairs (cluster backend : List Record) (key : Key) :
    (of cluster backend).pairs.get? key =
      Pair.ofClaimants (claiming .cluster cluster key) (claiming .backend backend key) := by
  have hkeys : key ∈ (SortedMap.ofKeys ((claimants .cluster cluster).keys
        ++ (claimants .backend backend).keys) fun _ => some ()).keys ↔
      claiming .cluster cluster key ≠ [] ∨ claiming .backend backend key ≠ [] := by
    rw [← SortedMap.contains_eq_true_iff, SortedMap.contains_ofKeys, List.mem_append,
      mem_keys_claimants, mem_keys_claimants]
  simp only [of]
  rw [SortedMap.get?_ofKeys, getD_get?_claimants, getD_get?_claimants]
  simp only [hkeys]
  by_cases hcluster : claiming .cluster cluster key = []
  · by_cases hbackend : claiming .backend backend key = []
    · simp [hcluster, hbackend, Pair.ofClaimants]
    · simp [hbackend]
  · simp [hcluster]

/-- The record that a side holds alone claims the key on that side. -/
theorem claims_of_orphan {cluster backend : List Record} {key : Key} {pair : Pair}
    {side : OrphanSide} {record : Record}
    (hpair : (of cluster backend).pairs.get? key = some pair)
    (horphan : pair.orphan? = some (side, record)) :
    Placement.of side.holder record = .claims key := by
  rw [get?_pairs] at hpair
  cases pair with
  | healthy left right => cases horphan
  | clusterOnly alone =>
      cases horphan
      have hmem : record ∈ claiming .cluster cluster key := by
        unfold Pair.ofClaimants at hpair
        split at hpair <;> simp_all
      exact placement_of_mem_claiming hmem
  | backendOnly alone =>
      cases horphan
      have hmem : record ∈ claiming .backend backend key := by
        unfold Pair.ofClaimants at hpair
        split at hpair <;> simp_all
      exact placement_of_mem_claiming hmem

theorem collisionUnder_eq_some {side : Side} {records : List Record} {key : Key}
    {collision : KeyCollision}
    (hcollision : collisionUnder side (claimants side records) key = some collision) :
    collision.key = key ∧ 2 ≤ (claiming side records key).length := by
  rw [collisionUnder, get?_claimants] at hcollision
  cases hclaiming : claiming side records key with
  | nil => simp [hclaiming] at hcollision
  | cons first others =>
      cases others with
      | nil => simp [hclaiming] at hcollision
      | cons second rest =>
          rw [hclaiming] at hcollision
          simp only [reduceCtorEq, if_false, Option.some.injEq] at hcollision
          rw [← hcollision]
          exact ⟨rfl, by simp⟩

/-- A key that is excluded has no pair. -/
theorem excludedKeys_of_pair {cluster backend : List Record} {key : Key} {pair : Pair}
    (hpair : (of cluster backend).pairs.get? key = some pair) :
    (of cluster backend).excludedKeys.contains key = false := by
  rw [get?_pairs] at hpair
  have hfew : (claiming .cluster cluster key).length < 2
      ∧ (claiming .backend backend key).length < 2 := by
    unfold Pair.ofClaimants at hpair
    split at hpair <;> simp_all
  refine Bool.eq_false_iff.2 fun hexcluded => ?_
  rw [excludedKeys, SortedMap.contains_ofKeys] at hexcluded
  obtain ⟨collision, hmem, rfl⟩ := List.mem_map.1 hexcluded
  obtain ⟨other, -, hother⟩ := List.mem_flatMap.1 hmem
  rcases List.mem_append.1 hother with hcluster | hbackend
  · obtain ⟨rfl, hmany⟩ := collisionUnder_eq_some (Option.mem_toList.1 hcluster)
    exact absurd hmany (Nat.not_le.2 hfew.1)
  · obtain ⟨rfl, hmany⟩ := collisionUnder_eq_some (Option.mem_toList.1 hbackend)
    exact absurd hmany (Nat.not_le.2 hfew.2)

/-- A key that has a pair is the key of a listed record. -/
theorem mem_of_pair {cluster backend : List Record} {key : Key} {pair : Pair}
    (hpair : (of cluster backend).pairs.get? key = some pair) :
    ∃ record ∈ cluster ++ backend, Key.ofRecord? record = some key := by
  rw [get?_pairs] at hpair
  cases hcluster : claiming .cluster cluster key with
  | cons record rest =>
      have hmem : record ∈ claiming .cluster cluster key := by
        rw [hcluster]
        exact List.mem_cons_self
      have hclaims := Placement.of_eq_claims_iff.1 (placement_of_mem_claiming hmem)
      exact ⟨record, List.mem_append_left _ (List.mem_filter.1 hmem).1, hclaims.2.1⟩
  | nil =>
      cases hbackend : claiming .backend backend key with
      | cons record rest =>
          have hmem : record ∈ claiming .backend backend key := by
            rw [hbackend]
            exact List.mem_cons_self
          have hclaims := Placement.of_eq_claims_iff.1 (placement_of_mem_claiming hmem)
          exact ⟨record, List.mem_append_right _ (List.mem_filter.1 hmem).1, hclaims.2.1⟩
      | nil =>
          rw [hcluster, hbackend] at hpair
          cases hpair

end Correlation

end OrphanWatch
