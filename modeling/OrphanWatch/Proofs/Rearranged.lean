import Mathlib.Data.List.Forall2
import OrphanWatch.Proofs.Accounting
import OrphanWatch.Proofs.Scan

/-!
# The order of a listing and the spelling of keys

Two runs that differ only in the order in which their sources list the records, and in how the keys of the
records are spelled, find the same and report the same (`Engine.scanAll_of_rearranged`).

What a correlation holds is read from its records key by key, so it is the same up to the spelling that the
records of its pairs keep (`Correlation.unspelled_of_rearranged`), and nothing that comes after it reads the
spelling. The order counts in one place: the advice on large claims is sorted by their names, so claims of one
name would stay in the order of the listing.
-/

namespace OrphanWatch

/-! ### Stable sorting -/

section StableSort

variable {α : Type} {nameOf : α → String} {first second first' second' : List α}

def byName (nameOf : α → String) (a b : α) : Bool := decide (nameOf a ≤ nameOf b)

theorem byName_trans (a b c : α) (hab : byName nameOf a b = true) (hbc : byName nameOf b c = true) :
    byName nameOf a c = true := by
  simp only [byName, decide_eq_true_eq] at *
  exact String.le_trans hab hbc

theorem byName_total (a b : α) : (byName nameOf a b || byName nameOf b a) = true := by
  simpa [byName] using String.le_total (nameOf a) (nameOf b)

theorem pairwise_mergeSort_byName (items : List α) :
    (items.mergeSort (byName nameOf)).Pairwise fun a b => nameOf a ≤ nameOf b :=
  (List.pairwise_mergeSort byName_trans byName_total items).imp fun h => of_decide_eq_true h

/-- The items of one name stay in their order. -/
theorem filter_mergeSort_byName (items : List α) (name : String) :
    (items.mergeSort (byName nameOf)).filter (fun item => nameOf item == name) =
      items.filter fun item => nameOf item == name := by
  let tied := items.filter fun item => nameOf item == name
  have hname : ∀ item ∈ tied, nameOf item = name := fun item hitem =>
    eq_of_beq (List.mem_filter.1 hitem).2
  have hties : tied.Pairwise fun a b => byName nameOf a b = true := by
    apply List.pairwise_of_forall_mem_list
    intro a ha b hb
    rw [byName, hname a ha, hname b hb]
    exact decide_eq_true (String.le_refl name)
  have hsublist := List.sublist_mergeSort byName_trans byName_total hties List.filter_sublist
  have hkept := hsublist.filter fun item => nameOf item == name
  have hall : tied.filter (fun item => nameOf item == name) = tied :=
    List.filter_eq_self.2 fun item hitem => (List.mem_filter.1 hitem).2
  rw [hall] at hkept
  have hlength := ((List.mergeSort_perm items (byName nameOf)).filter fun item => nameOf item == name).length_eq
  exact (hkept.eq_of_length hlength.symm).symm

theorem mem_iff_of_filter_eq (hties : ∀ name, first.filter (fun item => nameOf item == name) =
      second.filter fun item => nameOf item == name) {item : α} : item ∈ first ↔ item ∈ second := by
  have hmem := congrArg (item ∈ ·) (hties (nameOf item))
  simpa using hmem

/-- A sorted list is known by its items of each name. -/
theorem eq_of_filter_eq (hfirst : first.Pairwise fun a b => nameOf a ≤ nameOf b)
    (hsecond : second.Pairwise fun a b => nameOf a ≤ nameOf b)
    (hties : ∀ name, first.filter (fun item => nameOf item == name) =
      second.filter fun item => nameOf item == name) : first = second := by
  induction first generalizing second with
  | nil =>
      cases second with
      | nil => rfl
      | cons other others =>
          exact absurd ((mem_iff_of_filter_eq hties).2 List.mem_cons_self) List.not_mem_nil
  | cons head rest ih =>
      cases second with
      | nil => exact absurd ((mem_iff_of_filter_eq hties).1 List.mem_cons_self) List.not_mem_nil
      | cons other others =>
          obtain ⟨hhead, hrest⟩ := List.pairwise_cons.1 hfirst
          obtain ⟨hother, hothers⟩ := List.pairwise_cons.1 hsecond
          have hle : nameOf head ≤ nameOf other := by
            rcases List.mem_cons.1 ((mem_iff_of_filter_eq hties).2 List.mem_cons_self) with rfl | hmem
            · exact String.le_refl _
            · exact hhead other hmem
          have hge : nameOf other ≤ nameOf head := by
            rcases List.mem_cons.1 ((mem_iff_of_filter_eq hties).1 List.mem_cons_self) with rfl | hmem
            · exact String.le_refl _
            · exact hother head hmem
          have hname : nameOf other = nameOf head := String.le_antisymm hge hle
          have heads := hties (nameOf head)
          simp only [List.filter_cons, hname, beq_self_eq_true, if_true] at heads
          obtain ⟨rfl, -⟩ := List.cons.inj heads
          have htail : rest = others := by
            apply ih hrest hothers
            intro name
            have htie := hties name
            by_cases hnamed : (nameOf head == name) = true
            · simp only [List.filter_cons, if_pos hnamed] at htie
              exact (List.cons.inj htie).2
            · simpa only [List.filter_cons, if_neg hnamed] using htie
          rw [htail]

theorem filter_eq_of_perm (hperm : first.Perm first')
    (hdistinct : first.Pairwise fun a b => nameOf a ≠ nameOf b) (name : String) :
    first.filter (fun item => nameOf item == name) = first'.filter fun item => nameOf item == name := by
  -- At most one item has the name, so there is only one order.
  have halone : ∀ {items : List α}, items.Pairwise (fun a b => nameOf a ≠ nameOf b) →
      (items.filter fun item => nameOf item == name).Pairwise fun _ _ => False := by
    intro items hitems
    refine (hitems.filter _).imp_of_mem fun {a b} ha hb hne => hne ?_
    rw [eq_of_beq (List.mem_filter.1 ha).2, eq_of_beq (List.mem_filter.1 hb).2]
  have hdistinct' : first'.Pairwise fun a b => nameOf a ≠ nameOf b :=
    (hperm.pairwise_iff fun hne heq => hne heq.symm).1 hdistinct
  exact (hperm.filter _).eq_of_pairwise (fun _ _ _ _ habsurd => habsurd.elim) (halone hdistinct)
    (halone hdistinct')

/-- The items of each half may come in any order if their names are distinct within the half. -/
theorem mergeSort_append_eq (hfirst : first.Perm first') (hsecond : second.Perm second')
    (hdistinct : first.Pairwise fun a b => nameOf a ≠ nameOf b)
    (hdistinct' : second.Pairwise fun a b => nameOf a ≠ nameOf b) :
    (first ++ second).mergeSort (byName nameOf) = (first' ++ second').mergeSort (byName nameOf) := by
  apply eq_of_filter_eq (pairwise_mergeSort_byName _) (pairwise_mergeSort_byName _)
  intro name
  rw [filter_mergeSort_byName, filter_mergeSort_byName, List.filter_append, List.filter_append,
    filter_eq_of_perm hfirst hdistinct, filter_eq_of_perm hsecond hdistinct']

end StableSort

theorem sortedTexts_eq_of_perm {texts texts' : List String} (hperm : texts.Perm texts') :
    sortedTexts texts = sortedTexts texts' := by
  apply List.Perm.eq_of_pairwise (fun a b _ _ => String.le_antisymm) (pairwise_sortedTexts texts)
    (pairwise_sortedTexts texts')
  exact ((List.mergeSort_perm texts _).trans hperm).trans (List.mergeSort_perm texts' _).symm

/-! ### Listings -/

def Record.respelled (record : Record) (raw : Option String) : Record :=
  { record with rawKey := raw }

/-- The same record with the same key, or just as unusable, from another raw key. -/
def Record.Respells (record other : Record) : Prop :=
  ∃ raw, other = record.respelled raw ∧ Key.ofRecord? other = Key.ofRecord? record

/-- The records in another order, each of them as it was or respelled. -/
def Rearranged (records others : List Record) : Prop :=
  ∃ middle, records.Perm middle ∧ List.Forall₂ Record.Respells middle others

def IgnoresSpelling {β : Type} (f : Record → β) : Prop :=
  ∀ record other, record.Respells other → f other = f record

/-- Of all kinds but claims, the raw key may be any with the same normal form. -/
theorem Record.respells_respelled {record : Record} {raw : Option String}
    (hkind : record.kind ≠ .volumeClaim)
    (hraw : raw.bind (Key.normalize record.kind.scope) =
      record.rawKey.bind (Key.normalize record.kind.scope)) : record.Respells (record.respelled raw) := by
  obtain ⟨kind, nativeId, rawKey, createdAt, sizeBytes, status, attributes⟩ := record
  refine ⟨raw, rfl, ?_⟩
  cases kind with
  | volumeClaim => exact absurd rfl hkind
  | volume => exact hraw
  | snapshot => exact hraw
  | backendVolume => exact hraw
  | backendSnapshot => exact hraw

theorem Record.Respells.refl (record : Record) : record.Respells record :=
  ⟨record.rawKey, rfl, rfl⟩

theorem ignoresSpelling_of_respelled {β : Type} {f : Record → β}
    (hf : ∀ record raw, f (record.respelled raw) = f record) : IgnoresSpelling f := by
  rintro record _ ⟨raw, rfl, -⟩
  exact hf record raw

/-- What a record counts as does not depend on how its key is spelled. -/
theorem ignoresSpelling_placement (side : Side) : IgnoresSpelling (Placement.of side) := by
  rintro record _ ⟨raw, rfl, hkey⟩
  rw [Placement.of, Placement.of, hkey]
  rfl

namespace Rearranged

variable {records others : List Record} {β : Type}

theorem map_perm (h : Rearranged records others) {f : Record → β} (hf : IgnoresSpelling f) :
    (records.map f).Perm (others.map f) := by
  obtain ⟨middle, hperm, hrespelled⟩ := h
  refine (hperm.map f).trans (.of_eq ?_)
  clear hperm
  induction hrespelled with
  | nil => rfl
  | cons hhead _ ih => rw [List.map_cons, List.map_cons, hf _ _ hhead, ih]

theorem filter (h : Rearranged records others) {p : Record → Bool} (hp : IgnoresSpelling p) :
    Rearranged (records.filter p) (others.filter p) := by
  obtain ⟨middle, hperm, hrespelled⟩ := h
  refine ⟨middle.filter p, hperm.filter p, List.rel_filter ?_ hrespelled⟩
  intro record other hother
  simp only [hp record other hother]

theorem append {records' others' : List Record} (h : Rearranged records others)
    (h' : Rearranged records' others') : Rearranged (records ++ records') (others ++ others') := by
  obtain ⟨middle, hperm, hrespelled⟩ := h
  obtain ⟨middle', hperm', hrespelled'⟩ := h'
  exact ⟨middle ++ middle', hperm.append hperm', List.rel_append hrespelled hrespelled'⟩

theorem length_eq (h : Rearranged records others) : records.length = others.length := by
  obtain ⟨middle, hperm, hrespelled⟩ := h
  rw [hperm.length_eq, hrespelled.length_eq]

end Rearranged

/-! ### What is correlated -/

def Pair.unspelled : Pair → Pair
  | healthy cluster backend => healthy (cluster.respelled none) (backend.respelled none)
  | clusterOnly record => clusterOnly (record.respelled none)
  | backendOnly record => backendOnly (record.respelled none)

/-- The correlation without the spelling that the records of its pairs keep. -/
def Correlation.unspelled (correlation : Correlation) : Correlation :=
  { correlation with pairs := correlation.pairs.mapValues fun _ pair => pair.unspelled }

theorem Pair.map_unspelled_ofClaimants (cluster backend : List Record) :
    (ofClaimants cluster backend).map unspelled =
      ofClaimants (cluster.map fun record => record.respelled none)
        (backend.map fun record => record.respelled none) := by
  match cluster, backend with
  | [], [] => rfl
  | [_], [] => rfl
  | [], [_] => rfl
  | [_], [_] => rfl
  | _ :: _ :: _, _ => rfl
  | [], _ :: _ :: _ => rfl
  | [_], _ :: _ :: _ => rfl

theorem Pair.ofClaimants_eq_of_perm {cluster cluster' backend backend' : List Record}
    (hcluster : cluster.Perm cluster') (hbackend : backend.Perm backend') :
    ofClaimants cluster backend = ofClaimants cluster' backend' := by
  have hmap : ∀ {records others : List Record} {found : Option Record},
      records.Perm others → (found.toList = records ↔ found.toList = others) := by
    intro records others found hperm
    cases found with
    | none =>
        constructor
        · rintro rfl
          exact hperm.nil_eq
        · rintro rfl
          exact hperm.symm.nil_eq
    | some record =>
        constructor
        · rintro rfl
          exact (List.perm_singleton.1 hperm.symm).symm
        · rintro rfl
          exact (List.perm_singleton.1 hperm).symm
  apply Option.ext
  intro pair
  rw [ofClaimants_eq_some_iff, ofClaimants_eq_some_iff, hmap hcluster, hmap hbackend]

theorem Correlation.countKinds_eq_of_perm {records others : List Record}
    (hperm : (records.map (·.kind)).Perm (others.map (·.kind))) :
    countKinds records = countKinds others := by
  have hcount : ∀ kind, records.countP (·.kind == kind) = others.countP (·.kind == kind) := by
    intro kind
    have hkinds := hperm.countP_eq (· == kind)
    rwa [List.countP_map, List.countP_map] at hkinds
  apply SortedMap.ext_get?
  intro kind
  rw [get?_countKinds, get?_countKinds, hcount]

/-- The claimants of a key are rearranged as the listing is. -/
theorem rearranged_claiming {records others : List Record} (h : Rearranged records others) (side : Side)
    (key : Key) : Rearranged (claiming side records key) (claiming side others key) := by
  apply h.filter
  intro record other hother
  simp only [ignoresSpelling_placement side record other hother]

theorem mem_keys_claimants_iff {records others : List Record} (h : Rearranged records others)
    {side : Side} {key : Key} :
    key ∈ (claimants side records).keys ↔ key ∈ (claimants side others).keys := by
  rw [mem_keys_claimants, mem_keys_claimants, ← List.length_pos_iff, ← List.length_pos_iff,
    (rearranged_claiming h side key).length_eq]

/-- A collision is the same in every order and spelling. -/
theorem collisionUnder_eq {records others : List Record} (h : Rearranged records others) (side : Side)
    (key : Key) :
    Correlation.collisionUnder side (claimants side records) key =
      Correlation.collisionUnder side (claimants side others) key := by
  have hclaiming := rearranged_claiming h side key
  have hids := hclaiming.map_perm (ignoresSpelling_of_respelled (f := (·.nativeId)) fun _ _ => rfl)
  rw [Correlation.collisionUnder_claimants, Correlation.collisionUnder_claimants, hclaiming.length_eq,
    sortedTexts_eq_of_perm hids]

namespace Correlation

variable {cluster backend cluster' backend' : List Record}

theorem placed_perm (hcluster : Rearranged cluster cluster') (hbackend : Rearranged backend backend') :
    ((placed cluster backend).map fun entry => (entry.1, entry.2.kind)).Perm
      ((placed cluster' backend').map fun entry => (entry.1, entry.2.kind)) := by
  have hignores : ∀ side, IgnoresSpelling fun record => (Placement.of side record, record.kind) := by
    intro side record other hother
    simp only [ignoresSpelling_placement side record other hother]
    obtain ⟨raw, rfl, -⟩ := hother
    rfl
  simp only [placed, List.map_append, List.map_map]
  exact (hcluster.map_perm (hignores .cluster)).append (hbackend.map_perm (hignores .backend))

theorem countKinds_placed_eq (hcluster : Rearranged cluster cluster')
    (hbackend : Rearranged backend backend') (p : Placement → Bool) :
    countKinds (((placed cluster backend).filter (p ·.1)).map (·.2)) =
      countKinds (((placed cluster' backend').filter (p ·.1)).map (·.2)) := by
  apply countKinds_eq_of_perm
  have hkinds := ((placed_perm hcluster hbackend).filter fun entry => p entry.1).map (·.2)
  simpa only [List.filter_map, List.map_map, Function.comp_def] using hkinds

/-- The order of the records and their spelling leave a trace only in the records of the pairs. -/
theorem unspelled_of_rearranged (hcluster : Rearranged cluster cluster')
    (hbackend : Rearranged backend backend') :
    (of cluster backend).unspelled = (of cluster' backend').unspelled := by
  have hpairs : (of cluster backend).unspelled.pairs = (of cluster' backend').unspelled.pairs := by
    have hrecords : ∀ {records others : List Record} (side key), Rearranged records others →
        ((claiming side records key).map fun record => record.respelled none).Perm
          ((claiming side others key).map fun record => record.respelled none) :=
      fun side key h => (rearranged_claiming h side key).map_perm
        (ignoresSpelling_of_respelled fun _ _ => rfl)
    apply SortedMap.ext_get?
    intro key
    rw [unspelled, unspelled, SortedMap.get?_mapValues, SortedMap.get?_mapValues, get?_pairs, get?_pairs,
      Pair.map_unspelled_ofClaimants, Pair.map_unspelled_ofClaimants]
    exact Pair.ofClaimants_eq_of_perm (hrecords .cluster key hcluster) (hrecords .backend key hbackend)
  have hsettled : (of cluster backend).settled = (of cluster' backend').settled := by
    have hperm := ((placed_perm hcluster hbackend).map (·.1)).filterMap Placement.settledKey?
    simp only [List.map_map, List.filterMap_map] at hperm
    apply SortedMap.ext_get?
    intro key
    simp only [of, SortedMap.get?_ofKeys]
    exact if_congr hperm.mem_iff rfl rfl
  have hkeys : (SortedMap.ofKeys ((claimants .cluster cluster).keys ++ (claimants .backend backend).keys)
        fun _ => some ()) =
      SortedMap.ofKeys ((claimants .cluster cluster').keys ++ (claimants .backend backend').keys)
        fun _ => some () := by
    apply SortedMap.ext_get?
    intro key
    simp only [SortedMap.get?_ofKeys, List.mem_append, mem_keys_claimants_iff hcluster,
      mem_keys_claimants_iff hbackend]
  have hcollisions : (of cluster backend).collisions = (of cluster' backend').collisions := by
    simp only [of, hkeys, collisionUnder_eq hcluster, collisionUnder_eq hbackend]
  have hunmatchable := countKinds_placed_eq hcluster hbackend Placement.isUnmatchable
  have huncorrelated := countKinds_placed_eq hcluster hbackend Placement.isSettled
  simp only [unspelled, mk.injEq] at hpairs ⊢
  exact ⟨hpairs, hunmatchable, huncorrelated, hsettled, hcollisions⟩

end Correlation

/-! ### What is made of it -/

theorem Correlation.healthyCount_unspelled (correlation : Correlation) :
    correlation.unspelled.healthyCount = correlation.healthyCount := by
  have hhealthy : ∀ pair : Pair, pair.unspelled.isHealthy = pair.isHealthy := by
    intro pair
    cases pair <;> rfl
  simp only [healthyCount, unspelled, SortedMap.values, SortedMap.mapValues, List.map_map, List.filter_map,
    List.length_map, Function.comp_def, hhealthy]

namespace Classification

theorem applyPair_unspelled (round : Round) (state : Classification) (entry : Key × Pair) :
    state.applyPair round (entry.1, entry.2.unspelled) = state.applyPair round entry := by
  obtain ⟨key, pair⟩ := entry
  cases pair <;> rfl

/-- A classification does not see how keys are spelled. -/
theorem run_unspelled (round : Round) (skipped : List Scope) (correlation : Correlation)
    (candidates : SortedMap Key Candidate) :
    run round skipped correlation.unspelled candidates = run round skipped correlation candidates := by
  have hpaired : ∀ state, correlation.unspelled.pairs.toList.foldl (applyPair round) state =
      correlation.pairs.toList.foldl (applyPair round) state := by
    intro state
    simp only [Correlation.unspelled, SortedMap.mapValues, List.foldl_map, applyPair_unspelled]
  have hgone : isGone correlation.unspelled skipped = isGone correlation skipped := by
    funext key
    have hcontains : correlation.unspelled.pairs.contains key = correlation.pairs.contains key := by
      rw [Correlation.unspelled, SortedMap.contains, SortedMap.get?_mapValues, Option.isSome_map,
        SortedMap.contains]
    simp only [isGone, hcontains]
    rfl
  simp only [run, hpaired, hgone]
  rfl

end Classification

def Record.isLargeClaim (record : Record) : Bool :=
  record.kind == .volumeClaim && Usage.largeClaimBytes < record.sizeBytes

def Inventory.NamesLargeClaims (inventory : Inventory) : Prop :=
  (inventory.records.filter (·.isLargeClaim)).Pairwise fun a b => a.nativeId ≠ b.nativeId

namespace Usage

theorem countOf_eq {records others : List Record} (h : Rearranged records others) (kind : Kind) :
    countOf kind records = countOf kind others :=
  (h.filter (ignoresSpelling_of_respelled fun _ _ => rfl)).length_eq

/-- Bytes are added up in any order, even where the sum wraps around. -/
theorem bytesOf_eq {records others : List Record} (h : Rearranged records others) (kind : Kind) :
    bytesOf kind records = bytesOf kind others := by
  have hkind := h.filter (p := (·.kind == kind)) (ignoresSpelling_of_respelled fun _ _ => rfl)
  have hsizes : (sizesOf kind records).Perm (sizesOf kind others) :=
    hkind.map_perm (ignoresSpelling_of_respelled fun _ _ => rfl)
  have htotal : total (sizesOf kind records) = total (sizesOf kind others) := hsizes.sum_eq
  rw [bytesOf, wrappedTotal_eq, htotal, ← wrappedTotal_eq, bytesOf]

theorem map_claimAdvice_largeClaims (records : List Record) :
    (largeClaims records).map claimAdvice =
      (((records.filter (·.isLargeClaim)).map fun claim => claim.respelled none).mergeSort
        (byName (·.nativeId))).map claimAdvice := by
  calc (largeClaims records).map claimAdvice
      = ((largeClaims records).map fun claim => claim.respelled none).map claimAdvice := by
        rw [List.map_map]
        rfl
    _ = (((records.filter (·.isLargeClaim)).map fun claim => claim.respelled none).mergeSort
          (byName (·.nativeId))).map claimAdvice := by
        congr 1
        exact List.map_mergeSort fun _ _ _ _ => rfl

/-- The advice on large claims is the same in every order, if they have names of their own. -/
theorem largeClaims_advice_eq {cluster backend cluster' backend' : Inventory}
    (hcluster : Rearranged cluster.records cluster'.records)
    (hbackend : Rearranged backend.records backend'.records) (hnamed : cluster.NamesLargeClaims)
    (hnamed' : backend.NamesLargeClaims) :
    (largeClaims (cluster.records ++ backend.records)).map claimAdvice =
      (largeClaims (cluster'.records ++ backend'.records)).map claimAdvice := by
  have hperm : ∀ {records others : List Record}, Rearranged records others →
      ((records.filter (·.isLargeClaim)).map fun claim => claim.respelled none).Perm
        ((others.filter (·.isLargeClaim)).map fun claim => claim.respelled none) :=
    fun h => (h.filter (ignoresSpelling_of_respelled fun _ _ => rfl)).map_perm
      (ignoresSpelling_of_respelled fun _ _ => rfl)
  have hdistinct : ∀ {inventory : Inventory}, inventory.NamesLargeClaims →
      ((inventory.records.filter (·.isLargeClaim)).map fun claim => claim.respelled none).Pairwise
        fun a b => a.nativeId ≠ b.nativeId :=
    fun h => List.pairwise_map.2 h
  rw [map_claimAdvice_largeClaims, map_claimAdvice_largeClaims, List.filter_append, List.filter_append,
    List.map_append, List.map_append,
    mergeSort_append_eq (hperm hcluster) (hperm hbackend) (hdistinct hnamed) (hdistinct hnamed')]

/-- The account of two inventories does not depend on their order and spelling. -/
theorem measure_eq (generation : Nat) (measuredAt : Instant) (candidates : List Candidate)
    {cluster backend cluster' backend' : Inventory}
    (hcluster : Rearranged cluster.records cluster'.records)
    (hbackend : Rearranged backend.records backend'.records) (hnamed : cluster.NamesLargeClaims)
    (hnamed' : backend.NamesLargeClaims) :
    measure generation measuredAt cluster.records backend.records candidates =
      measure generation measuredAt cluster'.records backend'.records candidates := by
  have hboth := hcluster.append hbackend
  simp only [measure, countOf_eq hboth, bytesOf_eq hboth,
    largeClaims_advice_eq hcluster hbackend hnamed hnamed']

end Usage

/-! ### Cycles and runs -/

structure Inventory.Rearranges (inventory other : Inventory) : Prop where
  records : Rearranged inventory.records other.records
  unlisted : inventory.unlisted = other.unlisted

inductive Fetch.Rearranges : Fetch → Fetch → Prop
  | fetched {inventory other : Inventory} (h : inventory.Rearranges other) :
      Rearranges (.fetched inventory) (.fetched other)
  | failed (error : MonitorError) : Rearranges (.failed error) (.failed error)
  | cancelled : Rearranges .cancelled .cancelled

structure Scan.Rearranges (scan other : Scan) : Prop where
  now : scan.now = other.now
  cluster : scan.cluster.Rearranges other.cluster
  backend : scan.backend.Rearranges other.backend
  cancelled : scan.cancelled = other.cancelled
  elapsed : scan.elapsed = other.elapsed

def Fetch.NamesLargeClaims (fetch : Fetch) : Prop :=
  ∀ inventory, fetch = .fetched inventory → inventory.NamesLargeClaims

theorem Fetch.Rearranges.status_eq {fetch other : Fetch} (h : fetch.Rearranges other) (side : Side)
    (name : String) : fetch.status side name = other.status side name := by
  cases h with
  | fetched h => rw [status, status, h.records.length_eq, h.unlisted]
  | failed error => rfl
  | cancelled => rfl

theorem Fetch.Rearranges.failure?_eq {fetch other : Fetch} (h : fetch.Rearranges other) :
    fetch.failure? = other.failure? := by
  cases h <;> rfl

section Cycle

variable {cluster backend cluster' backend' : Inventory}

theorem skippedScopes_eq (hcluster : cluster.Rearranges cluster') (hbackend : backend.Rearranges backend') :
    skippedScopes cluster backend = skippedScopes cluster' backend' := by
  rw [skippedScopes, skippedScopes, hcluster.unlisted, hbackend.unlisted]

theorem Attempt.unspelled_correlation_eq (hcluster : cluster.Rearranges cluster')
    (hbackend : backend.Rearranges backend') :
    (correlation cluster backend).unspelled = (correlation cluster' backend').unspelled := by
  have hobserved : ∀ {inventory other : Inventory} (skipped), inventory.Rearranges other →
      Rearranged (inventory.observed skipped) (other.observed skipped) :=
    fun skipped h => h.records.filter (ignoresSpelling_of_respelled fun _ _ => rfl)
  rw [correlation, correlation, skippedScopes_eq hcluster hbackend]
  exact Correlation.unspelled_of_rearranged (hobserved _ hcluster) (hobserved _ hbackend)

theorem Attempt.classify_eq (attempt : Attempt) (policy : Policy) (retention : Int)
    (hcluster : cluster.Rearranges cluster') (hbackend : backend.Rearranges backend') :
    attempt.classify policy retention cluster backend =
      attempt.classify policy retention cluster' backend' := by
  rw [classify, classify, ← Classification.run_unspelled, unspelled_correlation_eq hcluster hbackend,
    Classification.run_unspelled, skippedScopes_eq hcluster hbackend]

/-- The proposal of an attempt does not depend on order and spelling. -/
theorem Attempt.propose_eq (attempt : Attempt) (policy : Policy) (retention : Int) (names : SourceNames)
    (elapsed : Nat) (hcluster : cluster.Rearranges cluster') (hbackend : backend.Rearranges backend')
    (hnamed : cluster.NamesLargeClaims) (hnamed' : backend.NamesLargeClaims) :
    attempt.propose policy retention names cluster backend elapsed =
      attempt.propose policy retention names cluster' backend' elapsed := by
  have hcorrelation := unspelled_correlation_eq hcluster hbackend
  have hhealthy : (correlation cluster backend).healthyCount =
      (correlation cluster' backend').healthyCount := by
    rw [← Correlation.healthyCount_unspelled, hcorrelation, Correlation.healthyCount_unspelled]
  have hanomalies : (correlation cluster backend).anomalies =
      (correlation cluster' backend').anomalies := by
    have hunspelled := congrArg Correlation.anomalies hcorrelation
    exact hunspelled
  have huncorrelated : (correlation cluster backend).uncorrelated =
      (correlation cluster' backend').uncorrelated := by
    have hunspelled := congrArg Correlation.uncorrelated hcorrelation
    exact hunspelled
  have hclassify := attempt.classify_eq policy retention hcluster hbackend
  have husage := fun generation measuredAt candidates =>
    Usage.measure_eq generation measuredAt candidates hcluster.records hbackend.records hnamed hnamed'
  have hcluster' := (Fetch.Rearranges.fetched hcluster).status_eq .cluster names.cluster
  have hbackend' := (Fetch.Rearranges.fetched hbackend).status_eq .backend names.backend
  simp only [propose, hclassify, husage, hhealthy, hanomalies, huncorrelated, hcluster', hbackend',
    skippedScopes_eq hcluster hbackend]

end Cycle

namespace Engine

theorem conclude_eq (engine : Engine) (attempt : Attempt) {cluster backend cluster' backend' : Fetch}
    (cancelled : Bool) (elapsed : Nat) (hcluster : cluster.Rearranges cluster')
    (hbackend : backend.Rearranges backend') (hnamed : cluster.NamesLargeClaims)
    (hnamed' : backend.NamesLargeClaims) :
    engine.conclude attempt cluster backend cancelled elapsed =
      engine.conclude attempt cluster' backend' cancelled elapsed := by
  have hdegraded : attempt.degradedReport engine.names cluster backend engine.store.snapshot elapsed =
      attempt.degradedReport engine.names cluster' backend' engine.store.snapshot elapsed := by
    simp only [Attempt.degradedReport, hcluster.status_eq, hbackend.status_eq, hcluster.failure?_eq,
      hbackend.failure?_eq]
  cases hcluster with
  | cancelled => rfl
  | failed error =>
      cases hbackend with
      | cancelled => rfl
      | failed other => rfl
      | fetched hright => exact congrArg engine.close hdegraded
  | fetched hleft =>
      cases hbackend with
      | cancelled => rfl
      | failed error => exact congrArg engine.close hdegraded
      | fetched hright =>
          have hpropose := attempt.propose_eq engine.policy engine.retention engine.names elapsed hleft hright
            (hnamed _ rfl) (hnamed' _ rfl)
          simp only [conclude, propose, hpropose]

theorem scan_eq_of_rearranges (engine : Engine) {scan other : Scan} (h : scan.Rearranges other)
    (hnamed : scan.cluster.NamesLargeClaims) (hnamed' : scan.backend.NamesLargeClaims) :
    engine.scan scan = engine.scan other := by
  rw [Engine.scan, Engine.scan, ← h.now, ← h.cancelled, ← h.elapsed]
  exact conclude_eq _ _ _ _ h.cluster h.backend hnamed hnamed'

/-- **Findings depend neither on the order of a listing nor on the spelling of keys.** Two runs over rearranged
inventories leave the same engine after every cycle and give the same reports. -/
theorem scanAll_of_rearranged (engine : Engine) {scans others : List Scan}
    (hrearranged : List.Forall₂ Scan.Rearranges scans others)
    (hnamed : ∀ scan ∈ scans, scan.cluster.NamesLargeClaims ∧ scan.backend.NamesLargeClaims) :
    (∀ n, engine.scanAll (scans.take n) = engine.scanAll (others.take n))
      ∧ engine.results scans = engine.results others := by
  induction hrearranged generalizing engine with
  | nil => exact ⟨fun _ => by rw [List.take_nil], rfl⟩
  | @cons scan other scans others hscan _ ih =>
      obtain ⟨hcluster, hbackend⟩ := hnamed scan List.mem_cons_self
      have hsame := engine.scan_eq_of_rearranges hscan hcluster hbackend
      obtain ⟨hrun, hresults⟩ := ih (engine.scan scan).1 fun later hlater =>
        hnamed later (List.mem_cons_of_mem _ hlater)
      constructor
      · intro n
        cases n with
        | zero => rfl
        | succ n =>
            rw [List.take_succ_cons, List.take_succ_cons, scanAll_cons, scanAll_cons, ← hsame]
            exact hrun n
      · rw [results, results, ← hsame, hresults]

/-- A volume under another spelling of its key, and two large claims that change places. -/
theorem scanAll_of_respelled_volume :
    let volume : Record := { Record.named .volume "pv" with rawKey := some " Tank/A " }
    let first : Record := { Record.named .volumeClaim "ns/a" with sizeBytes := 101 * Usage.gibibyte }
    let second : Record := { Record.named .volumeClaim "ns/b" with sizeBytes := 102 * Usage.gibibyte }
    let scan : Scan := .complete ⟨1, 0⟩ [volume, second, first]
    let other : Scan := .complete ⟨1, 0⟩ [first, volume.respelled (some "tank/a"), second]
    scan.Rearranges other
      ∧ (ofPolicy ⟨1, 0⟩ 0).scanAll [scan] = (ofPolicy ⟨1, 0⟩ 0).scanAll [other]
      ∧ (ofPolicy ⟨1, 0⟩ 0).results [scan] = (ofPolicy ⟨1, 0⟩ 0).results [other] := by
  intro volume first second scan other
  have hdistinct : (Inventory.ofAnswers .cluster scan.answer).NamesLargeClaims
      ∧ (Inventory.ofAnswers .backend scan.answer).NamesLargeClaims := by
    unfold Inventory.NamesLargeClaims
    decide +kernel +revert
  have hnamed : ∀ later ∈ [scan], later.cluster.NamesLargeClaims ∧ later.backend.NamesLargeClaims := by
    intro later hmem
    rw [List.mem_singleton.1 hmem]
    constructor
    · rintro _ ⟨⟩
      exact hdistinct.1
    · rintro _ ⟨⟩
      exact hdistinct.2
  have hvolume : volume.Respells (volume.respelled (some "tank/a")) :=
    Record.respells_respelled (by decide) (by decide +kernel)
  have hlisted : Rearranged [volume, second, first] [volume.respelled (some "tank/a"), first, second] :=
    ⟨[volume, first, second], .cons _ (.swap _ _ _),
      .cons hvolume (.cons (.refl first) (.cons (.refl second) .nil))⟩
  have hrearranges : scan.Rearranges other :=
    ⟨rfl, .fetched ⟨hlisted, rfl⟩, .fetched ⟨⟨[], .nil, .nil⟩, rfl⟩, rfl, rfl⟩
  obtain ⟨hrun, hresults⟩ := scanAll_of_rearranged (ofPolicy ⟨1, 0⟩ 0)
    (List.Forall₂.cons hrearranges .nil) hnamed
  exact ⟨hrearranges, hrun 1, hresults⟩

end Engine

end OrphanWatch
