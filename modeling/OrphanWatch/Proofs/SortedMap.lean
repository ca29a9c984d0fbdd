import Mathlib.Data.List.Induction
import OrphanWatch.SortedMap

/-!
# Look-ups in sorted maps

What `adjust`, `ofKeys`, `keys` and `values` do to the look-ups of a map, and the principle by which a
pass over distinct keys is understood one key at a time (`look_foldl_of_mem`, `look_foldl_of_forall_ne`).
-/

namespace OrphanWatch.SortedMap

universe u v w

variable {κ : Type u} {α : Type v} [Ord κ] [Std.TransOrd κ] [Std.LawfulEqOrd κ] [DecidableEq κ]

theorem get?_insert_eq_ite (m : SortedMap κ α) (key other : κ) (value : α) :
    (m.insert key value).get? other = if other = key then some value else m.get? other := by
  rw [get?_insert]
  simp only [Std.LawfulEqCmp.compare_eq_iff_eq]

theorem get?_adjust (m : SortedMap κ α) (key other : κ) (f : Option α → α) :
    (m.adjust key f).get? other = if other = key then some (f (m.get? key)) else m.get? other :=
  get?_insert_eq_ite m key other _

omit [DecidableEq κ] in
theorem ofKeys_append_singleton (keys : List κ) (f : κ → Option α) (key : κ) :
    ofKeys (keys ++ [key]) f = (f key).elim (ofKeys keys f) ((ofKeys keys f).insert key) := by
  rw [ofKeys, List.foldl_append]
  cases hvalue : f key <;> simp [ofKeys, hvalue]

omit [DecidableEq κ] in
theorem ofList_append_singleton (entries : List (κ × α)) (entry : κ × α) :
    ofList (entries ++ [entry]) = (ofList entries).insert entry.1 entry.2 := by
  rw [ofList, List.foldl_append]
  rfl

theorem get?_ofList_eq_some_iff {entries : List (κ × α)} (hnodup : (entries.map Prod.fst).Nodup)
    {key : κ} {value : α} : (ofList entries).get? key = some value ↔ (key, value) ∈ entries := by
  induction entries using List.reverseRecOn with
  | nil => simp [ofList]
  | append_singleton before last ih =>
      rw [List.map_append, List.nodup_append] at hnodup
      obtain ⟨hbefore, -, happart⟩ := hnodup
      rw [ofList_append_singleton, get?_insert_eq_ite, List.mem_append, List.mem_singleton]
      by_cases heq : key = last.1
      · have hnew : (key, value) ∉ before := fun hmem =>
          happart key (List.mem_map_of_mem hmem) last.1 (List.mem_singleton_self _) heq
        rw [if_pos heq, or_iff_right hnew, Prod.ext_iff, Option.some_inj]
        exact ⟨fun hvalue => ⟨heq, hvalue.symm⟩, fun hentry => hentry.2.symm⟩
      · have hother : (key, value) ≠ last := fun hentry => heq (congrArg Prod.fst hentry)
        rw [if_neg heq, or_iff_left hother]
        exact ih hbefore

/-- Of a key that is listed several times it does not matter which listing counts: the value depends on
the key alone. -/
theorem get?_ofKeys (keys : List κ) (f : κ → Option α) (key : κ) :
    (ofKeys keys f).get? key = if key ∈ keys then f key else none := by
  induction keys using List.reverseRecOn with
  | nil => rfl
  | append_singleton before last ih =>
      rw [ofKeys_append_singleton]
      by_cases heq : key = last
      · subst heq
        cases hvalue : f key <;> simp [ih, hvalue]
      · cases f last <;> simp [ih, heq, get?_insert_eq_ite]

omit [Std.TransOrd κ] [DecidableEq κ] in
theorem contains_eq_true_iff {m : SortedMap κ α} {key : κ} :
    m.contains key = true ↔ key ∈ m.keys := by
  rw [contains, Option.isSome_iff_exists, mem_keys_iff]

omit [Std.TransOrd κ] [DecidableEq κ] in
theorem contains_eq_false_iff {m : SortedMap κ α} {key : κ} :
    m.contains key = false ↔ key ∉ m.keys := by
  rw [Bool.eq_false_iff, Ne, contains_eq_true_iff]

omit [Std.TransOrd κ] [DecidableEq κ] in
theorem get?_eq_none_iff {m : SortedMap κ α} {key : κ} : m.get? key = none ↔ key ∉ m.keys := by
  rw [← contains_eq_false_iff, contains, Option.isSome_eq_false_iff, Option.isNone_iff_eq_none]

theorem contains_ofKeys (keys : List κ) (key : κ) :
    (ofKeys keys fun _ => some ()).contains key = true ↔ key ∈ keys := by
  rw [contains, get?_ofKeys]
  by_cases hmem : key ∈ keys <;> simp [hmem]

omit [Std.TransOrd κ] [DecidableEq κ] in
/-- No key of a map comes up twice. -/
theorem nodup_keys (m : SortedMap κ α) : m.keys.Nodup := by
  rw [keys, List.Nodup, List.pairwise_map]
  refine m.ascending.imp fun {a b} hlt heq => ?_
  have heq' : compare a.1 b.1 = .eq := Std.LawfulEqCmp.compare_eq_iff_eq.2 heq
  rw [heq'] at hlt
  cases hlt

omit [Std.TransOrd κ] [DecidableEq κ] in
/-- Entries of two maps can be counted by their keys. -/
theorem countP_toList_eq {β : Type w} {m : SortedMap κ α} {n : SortedMap κ β} {p : κ → α → Bool}
    {q : κ → β → Bool}
    (hsame : ∀ key, (∃ value, m.get? key = some value ∧ p key value = true) ↔
      ∃ value, n.get? key = some value ∧ q key value = true) :
    (m.toList.countP fun entry => p entry.1 entry.2) = n.toList.countP fun entry => q entry.1 entry.2 := by
  have hkeys : (m.filter p).keys.Perm (n.filter q).keys := by
    refine (List.perm_ext_iff_of_nodup (nodup_keys _) (nodup_keys _)).2 fun key => ?_
    simp only [mem_keys_iff, get?_filter, Option.filter_eq_some_iff]
    exact hsame key
  have hlength := hkeys.length_eq
  simpa only [keys, filter, List.length_map, ← List.countP_eq_length_filter] using hlength

/-! ### Passes over distinct keys

`step` treats one item and changes what `look` shows of the state under the item's key alone. It does so as
long as the state satisfies `p`, which the steps keep up. If the items have distinct keys, a whole pass changes
each key once. -/

section Pass

variable {σ ι : Type w} {τ : Type v} {look : σ → κ → τ} {step : σ → ι → σ} {keyOf : ι → κ}
  {effect : ι → τ → τ} {p : σ → Prop}

omit [Ord κ] [Std.TransOrd κ] [Std.LawfulEqOrd κ] in
theorem look_foldl_of_forall_ne (hkeep : ∀ state item, p state → p (step state item))
    (hstep : ∀ state item key, p state → look (step state item) key =
      if key = keyOf item then effect item (look state key) else look state key)
    {items : List ι} {key : κ} (hne : ∀ item ∈ items, key ≠ keyOf item) (state : σ) (hstate : p state) :
    look (items.foldl step state) key = look state key := by
  induction items generalizing state with
  | nil => rfl
  | cons head rest ih =>
      have hhead : key ≠ keyOf head := hne head List.mem_cons_self
      have hrest : ∀ item ∈ rest, key ≠ keyOf item :=
        fun item hitem => hne item (List.mem_cons_of_mem _ hitem)
      rw [List.foldl_cons, ih hrest _ (hkeep state head hstate), hstep state head key hstate,
        if_neg hhead]

omit [Ord κ] [Std.TransOrd κ] [Std.LawfulEqOrd κ] in
theorem look_foldl_of_mem (hkeep : ∀ state item, p state → p (step state item))
    (hstep : ∀ state item key, p state → look (step state item) key =
      if key = keyOf item then effect item (look state key) else look state key)
    {items : List ι} (hnodup : (items.map keyOf).Nodup) {item : ι} (hmem : item ∈ items) (state : σ)
    (hstate : p state) :
    look (items.foldl step state) (keyOf item) = effect item (look state (keyOf item)) := by
  induction items generalizing state with
  | nil => cases hmem
  | cons head rest ih =>
      rw [List.map_cons, List.nodup_cons] at hnodup
      have hnext := hkeep state head hstate
      rw [List.foldl_cons]
      rcases List.mem_cons.1 hmem with rfl | hrest
      · have hne : ∀ other ∈ rest, keyOf item ≠ keyOf other := by
          intro other hother heq
          exact hnodup.1 (heq ▸ List.mem_map_of_mem hother)
        rw [look_foldl_of_forall_ne hkeep hstep hne _ hnext, hstep state item _ hstate, if_pos rfl]
      · have hne : keyOf item ≠ keyOf head := by
          intro heq
          exact hnodup.1 (heq ▸ List.mem_map_of_mem hrest)
        rw [ih hnodup.2 hrest _ hnext, hstep state head _ hstate, if_neg hne]

omit [Ord κ] [Std.TransOrd κ] [Std.LawfulEqOrd κ] in
/-- What a pass counts depends, item by item, on what the state showed before the pass. -/
theorem count_foldl {count : σ → Nat} {q : ι → τ → Bool}
    (hkeep : ∀ state item, p state → p (step state item))
    (hstep : ∀ state item key, p state → look (step state item) key =
      if key = keyOf item then effect item (look state key) else look state key)
    (hcount : ∀ state item, count (step state item) =
      count state + if q item (look state (keyOf item)) = true then 1 else 0)
    {items : List ι} (hnodup : (items.map keyOf).Nodup) (state : σ) (hstate : p state) :
    count (items.foldl step state) =
      count state + items.countP fun item => q item (look state (keyOf item)) := by
  induction items generalizing state with
  | nil => rfl
  | cons head rest ih =>
      rw [List.map_cons, List.nodup_cons] at hnodup
      have hrest : (rest.countP fun item => q item (look (step state head) (keyOf item))) =
          rest.countP fun item => q item (look state (keyOf item)) := by
        refine List.countP_congr fun item hitem => ?_
        have hne : keyOf item ≠ keyOf head := by
          intro heq
          exact hnodup.1 (heq ▸ List.mem_map_of_mem hitem)
        rw [hstep state head _ hstate, if_neg hne]
      rw [List.foldl_cons, ih hnodup.2 _ (hkeep state head hstate), hrest, hcount, List.countP_cons]
      omega

end Pass

section Lookups

variable {σ ι : Type w} {look : σ → SortedMap κ α} {step : σ → ι → σ} {keyOf : ι → κ}
  {effect : ι → Option α → Option α}

omit [Std.TransOrd κ] [Std.LawfulEqOrd κ] in
theorem get?_foldl_of_forall_ne
    (hstep : ∀ state item key, (look (step state item)).get? key =
      if key = keyOf item then effect item ((look state).get? key) else (look state).get? key)
    {items : List ι} {key : κ} (hne : ∀ item ∈ items, key ≠ keyOf item) (state : σ) :
    (look (items.foldl step state)).get? key = (look state).get? key := by
  let view : σ → κ → Option α := fun state => (look state).get?
  have hview : ∀ state item key, True → view (step state item) key =
      if key = keyOf item then effect item (view state key) else view state key :=
    fun state item key _ => hstep state item key
  exact look_foldl_of_forall_ne (p := fun _ => True) (fun _ _ _ => trivial) hview hne state trivial

omit [Std.TransOrd κ] [Std.LawfulEqOrd κ] in
theorem get?_foldl_of_mem
    (hstep : ∀ state item key, (look (step state item)).get? key =
      if key = keyOf item then effect item ((look state).get? key) else (look state).get? key)
    {items : List ι} (hnodup : (items.map keyOf).Nodup) {item : ι} (hmem : item ∈ items)
    (state : σ) :
    (look (items.foldl step state)).get? (keyOf item) =
      effect item ((look state).get? (keyOf item)) := by
  let view : σ → κ → Option α := fun state => (look state).get?
  have hview : ∀ state item key, True → view (step state item) key =
      if key = keyOf item then effect item (view state key) else view state key :=
    fun state item key _ => hstep state item key
  exact look_foldl_of_mem (p := fun _ => True) (fun _ _ _ => trivial) hview hnodup hmem state trivial

end Lookups

end OrphanWatch.SortedMap
