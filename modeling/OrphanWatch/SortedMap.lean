/-!
Finite maps with their entries in ascending order of the keys.

The order is part of the type, so two maps with the same look-ups are equal (`SortedMap.ext_get?`), and
a listing of the entries is always the sorted one. Every operation is described by its effect on
`get?`.
-/

namespace OrphanWatch

universe u v w

structure SortedMap (κ : Type u) (α : Type v) [Ord κ] where
  toList : List (κ × α)
  ascending : toList.Pairwise fun a b => compare a.1 b.1 = .lt

namespace SortedMap

variable {κ : Type u} {α : Type v} {β : Type w} [Ord κ]

instance [DecidableEq κ] [DecidableEq α] : DecidableEq (SortedMap κ α) := fun a b =>
  if h : a.toList = b.toList then
    isTrue (by cases a; cases b; simp_all)
  else
    isFalse fun heq => h (heq ▸ rfl)

instance [Repr κ] [Repr α] : Repr (SortedMap κ α) := ⟨fun m n => reprPrec m.toList n⟩

theorem eq_of_toList {a b : SortedMap κ α} (h : a.toList = b.toList) : a = b := by
  cases a; cases b; simp_all

def empty : SortedMap κ α := ⟨[], .nil⟩

instance : EmptyCollection (SortedMap κ α) := ⟨empty⟩
instance : Inhabited (SortedMap κ α) := ⟨empty⟩

def lookup (key : κ) : List (κ × α) → Option α
  | [] => none
  | entry :: rest => if compare key entry.1 = .eq then some entry.2 else lookup key rest

def get? (m : SortedMap κ α) (key : κ) : Option α :=
  lookup key m.toList

def contains (m : SortedMap κ α) (key : κ) : Bool :=
  (m.get? key).isSome

def keys (m : SortedMap κ α) : List κ :=
  m.toList.map (·.1)

def values (m : SortedMap κ α) : List α :=
  m.toList.map (·.2)

def size (m : SortedMap κ α) : Nat :=
  m.toList.length

def isEmpty (m : SortedMap κ α) : Bool :=
  m.toList.isEmpty

def insertEntry (key : κ) (value : α) : List (κ × α) → List (κ × α)
  | [] => [(key, value)]
  | entry :: rest =>
    match compare key entry.1 with
    | .lt => (key, value) :: entry :: rest
    | .eq => (key, value) :: rest
    | .gt => entry :: insertEntry key value rest

theorem mem_of_mem_insertEntry {key : κ} {value : α} {entry : κ × α} {entries : List (κ × α)}
    (h : entry ∈ insertEntry key value entries) : entry = (key, value) ∨ entry ∈ entries := by
  induction entries with
  | nil => simpa [insertEntry] using h
  | cons head rest ih =>
    rw [insertEntry] at h
    split at h
    · simpa using h
    · simp only [List.mem_cons] at h ⊢
      exact h.elim .inl (.inr ∘ .inr)
    · simp only [List.mem_cons] at h ⊢
      rcases h with h | h
      · exact .inr (.inl h)
      · exact (ih h).elim .inl (.inr ∘ .inr)

section Lawful

variable [Std.TransOrd κ] [Std.LawfulEqOrd κ]

/-- Inserting keeps the keys in ascending order. -/
theorem ascending_insertEntry (key : κ) (value : α) {entries : List (κ × α)}
    (h : entries.Pairwise fun a b => compare a.1 b.1 = .lt) :
    (insertEntry key value entries).Pairwise fun a b => compare a.1 b.1 = .lt := by
  induction entries with
  | nil => simp [insertEntry]
  | cons entry rest ih =>
    have hrest := List.pairwise_cons.1 h
    rw [insertEntry]
    split
    · next hlt =>
      refine List.pairwise_cons.2 ⟨fun other hother => ?_, h⟩
      rcases List.mem_cons.1 hother with rfl | hmem
      · exact hlt
      · exact Std.TransCmp.lt_trans hlt (hrest.1 _ hmem)
    · next heq =>
      have hkey := Std.LawfulEqOrd.eq_of_compare heq
      subst hkey
      exact List.pairwise_cons.2 ⟨hrest.1, hrest.2⟩
    · next hgt =>
      refine List.pairwise_cons.2 ⟨fun other hother => ?_, ih hrest.2⟩
      rcases mem_of_mem_insertEntry hother with rfl | hmem
      · exact Std.OrientedCmp.lt_of_gt hgt
      · exact hrest.1 _ hmem

def insert (m : SortedMap κ α) (key : κ) (value : α) : SortedMap κ α :=
  ⟨insertEntry key value m.toList, ascending_insertEntry key value m.ascending⟩

/-- The entries of a list; of several with one key the last counts. -/
def ofList (entries : List (κ × α)) : SortedMap κ α :=
  entries.foldl (fun m entry => m.insert entry.1 entry.2) empty

/-- The map with the value `f key` for every listed key where `f` has one. -/
def ofKeys (keys : List κ) (f : κ → Option α) : SortedMap κ α :=
  keys.foldl (fun m key => match f key with | some value => m.insert key value | none => m) empty

def adjust (m : SortedMap κ α) (key : κ) (f : Option α → α) : SortedMap κ α :=
  m.insert key (f (m.get? key))

end Lawful

def filter (m : SortedMap κ α) (p : κ → α → Bool) : SortedMap κ α :=
  ⟨m.toList.filter fun entry => p entry.1 entry.2, m.ascending.filter _⟩

def mapValues (m : SortedMap κ α) (f : κ → α → β) : SortedMap κ β :=
  ⟨m.toList.map fun entry => (entry.1, f entry.1 entry.2), by
    rw [List.pairwise_map]; exact m.ascending⟩

section LawfulEq

variable [Std.LawfulEqOrd κ]

theorem lookup_eq_some_iff {entries : List (κ × α)}
    (h : entries.Pairwise fun a b => compare a.1 b.1 = .lt) {key : κ} {value : α} :
    lookup key entries = some value ↔ (key, value) ∈ entries := by
  induction entries with
  | nil => simp [lookup]
  | cons entry rest ih =>
    have hrest := List.pairwise_cons.1 h
    by_cases heq : compare key entry.1 = .eq
    · have hkey := Std.LawfulEqOrd.eq_of_compare heq
      subst hkey
      simp only [lookup, heq, if_true, Option.some.injEq, List.mem_cons]
      constructor
      · rintro rfl; exact .inl rfl
      · rintro (hmem | hmem)
        · rw [← hmem]
        · exact absurd (hrest.1 _ hmem) (by simp)
    · simp only [lookup, heq, if_false, List.mem_cons, ih hrest.2]
      constructor
      · exact .inr
      · rintro (hmem | hmem)
        · subst hmem; simp at heq
        · exact hmem

theorem get?_eq_some_iff {m : SortedMap κ α} {key : κ} {value : α} :
    m.get? key = some value ↔ (key, value) ∈ m.toList :=
  lookup_eq_some_iff m.ascending

theorem get?_filter (m : SortedMap κ α) (p : κ → α → Bool) (key : κ) :
    (m.filter p).get? key = (m.get? key).filter (p key) := by
  apply Option.ext
  intro value
  rw [get?_eq_some_iff, Option.filter_eq_some_iff, get?_eq_some_iff]
  simp [filter]

theorem get?_mapValues (m : SortedMap κ α) (f : κ → α → β) (key : κ) :
    (m.mapValues f).get? key = (m.get? key).map (f key) := by
  apply Option.ext
  intro value
  rw [get?_eq_some_iff, Option.map_eq_some_iff]
  simp only [mapValues, List.mem_map, Prod.mk.injEq, get?_eq_some_iff]
  constructor
  · rintro ⟨⟨k, a⟩, hmem, rfl, rfl⟩
    exact ⟨a, hmem, rfl⟩
  · rintro ⟨a, hmem, rfl⟩
    exact ⟨(key, a), hmem, rfl, rfl⟩

theorem mem_keys_iff {m : SortedMap κ α} {key : κ} :
    key ∈ m.keys ↔ ∃ value, m.get? key = some value := by
  simp [keys, get?_eq_some_iff]

end LawfulEq

@[simp]
theorem get?_empty (key : κ) : (empty : SortedMap κ α).get? key = none := rfl

section Lawful

variable [Std.TransOrd κ] [Std.LawfulEqOrd κ]

theorem lookup_insertEntry (key other : κ) (value : α) (entries : List (κ × α)) :
    lookup other (insertEntry key value entries) =
      if compare other key = .eq then some value else lookup other entries := by
  induction entries with
  | nil => simp [insertEntry, lookup]
  | cons entry rest ih =>
    rw [insertEntry]
    split
    · simp [lookup]
    · next heq =>
      have hkey := Std.LawfulEqOrd.eq_of_compare heq
      subst hkey
      by_cases h : compare other entry.1 = .eq <;> simp [lookup, h]
    · next hgt =>
      by_cases h : compare other entry.1 = .eq
      · have hother := Std.LawfulEqOrd.eq_of_compare h
        subst hother
        have : compare entry.1 key = .lt := Std.OrientedCmp.lt_of_gt hgt
        simp [lookup, this]
      · simp [lookup, h, ih]

theorem get?_insert (m : SortedMap κ α) (key other : κ) (value : α) :
    (m.insert key value).get? other =
      if compare other key = .eq then some value else m.get? other :=
  lookup_insertEntry key other value m.toList

@[simp]
theorem get?_insert_self (m : SortedMap κ α) (key : κ) (value : α) :
    (m.insert key value).get? key = some value := by
  simp [get?_insert]

theorem get?_insert_of_ne (m : SortedMap κ α) {key other : κ} (h : other ≠ key) (value : α) :
    (m.insert key value).get? other = m.get? other := by
  simp [get?_insert, h]

/-- Maps with the same look-ups are equal. -/
theorem ext_get? {a b : SortedMap κ α} (h : ∀ key, a.get? key = b.get? key) : a = b := by
  apply eq_of_toList
  have hmem : ∀ entry, entry ∈ a.toList ↔ entry ∈ b.toList := by
    rintro ⟨key, value⟩
    rw [← get?_eq_some_iff, ← get?_eq_some_iff, h]
  obtain ⟨as, has⟩ := a
  obtain ⟨bs, hbs⟩ := b
  clear h
  induction as generalizing bs with
  | nil =>
    cases bs with
    | nil => rfl
    | cons entry rest => exact absurd ((hmem entry).2 (by simp)) (by simp)
  | cons x xs ih =>
    cases bs with
    | nil => exact absurd ((hmem x).1 (by simp)) (by simp)
    | cons y ys =>
      have hx := List.pairwise_cons.1 has
      have hy := List.pairwise_cons.1 hbs
      have hirr : ∀ e : κ × α, compare e.1 e.1 ≠ .lt := fun e => by simp
      have hxy : x = y := by
        have hx' : x ∈ y :: ys := (hmem x).1 (by simp)
        have hy' : y ∈ x :: xs := (hmem y).2 (by simp)
        rcases List.mem_cons.1 hx' with h | h
        · exact h
        · rcases List.mem_cons.1 hy' with h' | h'
          · exact h'.symm
          · exact absurd (Std.TransCmp.lt_trans (hy.1 _ h) (hx.1 _ h')) (hirr y)
      subst hxy
      simp only [List.cons.injEq, true_and]
      refine ih hx.2 ys hy.2 fun entry => ?_
      constructor
      · intro he
        rcases List.mem_cons.1 ((hmem entry).1 (List.mem_cons_of_mem _ he)) with rfl | h
        · exact absurd (hx.1 _ he) (hirr _)
        · exact h
      · intro he
        rcases List.mem_cons.1 ((hmem entry).2 (List.mem_cons_of_mem _ he)) with rfl | h
        · exact absurd (hy.1 _ he) (hirr _)
        · exact h

end Lawful

end SortedMap

end OrphanWatch
