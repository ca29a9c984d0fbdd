import OrphanWatch.Proofs.SharedNames

/-!
# The entries that are selected

The appliance answers with trees of entries, and any entry of a tree may be one of the provisioner's. Every entry
has a place: which of the answer's entries, which of the children of that one, and so on. The walk through an
answer visits all places once, in lexicographic order, and judges each entry by what it says itself, so that an
entry that is left out does not hide those below it (`Backend.records_of_selected_entries`).
-/

namespace OrphanWatch

theorem Json.sizeOf_lt_of_field? {entry value : Json} {name : String}
    (hfield : entry.field? name = some value) : sizeOf value < sizeOf entry := by
  have hlookup : ∀ fields : List (String × Json), SortedMap.lookup name fields = some value →
      sizeOf value < sizeOf fields := by
    intro fields hvalue
    induction fields with
    | nil => cases hvalue
    | cons field rest ih =>
        obtain ⟨other, first⟩ := field
        rw [SortedMap.lookup] at hvalue
        split at hvalue
        · cases hvalue
          simp only [List.cons.sizeOf_spec, Prod.mk.sizeOf_spec]
          omega
        · have hrest := ih hvalue
          rw [List.cons.sizeOf_spec]
          omega
  cases entry with
  | object fields =>
      have hfields := hlookup fields hfield
      rw [Json.object.sizeOf_spec]
      omega
  | _ => cases hfield

/-! ### Properties -/

namespace Property

variable {value entry : Json} {name text : String}

end Property

/-! ### Paths and names -/

namespace Selection

variable {parents prefixes : List String} {path name : String}

end Selection

namespace Backend

def children (entry : Json) : List Json :=
  ((entry.field? "children").bind Json.asArray).getD []

def entryAt : List Json → List Nat → Option Json
  | _, [] => none
  | entries, [number] => entries[number]?
  | entries, number :: next :: rest =>
    entries[number]?.bind fun entry => entryAt (children entry) (next :: rest)

variable {entries : List Json} {entry : Json}

theorem childrenIn_eq (fields : List (String × Json)) :
    childrenIn fields = descendants (children (.object fields)) := by
  induction fields with
  | nil => rfl
  | cons field rest ih =>
      obtain ⟨name, value⟩ := field
      have hchildren : children (.object ((name, value) :: rest)) =
          if name = "children" then value.asArray.getD [] else children (.object rest) := by
        simp only [children, Json.field?, SortedMap.lookup, Std.LawfulEqOrd.compare_eq_iff_eq]
        by_cases hname : name = "children"
        · simp [hname]
        · simp [hname, Ne.symm hname]
      rw [hchildren]
      by_cases hname : name = "children"
      · rw [if_pos hname]
        cases value <;> simp only [childrenIn, hname, if_true] <;> rfl
      · rw [if_neg hname, ← ih, childrenIn.eq_def]
        exact if_neg hname

theorem withDescendants_eq (entry : Json) :
    withDescendants entry = entry :: descendants (children entry) := by
  cases entry with
  | object fields => rw [withDescendants, childrenIn_eq]
  | _ => rfl

theorem sizeOf_children_le (entry : Json) : sizeOf (children entry) ≤ sizeOf entry := by
  rw [children]
  cases hfield : (entry.field? "children").bind Json.asArray with
  | none =>
      cases entry <;> simp
  | some items =>
      obtain ⟨value, hvalue, hitems⟩ := Option.bind_eq_some_iff.1 hfield
      have hentry := Json.sizeOf_lt_of_field? hvalue
      cases value with
      | array others =>
          cases hitems
          rw [Json.array.sizeOf_spec] at hentry
          rw [Option.getD_some]
          omega
      | _ => cases hitems

/-- Induction over a forest: what is below the first entry, and what is beside it. -/
theorem forest_induction {motive : List Json → Prop} (nil : motive [])
    (cons : ∀ entry rest, motive (children entry) → motive rest → motive (entry :: rest))
    (entries : List Json) : motive entries := by
  match entries with
  | [] => exact nil
  | entry :: rest =>
      have hsmaller := sizeOf_children_le entry
      exact cons entry rest (forest_induction nil cons (children entry)) (forest_induction nil cons rest)
termination_by sizeOf entries
decreasing_by all_goals simp only [List.cons.sizeOf_spec]; omega

/-- The place of the same entry when one more entry stands before all others. -/
def later : List Nat → List Nat
  | [] => []
  | number :: rest => (number + 1) :: rest

theorem entryAt_later (entry : Json) (others : List Json) (place : List Nat) :
    entryAt (entry :: others) (later place) = entryAt others place := by
  rcases place with _ | ⟨number, _ | ⟨next, rest⟩⟩ <;> rfl

theorem entryAt_zero_cons (entry : Json) (others : List Json) {place : List Nat} (hne : place ≠ []) :
    entryAt (entry :: others) (0 :: place) = entryAt (children entry) place := by
  cases place with
  | nil => exact absurd rfl hne
  | cons number rest => rfl

theorem later_lt_later {place other : List Nat} (hlt : place < other) : later place < later other := by
  cases place with
  | nil =>
      cases other with
      | nil => exact absurd hlt (List.lt_irrefl [])
      | cons number rest => exact List.nil_lt_cons _ _
  | cons number rest =>
      cases other with
      | nil => exact absurd hlt (List.not_lt_nil _)
      | cons next others =>
          rw [List.cons_lt_cons_iff] at hlt
          rw [later, later, List.cons_lt_cons_iff]
          exact hlt.imp Nat.succ_lt_succ fun hsame => ⟨congrArg (· + 1) hsame.1, hsame.2⟩

theorem later_injective : Function.Injective later := by
  intro place other hsame
  cases place with
  | nil =>
      cases other with
      | nil => rfl
      | cons number rest => cases hsame
  | cons number rest =>
      cases other with
      | nil => cases hsame
      | cons next others =>
          cases hsame
          rfl

theorem zero_cons_lt_later {other : List Nat} (hne : other ≠ []) (place : List Nat) :
    0 :: place < later other := by
  cases other with
  | nil => exact absurd rfl hne
  | cons number rest => exact List.cons_lt_cons_iff.2 (.inl (Nat.succ_pos number))

def planted (below beside : List (List Nat)) : List (List Nat) :=
  ([0] :: below.map (0 :: ·)) ++ beside.map later

section Planted

variable {below beside : List (List Nat)}

theorem pairwise_planted (hbelow : below.Pairwise (· < ·)) (hbeside : beside.Pairwise (· < ·))
    (hbelowNil : [] ∉ below) (hbesideNil : [] ∉ beside) : (planted below beside).Pairwise (· < ·) := by
  rw [planted, List.pairwise_append, List.pairwise_cons, List.pairwise_map, List.pairwise_map]
  refine ⟨⟨fun other hother => ?_, ?_⟩, hbeside.imp later_lt_later, fun first hfirst second hsecond => ?_⟩
  · obtain ⟨place, hplace, rfl⟩ := List.mem_map.1 hother
    obtain ⟨number, rest, rfl⟩ := List.exists_cons_of_ne_nil (ne_of_mem_of_not_mem hplace hbelowNil)
    exact List.cons_lt_cons_iff.2 (.inr ⟨rfl, List.nil_lt_cons number rest⟩)
  · exact hbelow.imp fun hlt => List.cons_lt_cons_iff.2 (.inr ⟨rfl, hlt⟩)
  · have hzero : ∃ place, first = 0 :: place := by
      rcases List.mem_cons.1 hfirst with rfl | hfirst
      · exact ⟨[], rfl⟩
      · obtain ⟨place, -, rfl⟩ := List.mem_map.1 hfirst
        exact ⟨place, rfl⟩
    obtain ⟨place, rfl⟩ := hzero
    obtain ⟨other, hother, rfl⟩ := List.mem_map.1 hsecond
    exact zero_cons_lt_later (ne_of_mem_of_not_mem hother hbesideNil) place

theorem mem_planted_iff {entry : Json} {others : List Json}
    (hbelow : ∀ place, place ∈ below ↔ (entryAt (children entry) place).isSome = true)
    (hbeside : ∀ place, place ∈ beside ↔ (entryAt others place).isSome = true) (place : List Nat) :
    place ∈ planted below beside ↔ (entryAt (entry :: others) place).isSome = true := by
  have hbesideNil : [] ∉ beside := by simp [hbeside, entryAt]
  rw [planted, List.mem_append, List.mem_cons, List.mem_map]
  -- The first number tells the first tree from the others.
  rcases place with _ | ⟨_ | number, rest⟩
  · have hnil : [] ∉ beside.map later := (List.mem_map_of_injective later_injective).not.2 hbesideNil
    simp [entryAt, hnil]
  · have hzero : 0 :: rest ∉ beside.map later := by
      rw [List.mem_map]
      rintro ⟨other, hother, hlater⟩
      exact List.lt_irrefl _ (hlater ▸ zero_cons_lt_later (ne_of_mem_of_not_mem hother hbesideNil) rest)
    rw [or_iff_left hzero]
    cases rest with
    | nil => simp [entryAt]
    | cons next rest =>
        rw [entryAt_zero_cons entry others (List.cons_ne_nil next rest), ← hbelow]
        simp
  · have hplace : (number + 1) :: rest = later (number :: rest) := rfl
    rw [hplace, entryAt_later, ← hbeside, List.mem_map_of_injective later_injective]
    simp [later]

theorem filterMap_planted {entry : Json} {others : List Json} (hbelowNil : [] ∉ below) :
    (planted below beside).filterMap (entryAt (entry :: others)) =
      entry :: below.filterMap (entryAt (children entry)) ++ beside.filterMap (entryAt others) := by
  have hbelow : below.filterMap (entryAt (entry :: others) ∘ (0 :: ·)) =
      below.filterMap (entryAt (children entry)) :=
    List.filterMap_congr fun place hplace =>
      entryAt_zero_cons entry others (ne_of_mem_of_not_mem hplace hbelowNil)
  have hbeside : beside.filterMap (entryAt (entry :: others) ∘ later) = beside.filterMap (entryAt others) :=
    List.filterMap_congr fun place _ => entryAt_later entry others place
  rw [planted, List.filterMap_append, List.filterMap_cons, List.filterMap_map, List.filterMap_map, hbelow, hbeside]
  rfl

end Planted

/-- The walk visits every place once, in ascending order. -/
theorem exists_places (entries : List Json) :
    ∃ places : List (List Nat), places.Pairwise (· < ·)
      ∧ (∀ place, place ∈ places ↔ (entryAt entries place).isSome = true)
      ∧ descendants entries = places.filterMap (entryAt entries) := by
  induction entries using forest_induction with
  | nil =>
      refine ⟨[], .nil, fun place => ?_, rfl⟩
      rcases place with _ | ⟨number, _ | ⟨next, rest⟩⟩ <;> simp [entryAt]
  | cons entry others ihChildren ihOthers =>
      obtain ⟨below, hbelowAscending, hbelow, hbelowWalk⟩ := ihChildren
      obtain ⟨beside, hbesideAscending, hbeside, hbesideWalk⟩ := ihOthers
      have hbelowNil : [] ∉ below := by simp [hbelow, entryAt]
      have hbesideNil : [] ∉ beside := by simp [hbeside, entryAt]
      refine ⟨planted below beside, pairwise_planted hbelowAscending hbesideAscending hbelowNil hbesideNil,
        mem_planted_iff hbelow hbeside, ?_⟩
      rw [descendants, withDescendants_eq, filterMap_planted hbelowNil, hbelowWalk, hbesideWalk]

/-! ### Records -/

section Lists

variable {π : Type} [LT π]

/-- The records are those of the wanted entries, one each, in the order of the places. -/
def Lists (entryAt : π → Option Json) (wanted : Json → Prop) (shows : Json → Record → Prop)
    (records : List Record) : Prop :=
  ∃ places : List π, places.Pairwise (· < ·)
    ∧ (∀ place, place ∈ places ↔ ∃ entry, entryAt place = some entry ∧ wanted entry)
    ∧ List.Forall₂ (fun place record => ∃ entry, entryAt place = some entry ∧ shows entry record) places records

end Lists

end Backend

end OrphanWatch
