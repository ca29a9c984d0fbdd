import Mathlib.Data.List.Nodup
import OrphanWatch.Proofs.NormalText
import OrphanWatch.Proofs.SortedMap
import OrphanWatch.View

/-!
# Keys as texts

A key is written as its scope, a colon and its value. Reading what was written gives the key back, and reading any
text gives a key that is written in one way only (`Key.round_trips`). The first colon ends the scope, whatever the
value holds; the value is brought to its normal form, which is normal already when the text was written from a key.
-/

namespace OrphanWatch

theorem Json.field?_ofFields_eq_some_iff {fields : List (String × Json)} (hnodup : (fields.map (·.1)).Nodup)
    {name : String} {value : Json} : (ofFields fields).field? name = some value ↔ (name, value) ∈ fields :=
  SortedMap.get?_ofList_eq_some_iff hnodup

theorem Scope.ofLabel?_eq_some_iff {label : String} {scope : Scope} :
    ofLabel? label = some scope ↔ label = scope.label := by
  constructor
  · intro hscope
    unfold ofLabel? at hscope
    split at hscope <;> cases hscope <;> rfl
  · rintro rfl
    cases scope <;> rfl

theorem Scope.colon_not_mem_label (scope : Scope) : ':' ∉ scope.label.toList := by
  cases scope <;> decide

namespace Key

inductive Splits : String → Scope → String → Prop
  | volume (rest : String) : Splits ("volume:" ++ rest) .volume rest
  | snapshot (rest : String) : Splits ("snapshot:" ++ rest) .snapshot rest
  | claim (rest : String) : Splits ("claim:" ++ rest) .claim rest

variable {text rest : String} {scope : Scope} {key : Key}

theorem splits_iff : Splits text scope rest ↔ text = scope.label ++ ":" ++ rest := by
  constructor
  · rintro (rest | rest | rest) <;> rfl
  · rintro rfl
    cases scope
    · exact .volume rest
    · exact .snapshot rest
    · exact .claim rest

theorem splits_display (key : Key) : Splits key.display key.scope key.value :=
  splits_iff.2 rfl

theorem splitOnce_iff_splits :
    Text.splitOnce ':' text = some (scope.label, rest) ↔ Splits text scope rest := by
  rw [Text.splitOnce_eq_some_iff, splits_iff, ← String.toList_inj, and_iff_right scope.colon_not_mem_label]
  simp

theorem Splits.unique {other : Scope} {otherRest : String} (hsplits : Splits text scope rest)
    (hother : Splits text other otherRest) : scope = other ∧ rest = otherRest := by
  have hsame := (splitOnce_iff_splits.2 hsplits).symm.trans (splitOnce_iff_splits.2 hother)
  rw [Option.some_inj, Prod.mk.injEq] at hsame
  obtain ⟨hlabel, hrest⟩ := hsame
  have hscope : Scope.ofLabel? scope.label = some other := Scope.ofLabel?_eq_some_iff.2 hlabel
  rw [Scope.ofLabel?_eq_some_iff.2 rfl, Option.some_inj] at hscope
  exact ⟨hscope, hrest⟩

/-- A text is read as a key exactly if it begins with a scope, and what follows can be normalized. -/
theorem parse_eq_ok_iff :
    parse text = .ok key ↔ ∃ scope rest, Splits text scope rest ∧ normalize scope rest = some key := by
  constructor
  · intro hparse
    rw [parse] at hparse
    split at hparse
    · cases hparse
    · next label rest hparts =>
        split at hparse
        · cases hparse
        · next scope hscope =>
            obtain rfl := Scope.ofLabel?_eq_some_iff.1 hscope
            split at hparse
            · cases hparse
            · next normal hnormal =>
                cases hparse
                exact ⟨scope, rest, splitOnce_iff_splits.1 hparts, hnormal⟩
  · rintro ⟨scope, rest, hsplits, hnormal⟩
    rw [parse, splitOnce_iff_splits.2 hsplits]
    simp only [Scope.ofLabel?_eq_some_iff.2 rfl, hnormal]

/-- A key is read back from its display. -/
theorem parse_display (hnormal : key.IsNormal) : parse key.display = .ok key :=
  parse_eq_ok_iff.2 ⟨key.scope, key.value, splits_display key, hnormal⟩

theorem isNormal_of_parse (hparse : parse text = .ok key) : key.IsNormal := by
  obtain ⟨scope, rest, -, hnormal⟩ := parse_eq_ok_iff.1 hparse
  exact isNormal_of_normalize hnormal

/-- Two keys are not displayed alike. -/
theorem display_injective : Function.Injective display := by
  intro key other hsame
  obtain ⟨hscope, hvalue⟩ := (splits_display key).unique (hsame ▸ splits_display other)
  cases key
  cases other
  cases hscope
  cases hvalue
  rfl

/-- Every candidate of the findings stands under the text of its own key, and no other does. -/
theorem field?_candidates_toJson (snapshot : Snapshot) (key : Key) :
    ((snapshot.toJson.field? "candidates").bind (·.field? key.display)) =
      (snapshot.candidates.get? key).map Candidate.toJson := by
  let fields := snapshot.candidates.toList.map fun entry => (entry.1.display, entry.2.toJson)
  have hcandidates : snapshot.toJson.field? "candidates" = some (Json.ofFields fields) := by
    refine (Json.field?_ofFields_eq_some_iff ?_).2 ?_
    · change ["generation", "committedAt", "candidates", "usage"].Nodup
      decide
    · simp [fields]
  have hnodup : (fields.map (·.1)).Nodup := by
    have hnames : fields.map (·.1) = snapshot.candidates.keys.map display := by
      simp [fields, SortedMap.keys, Function.comp_def]
    rw [hnames]
    exact List.Nodup.map display_injective (SortedMap.nodup_keys snapshot.candidates)
  rw [hcandidates, Option.bind_some]
  ext value
  rw [Json.field?_ofFields_eq_some_iff hnodup, Option.map_eq_some_iff, List.mem_map]
  simp only [Prod.mk.injEq, SortedMap.get?_eq_some_iff]
  constructor
  · rintro ⟨⟨other, candidate⟩, hmem, hkey, hvalue⟩
    cases display_injective hkey
    exact ⟨candidate, hmem, hvalue⟩
  · rintro ⟨candidate, hmem, hvalue⟩
    exact ⟨(key, candidate), hmem, rfl, hvalue⟩

/-- **Keys round-trip through their texts.** A key that a raw text gives is its own normal form and is read back from
its text, and no two keys have one text, so that no two candidates share an entry when findings are written. A text
is read if it is a known scope, a colon and a rest with a visible character; it then gives the key of the rest, and
the text of that key is read and written without change. -/
theorem round_trips :
    (∀ scope raw key, normalize scope raw = some key →
      key.scope = scope ∧ normalize key.scope key.value = some key ∧ parse key.display = .ok key)
    ∧ Function.Injective display
    ∧ (∀ (snapshot : Snapshot) (key : Key),
      ((snapshot.toJson.field? "candidates").bind (·.field? key.display)) =
        (snapshot.candidates.get? key).map Candidate.toJson)
    ∧ (∀ text, (∃ key, parse text = .ok key) ↔
      ∃ scope rest, Splits text scope rest ∧ ∃ c ∈ rest.toList, Text.isBlank c = false)
    ∧ (∀ text scope rest key, Splits text scope rest →
      (parse text = .ok key ↔ normalize scope rest = some key))
    ∧ ∀ text key, parse text = .ok key → (parse key.display).map display = .ok key.display := by
  refine ⟨fun scope raw key hkey => ?_, display_injective, field?_candidates_toJson, fun text => ?_,
    fun text scope rest key hsplits => ?_, fun text key hparse => ?_⟩
  · have hnormal := isNormal_of_normalize hkey
    exact ⟨(normalize_eq_some_iff.1 hkey).1, hnormal, parse_display hnormal⟩
  · constructor
    · rintro ⟨key, hparse⟩
      obtain ⟨scope, rest, hsplits, hnormal⟩ := parse_eq_ok_iff.1 hparse
      exact ⟨scope, rest, hsplits, exists_normalize_iff.1 ⟨key, hnormal⟩⟩
    · rintro ⟨scope, rest, hsplits, hvisible⟩
      obtain ⟨key, hnormal⟩ := exists_normalize_iff.2 hvisible
      exact ⟨key, parse_eq_ok_iff.2 ⟨scope, rest, hsplits, hnormal⟩⟩
  · rw [parse_eq_ok_iff]
    constructor
    · rintro ⟨other, otherRest, hother, hnormal⟩
      obtain ⟨rfl, rfl⟩ := hsplits.unique hother
      exact hnormal
    · intro hnormal
      exact ⟨scope, rest, hsplits, hnormal⟩
  · rw [parse_display (isNormal_of_parse hparse)]
    rfl

/-- A name with a second colon, a capital sigma that ends a word and a dotted capital I. -/
theorem round_trips_of_greek_name :
    let key : Key := ⟨.volume, "tank:ας/i̇"⟩
    normalize .volume " Tank:ΑΣ/İ " = some key ∧ Splits "volume: Tank:ΑΣ/İ " .volume " Tank:ΑΣ/İ "
      ∧ parse "volume: Tank:ΑΣ/İ " = .ok key ∧ parse key.display = .ok key := by
  intro key
  have hkey : normalize .volume " Tank:ΑΣ/İ " = some key := by decide +kernel
  have hsplits : Splits "volume: Tank:ΑΣ/İ " .volume " Tank:ΑΣ/İ " := splits_iff.2 (by decide +kernel)
  obtain ⟨hround, -, -, -, hread, -⟩ := round_trips
  exact ⟨hkey, hsplits, (hread _ _ _ key hsplits).2 hkey, (hround _ _ key hkey).2.2⟩

end Key

end OrphanWatch
