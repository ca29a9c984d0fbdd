import Mathlib.Data.List.Basic
import Mathlib.Data.List.TakeWhile
import OrphanWatch.Key

/-!
# Normal texts

Normalizing a text twice is the same as doing it once, so every key that a raw text gives is its own
normal form (`Key.isNormal_of_normalize`). Lower case has to be seen to settle after one step, and not to
bring blank characters to the ends of a trimmed text. Both are read off the table of case runs.
-/

namespace OrphanWatch.Text

def CaseRun.image (run : CaseRun) : Nat × Nat :=
  ((run.first + run.shift).toNat, (run.last + run.shift).toNat)

/-- Whether a run is seen to lead to no character of the other run: past its ends, or between its
steps. -/
def CaseRun.leadsPast (run other : CaseRun) : Bool :=
  Nat.blt run.image.2 other.first || Nat.blt other.last run.image.1
    || ((run.step == 2 || run.first == run.last) && other.step == 2
      && Nat.blt 0 run.image.1 && Nat.beq ((run.image.1 + other.first) % 2) 1)

def visibleRanges : List (Nat × Nat) :=
  [(0x21, 0x84), (0xA1, 0x167F), (0x1681, 0x1FFF), (0x2060, 0x2FFF), (0x3001, 0xD7FF),
    (0xE000, 0x10FFFF)]

def CaseRun.leadsInto (run : CaseRun) (range : Nat × Nat) : Bool :=
  Nat.blt 0 range.1 && Nat.ble range.1 run.image.1 && Nat.ble run.image.2 range.2

/-- No run of the table leads to a character that has a lower case of its own. -/
theorem lowerRuns_leadsPast : (lowerRuns.all fun run => lowerRuns.all run.leadsPast) = true := by
  decide +kernel

theorem lowerRuns_leadsInto :
    ∀ run ∈ lowerRuns, ∃ range ∈ visibleRanges, run.leadsInto range = true := by
  decide +kernel

theorem CaseRun.not_covers_of_leadsPast {run other : CaseRun} (hpast : run.leadsPast other = true)
    {code reached : Nat} (hcode : run.covers code = true)
    (hreached : (reached : Int) = code + run.shift) : other.covers reached = false := by
  simp only [leadsPast, image, Bool.or_eq_true, Bool.and_eq_true, Nat.blt_eq, Nat.beq_eq,
    beq_iff_eq] at hpast
  simp only [covers, Bool.and_eq_true, decide_eq_true_eq, beq_iff_eq] at hcode
  obtain ⟨⟨hfirst, hlast⟩, hstep⟩ := hcode
  rw [Bool.eq_false_iff]
  intro hother
  simp only [covers, Bool.and_eq_true, decide_eq_true_eq, beq_iff_eq] at hother
  obtain ⟨⟨hfirst', hlast'⟩, hstep'⟩ := hother
  rcases hpast with (hbelow | habove) | ⟨⟨⟨htwo | hsingle, htwo'⟩, hpos⟩, hodd⟩
  · omega
  · omega
  · rw [htwo] at hstep
    rw [htwo'] at hstep'
    omega
  · rw [htwo'] at hstep'
    omega

theorem CaseRun.image_mem_of_leadsInto {run : CaseRun} {range : Nat × Nat}
    (hinto : run.leadsInto range = true) {code : Nat} (hcode : run.covers code = true) :
    range.1 ≤ (code + run.shift).toNat ∧ (code + run.shift).toNat ≤ range.2
      ∧ ((code + run.shift).toNat : Int) = code + run.shift := by
  simp only [leadsInto, image, Bool.and_eq_true, Nat.blt_eq, Nat.ble_eq] at hinto
  simp only [covers, Bool.and_eq_true, decide_eq_true_eq] at hcode
  omega

theorem isValidChar_of_mem_visibleRanges {range : Nat × Nat} (hrange : range ∈ visibleRanges)
    {code : Nat} (hfirst : range.1 ≤ code) (hlast : code ≤ range.2) : code.isValidChar := by
  simp only [visibleRanges, List.mem_cons, List.not_mem_nil, or_false] at hrange
  rw [Nat.isValidChar]
  rcases hrange with rfl | rfl | rfl | rfl | rfl | rfl <;> simp only at hfirst hlast <;> omega

theorem isBlank_eq_false_of_mem_visibleRanges {range : Nat × Nat} (hrange : range ∈ visibleRanges)
    {c : Char} (hfirst : range.1 ≤ c.toNat) (hlast : c.toNat ≤ range.2) : isBlank c = false := by
  rw [Bool.eq_false_iff]
  intro hblank
  simp only [isBlank, Bool.or_eq_true, Bool.and_eq_true, decide_eq_true_eq, beq_iff_eq] at hblank
  simp only [visibleRanges, List.mem_cons, List.not_mem_nil, or_false] at hrange
  rcases hrange with rfl | rfl | rfl | rfl | rfl | rfl <;> simp only at hfirst hlast <;> omega

/-! ### Single characters -/

/-- A character stays as it is, or a run leads from it to another visible one. -/
theorem lowerChar_eq_or (c : Char) :
    lowerChar c = c ∨
      ∃ run ∈ lowerRuns, run.covers c.toNat = true ∧ isBlank (lowerChar c) = false
        ∧ ((lowerChar c).toNat : Int) = c.toNat + run.shift := by
  cases hfind : lowerRuns.find? fun run => run.covers c.toNat with
  | none =>
      left
      simp only [lowerChar, hfind]
  | some run =>
      right
      have hmem : run ∈ lowerRuns := List.mem_of_find?_eq_some hfind
      have hcovers : run.covers c.toNat = true := by simpa using List.find?_some hfind
      obtain ⟨range, hrange, hinto⟩ := lowerRuns_leadsInto run hmem
      obtain ⟨hfirst, hlast, himage⟩ := CaseRun.image_mem_of_leadsInto hinto hcovers
      have hvalid := isValidChar_of_mem_visibleRanges hrange hfirst hlast
      have hnat : (lowerChar c).toNat = (c.toNat + run.shift).toNat := by
        simp only [lowerChar, hfind]
        rw [Char.ofNat, dif_pos hvalid]
        rfl
      refine ⟨run, hmem, hcovers, ?_, by rw [hnat, himage]⟩
      exact isBlank_eq_false_of_mem_visibleRanges hrange (by rwa [hnat]) (by rwa [hnat])

theorem isBlank_lowerChar {c : Char} (hvisible : isBlank c = false) :
    isBlank (lowerChar c) = false := by
  rcases lowerChar_eq_or c with heq | ⟨run, -, -, hblank, -⟩
  · rwa [heq]
  · exact hblank

theorem lowerChar_lowerChar (c : Char) : lowerChar (lowerChar c) = lowerChar c := by
  rcases lowerChar_eq_or c with heq | ⟨run, hmem, hcovers, -, himage⟩
  · rw [heq, heq]
  · have hnone : lowerRuns.find? (fun other => other.covers (lowerChar c).toNat) = none := by
      rw [List.find?_eq_none]
      intro other hother
      rw [Bool.not_eq_true]
      have hpast := List.all_eq_true.1 (List.all_eq_true.1 lowerRuns_leadsPast run hmem) other hother
      exact CaseRun.not_covers_of_leadsPast hpast hcovers himage
    rw [lowerChar, hnone]

/-- A character that lower case leaves alone wherever it stands. -/
def IsLower (c : Char) : Prop :=
  lowerChar c = c ∧ c ≠ 'Σ' ∧ c ≠ 'İ'

instance (c : Char) : Decidable (IsLower c) :=
  inferInstanceAs (Decidable (lowerChar c = c ∧ c ≠ 'Σ' ∧ c ≠ 'İ'))

theorem lowerChar_ne_dottedI (c : Char) (hne : c ≠ 'İ') : lowerChar c ≠ 'İ' := by
  have hruns : (lowerRuns.all (·.leadsPast ⟨0x130, 0x130, 2, 0⟩)) = true := by decide +kernel
  intro heq
  rcases lowerChar_eq_or c with hsame | ⟨run, hmem, hcovers, -, himage⟩
  · exact hne (hsame ▸ heq)
  · have hnot := CaseRun.not_covers_of_leadsPast (List.all_eq_true.1 hruns run hmem) hcovers himage
    rw [heq] at hnot
    exact absurd hnot (by decide)

theorem isLower_lowerChar {c : Char} (hne : c ≠ 'İ') : IsLower (lowerChar c) := by
  refine ⟨lowerChar_lowerChar c, fun heq => ?_, lowerChar_ne_dottedI c hne⟩
  have hsame := lowerChar_lowerChar c
  rw [heq] at hsame
  exact absurd hsame (by decide +kernel)

/-! ### Texts -/

def lowering (before : List Char) (c : Char) (rest : List Char) : List Char :=
  if c = 'Σ' then
    if facesCased before && !facesCased rest then ['ς'] else ['σ']
  else if c = 'İ' then ['i', '\u0307']
  else [lowerChar c]

theorem lowerFrom_cons (before : List Char) (c : Char) (rest : List Char) :
    lowerFrom before (c :: rest) = lowering before c rest ++ lowerFrom (c :: before) rest := rfl

theorem lowering_ne_nil (before : List Char) (c : Char) (rest : List Char) :
    lowering before c rest ≠ [] := by
  unfold lowering
  split
  · split <;> simp
  · split <;> simp

theorem lowerFrom_eq_nil_iff {before text : List Char} : lowerFrom before text = [] ↔ text = [] := by
  cases text with
  | nil => exact iff_of_true rfl rfl
  | cons c rest =>
      rw [lowerFrom_cons, List.append_eq_nil_iff]
      exact iff_of_false (fun hnil => lowering_ne_nil _ _ _ hnil.1) (List.cons_ne_nil c rest)

theorem isLower_of_mem_lowering {before rest : List Char} {c d : Char}
    (hmem : d ∈ lowering before c rest) : IsLower d := by
  have hfinal : IsLower 'ς' := by decide +kernel
  have hsigma : IsLower 'σ' := by decide +kernel
  have hi : IsLower 'i' := by decide +kernel
  have hdot : IsLower '\u0307' := by decide +kernel
  unfold lowering at hmem
  split at hmem
  · split at hmem <;> rw [List.mem_singleton] at hmem <;> subst hmem <;> assumption
  · split at hmem
    · rw [List.mem_cons, List.mem_singleton] at hmem
      rcases hmem with rfl | rfl <;> assumption
    · next hne =>
        rw [List.mem_singleton] at hmem
        exact hmem ▸ isLower_lowerChar hne

theorem isBlank_of_mem_lowering {before rest : List Char} {c d : Char} (hvisible : isBlank c = false)
    (hmem : d ∈ lowering before c rest) : isBlank d = false := by
  unfold lowering at hmem
  split at hmem
  · split at hmem <;> rw [List.mem_singleton] at hmem <;> subst hmem <;> decide
  · split at hmem
    · rw [List.mem_cons, List.mem_singleton] at hmem
      rcases hmem with rfl | rfl <;> decide
    · rw [List.mem_singleton] at hmem
      exact hmem ▸ isBlank_lowerChar hvisible

theorem isLower_of_mem_lowerFrom {before text : List Char} {d : Char}
    (hmem : d ∈ lowerFrom before text) : IsLower d := by
  induction text generalizing before with
  | nil => cases hmem
  | cons c rest ih =>
      rw [lowerFrom_cons, List.mem_append] at hmem
      exact hmem.elim isLower_of_mem_lowering ih

theorem lowerFrom_eq_self {text : List Char} (hlower : ∀ c ∈ text, IsLower c) (before : List Char) :
    lowerFrom before text = text := by
  induction text generalizing before with
  | nil => rfl
  | cons c rest ih =>
      obtain ⟨hsame, hsigma, hdotted⟩ := hlower c List.mem_cons_self
      rw [lowerFrom_cons, ih fun d hd => hlower d (List.mem_cons_of_mem c hd), lowering,
        if_neg hsigma, if_neg hdotted, hsame]
      rfl

/-- Lower case is idempotent, final sigmas included. -/
theorem lower_lower (text : List Char) : lower (lower text) = lower text :=
  lowerFrom_eq_self (fun _ hmem => isLower_of_mem_lowerFrom hmem) []

/-! ### Trimmed texts -/

theorem exists_eq_dropEndWhile_append {α : Type} (p : α → Bool) (xs : List α) :
    ∃ cut, xs = dropEndWhile p xs ++ cut ∧ (∀ x ∈ cut, p x = true)
      ∧ ∀ x, (dropEndWhile p xs).getLast? = some x → p x = false := by
  induction xs with
  | nil => exact ⟨[], rfl, List.forall_mem_nil _, by simp [dropEndWhile]⟩
  | cons x rest ih =>
      obtain ⟨cut, hrest, hcut, hlast⟩ := ih
      rw [dropEndWhile]
      cases hkept : dropEndWhile p rest with
      | nil =>
          rw [hkept, List.nil_append] at hrest
          subst hrest
          by_cases hx : p x = true
          · exact ⟨x :: rest, by simp [hx], by simpa [hx] using hcut, by simp [hx]⟩
          · exact ⟨rest, by simp [hx], hcut, by simp [hx]⟩
      | cons y kept =>
          rw [hkept] at hrest hlast
          exact ⟨cut, congrArg (x :: ·) hrest, hcut, by simpa using hlast⟩

theorem dropEndWhile_append_of_forall {α : Type} {p : α → Bool} {kept cut : List α}
    (hlast : ∀ x, kept.getLast? = some x → p x = false) (hcut : ∀ x ∈ cut, p x = true) :
    dropEndWhile p (kept ++ cut) = kept := by
  induction kept with
  | nil =>
      induction cut with
      | nil => rfl
      | cons x rest ih =>
          rw [List.forall_mem_cons] at hcut
          rw [List.nil_append, dropEndWhile, ← List.nil_append rest, ih hcut.2]
          exact if_pos hcut.1
  | cons x rest ih =>
      cases rest with
      | nil =>
        rw [List.cons_append, dropEndWhile_cons_of_not (hlast x rfl), ih (by simp)]
      | cons y others =>
          rw [List.cons_append, dropEndWhile, ih (by simpa using hlast)]

/-- What is left of a text when a part of it is cut off at its end. -/
theorem dropEndWhile_eq_iff {α : Type} {p : α → Bool} {xs kept : List α} :
    dropEndWhile p xs = kept ↔
      ∃ cut, xs = kept ++ cut ∧ (∀ x ∈ cut, p x = true) ∧ ∀ x, kept.getLast? = some x → p x = false := by
  constructor
  · rintro rfl
    exact exists_eq_dropEndWhile_append p xs
  · rintro ⟨cut, rfl, hcut, hlast⟩
    exact dropEndWhile_append_of_forall hlast hcut

theorem dropEndWhile_eq_self_iff {α : Type} {p : α → Bool} {xs : List α} :
    dropEndWhile p xs = xs ↔ ∀ x, xs.getLast? = some x → p x = false := by
  rw [dropEndWhile_eq_iff]
  constructor
  · rintro ⟨cut, -, -, hlast⟩
    exact hlast
  · intro hlast
    exact ⟨[], (List.append_nil xs).symm, List.forall_mem_nil _, hlast⟩

theorem dropEndWhile_eq_nil_iff {α : Type} {p : α → Bool} {xs : List α} :
    dropEndWhile p xs = [] ↔ ∀ x ∈ xs, p x = true := by
  rw [dropEndWhile_eq_iff]
  constructor
  · rintro ⟨cut, rfl, hcut, -⟩
    exact hcut
  · intro hall
    exact ⟨xs, rfl, hall, fun x hx => by cases hx⟩

theorem dropEndWhile_append {α : Type} {p : α → Bool} {kept : List α} (hne : kept ≠ [])
    (hkept : dropEndWhile p kept = kept) (xs : List α) :
    dropEndWhile p (xs ++ kept) = xs ++ kept := by
  rw [dropEndWhile_eq_self_iff] at hkept ⊢
  rwa [List.getLast?_append_of_ne_nil _ hne]

/-- Lower case keeps what ends in a visible character so. -/
theorem dropEndWhile_lowerFrom {text : List Char} (hsame : dropEndWhile isBlank text = text)
    (before : List Char) : dropEndWhile isBlank (lowerFrom before text) = lowerFrom before text := by
  induction text generalizing before with
  | nil => rfl
  | cons c rest ih =>
      rw [dropEndWhile_eq_self_iff] at hsame
      rw [lowerFrom_cons]
      by_cases hlast : rest = []
      · subst hlast
        rw [dropEndWhile_eq_self_iff, lowerFrom, List.append_nil]
        intro d hd
        exact isBlank_of_mem_lowering (hsame c rfl) (List.mem_of_getLast? hd)
      · have hrest : dropEndWhile isBlank rest = rest := by
          rw [dropEndWhile_eq_self_iff]
          rwa [List.getLast?_cons_of_ne_nil hlast] at hsame
        exact dropEndWhile_append (mt lowerFrom_eq_nil_iff.1 hlast) (ih hrest _) _

/-- A trimmed text is still trimmed in lower case. -/
theorem trim_lower_trim (text : List Char) : trim (lower (trim text)) = lower (trim text) := by
  have hend : dropEndWhile isBlank (trim text) = trim text := dropEndWhile_idem isBlank _
  have hstart : (lower (trim text)).dropWhile isBlank = lower (trim text) := by
    cases hdropped : text.dropWhile isBlank with
    | nil =>
        have htrim : trim text = [] := by rw [trim, hdropped]; rfl
        rw [htrim]
        rfl
    | cons c rest =>
        have hvisible : isBlank c = false := by
          have hhead := List.head?_dropWhile_not isBlank text
          rw [hdropped] at hhead
          simpa using hhead
        have htrim : trim text = c :: dropEndWhile isBlank rest := by
          rw [trim, hdropped, dropEndWhile_cons_of_not hvisible]
        rw [htrim, lower, lowerFrom_cons]
        cases hlowering : lowering [] c (dropEndWhile isBlank rest) with
        | nil => exact absurd hlowering (lowering_ne_nil _ _ _)
        | cons d others =>
            have hblank : isBlank d = false :=
              isBlank_of_mem_lowering hvisible (hlowering ▸ List.mem_cons_self)
            rw [List.cons_append, List.dropWhile_cons_of_neg (by simp [hblank])]
  rw [trim, hstart]
  exact dropEndWhile_lowerFrom hend []

def IsTrimOf (raw text : List Char) : Prop :=
  ∃ before after, raw = before ++ text ++ after
    ∧ (∀ c ∈ before, isBlank c = true) ∧ (∀ c ∈ after, isBlank c = true)
    ∧ (∀ c, text.head? = some c → isBlank c = false) ∧ ∀ c, text.getLast? = some c → isBlank c = false

/-- Trimming cuts off the blank ends, and nothing else. -/
theorem trim_eq_iff {raw text : List Char} : trim raw = text ↔ IsTrimOf raw text := by
  rw [trim, dropEndWhile_eq_iff]
  constructor
  · rintro ⟨after, hdropped, hafter, hlast⟩
    refine ⟨raw.takeWhile isBlank, after, ?_, List.all_eq_true.1 List.all_takeWhile, hafter, fun c hc => ?_, hlast⟩
    · rw [List.append_assoc, ← hdropped, List.takeWhile_append_dropWhile]
    · have hhead := List.head?_dropWhile_not isBlank raw
      rw [hdropped, List.head?_append, hc] at hhead
      simpa using hhead
  · rintro ⟨before, after, rfl, hbefore, hafter, hhead, hlast⟩
    have hdropped : (before ++ text ++ after).dropWhile isBlank = (text ++ after).dropWhile isBlank := by
      rw [List.append_assoc, List.dropWhile_append_of_pos hbefore]
    rw [hdropped]
    cases text with
    | nil => exact ⟨[], List.dropWhile_eq_nil_iff.2 hafter, List.forall_mem_nil _, hlast⟩
    | cons c rest =>
        exact ⟨after, List.dropWhile_cons_of_neg (by simp [hhead c rfl]), hafter, hlast⟩

theorem trim_eq_nil_iff {raw : List Char} : trim raw = [] ↔ ∀ c ∈ raw, isBlank c = true := by
  rw [trim_eq_iff]
  constructor
  · rintro ⟨before, after, rfl, hbefore, hafter, -⟩
    rw [List.append_nil, List.forall_mem_append]
    exact ⟨hbefore, hafter⟩
  · intro hblank
    exact ⟨raw, [], by simp, hblank, by simp, by simp, by simp⟩

end OrphanWatch.Text

namespace OrphanWatch.Key

/-- A normal text is its own normal form. -/
theorem normalText_normalText (raw : List Char) : normalText (normalText raw) = normalText raw := by
  rw [normalText, normalText, Text.trim_lower_trim, Text.lower_lower]

theorem normalize_eq_some_iff {scope : Scope} {raw : String} {key : Key} :
    normalize scope raw = some key ↔
      key.scope = scope ∧ key.value.toList = normalText raw.toList ∧ normalText raw.toList ≠ [] := by
  obtain ⟨keyScope, value⟩ := key
  rw [normalize]
  cases hnormal : normalText raw.toList with
  | nil => simp
  | cons c rest =>
      simp only [Option.some.injEq, Key.mk.injEq, ne_eq, reduceCtorEq, not_false_eq_true, and_true]
      constructor
      · rintro ⟨rfl, rfl⟩
        exact ⟨rfl, String.toList_ofList⟩
      · rintro ⟨rfl, hvalue⟩
        exact ⟨rfl, by rw [← hvalue, String.ofList_toList]⟩

/-- A raw text gives a key if it has a character that is not white space. -/
theorem exists_normalize_iff {scope : Scope} {raw : String} :
    (∃ key, normalize scope raw = some key) ↔ ∃ c ∈ raw.toList, Text.isBlank c = false := by
  have hvisible : normalText raw.toList ≠ [] ↔ ∃ c ∈ raw.toList, Text.isBlank c = false := by
    rw [ne_eq, normalText, Text.lower, Text.lowerFrom_eq_nil_iff, Text.trim_eq_nil_iff]
    simp only [not_forall, exists_prop, Bool.not_eq_true]
  rw [← hvisible]
  constructor
  · rintro ⟨key, hkey⟩
    exact (normalize_eq_some_iff.1 hkey).2.2
  · intro hne
    exact ⟨⟨scope, String.ofList (normalText raw.toList)⟩,
      normalize_eq_some_iff.2 ⟨rfl, String.toList_ofList, hne⟩⟩

def IsNormal (key : Key) : Prop :=
  normalize key.scope key.value = some key

/-- Every key that is made from a text is normal. -/
theorem isNormal_of_normalize {scope : Scope} {raw : String} {key : Key}
    (hkey : normalize scope raw = some key) : key.IsNormal := by
  obtain ⟨-, hvalue, hne⟩ := normalize_eq_some_iff.1 hkey
  refine normalize_eq_some_iff.2 ⟨rfl, ?_, ?_⟩
  · rw [hvalue, normalText_normalText]
  · rwa [hvalue, normalText_normalText]

/-- The key of a record is normal and lies in the scope of the record's kind. -/
theorem isNormal_of_ofRecord? {record : Record} {key : Key} (hkey : ofRecord? record = some key) :
    key.IsNormal ∧ key.scope = record.kind.scope := by
  unfold ofRecord? at hkey
  split at hkey
  · next hkind =>
      rw [hkind]
      exact ⟨isNormal_of_normalize hkey, (normalize_eq_some_iff.1 hkey).1⟩
  · obtain ⟨raw, -, hraw⟩ := Option.bind_eq_some_iff.1 hkey
    exact ⟨isNormal_of_normalize hraw, (normalize_eq_some_iff.1 hraw).1⟩

end OrphanWatch.Key
