/-!
Cutting texts at a character or at a given start.

The functions work on lists of characters; each has a form on strings, which is what the rest of the
library calls.
-/

namespace OrphanWatch.Text

def splitFirst (mark : Char) : List Char → Option (List Char × List Char)
  | [] => none
  | c :: rest =>
    if c = mark then some ([], rest)
    else (splitFirst mark rest).map fun (before, after) => (c :: before, after)

/-- What follows the last occurrence of `mark`; the whole text if it does not occur. -/
def afterLast (mark : Char) (text : List Char) : List Char :=
  (text.reverse.takeWhile (· ≠ mark)).reverse

def pieces (mark : Char) : List Char → List (List Char)
  | [] => [[]]
  | c :: rest =>
    if c = mark then [] :: pieces mark rest
    else
      match pieces mark rest with
      | [] => [[c]]
      | piece :: others => (c :: piece) :: others

def afterStart : List Char → List Char → Option (List Char)
  | [], text => some text
  | _ :: _, [] => none
  | s :: start, c :: text => if s = c then afterStart start text else none

def occursIn (part : List Char) : List Char → Bool
  | [] => part.isEmpty
  | c :: rest => (afterStart part (c :: rest)).isSome || occursIn part rest

def splitOnce (mark : Char) (text : String) : Option (String × String) :=
  (splitFirst mark text.toList).map fun (before, after) =>
    (String.ofList before, String.ofList after)

def mentions (text : String) (mark : Char) : Bool :=
  text.toList.contains mark

theorem splitFirst_append {mark : Char} {before : List Char} (h : mark ∉ before)
    (after : List Char) : splitFirst mark (before ++ mark :: after) = some (before, after) := by
  induction before with
  | nil => simp [splitFirst]
  | cons c rest ih =>
    simp only [List.mem_cons, not_or] at h
    simp [splitFirst, Ne.symm h.1, ih h.2]

theorem splitFirst_eq_none_iff {mark : Char} {text : List Char} :
    splitFirst mark text = none ↔ mark ∉ text := by
  induction text with
  | nil => simp [splitFirst]
  | cons c rest ih =>
    by_cases h : c = mark
    · simp [splitFirst, h]
    · simp [splitFirst, h, ih, Ne.symm h]

/-- A text is split at the first mark. -/
theorem splitFirst_eq_some_iff {mark : Char} {text before after : List Char} :
    splitFirst mark text = some (before, after) ↔
      mark ∉ before ∧ text = before ++ mark :: after := by
  constructor
  · intro h
    induction text generalizing before with
    | nil => simp [splitFirst] at h
    | cons c rest ih =>
      by_cases hc : c = mark
      · simp only [splitFirst, hc, if_true, Option.some.injEq, Prod.mk.injEq] at h
        obtain ⟨rfl, rfl⟩ := h
        simp [hc]
      · simp only [splitFirst, hc, if_false, Option.map_eq_some_iff] at h
        obtain ⟨⟨first, second⟩, hrest, heq⟩ := h
        simp only [Prod.mk.injEq] at heq
        obtain ⟨rfl, rfl⟩ := heq
        obtain ⟨hnot, rfl⟩ := ih hrest
        exact ⟨by simp [Ne.symm hc, hnot], rfl⟩
  · rintro ⟨h, rfl⟩
    exact splitFirst_append h after

theorem splitOnce_eq_some_iff {mark : Char} {text before after : String} :
    splitOnce mark text = some (before, after) ↔
      mark ∉ before.toList ∧ text.toList = before.toList ++ mark :: after.toList := by
  rw [splitOnce, Option.map_eq_some_iff]
  constructor
  · rintro ⟨⟨first, second⟩, hparts, heq⟩
    cases heq
    rw [String.toList_ofList, String.toList_ofList]
    exact splitFirst_eq_some_iff.1 hparts
  · intro hparts
    exact ⟨(before.toList, after.toList), splitFirst_eq_some_iff.2 hparts,
      Prod.ext String.ofList_toList String.ofList_toList⟩

theorem afterStart_eq_some_iff {start text rest : List Char} :
    afterStart start text = some rest ↔ text = start ++ rest := by
  induction start generalizing text with
  | nil => simp [afterStart, eq_comm]
  | cons s start ih =>
    cases text with
    | nil => simp [afterStart]
    | cons c text =>
      by_cases h : s = c
      · simp [afterStart, h, ih]
      · simp [afterStart, h, Ne.symm h]

end OrphanWatch.Text
