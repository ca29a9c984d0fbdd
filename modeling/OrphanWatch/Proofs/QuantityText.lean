import Mathlib.Data.List.TakeWhile
import OrphanWatch.Proofs.NormalText
import OrphanWatch.Quantity

/-!
# Amounts as texts

The texts that are read as an amount are those of a small grammar: a number of digits with at most one point, and
one of fourteen suffixes. Every other text is refused, and the reason tells in which of three ways it fails
(`Quantity.parse_grammar`). The number ends at the first character that is neither a digit nor a point, so that a
sign, a digit of another script or a blank inside the text is never part of it.
-/

namespace OrphanWatch.Quantity

/-- The text is a number of digits and points, as long as it can be, and the rest. -/
structure CutBehind (text number suffix : List Char) : Prop where
  text_eq : text = number ++ suffix
  number_chars : ∀ c ∈ number, isNumberChar c = true
  stops : ∀ c, suffix.head? = some c → isNumberChar c = false

/-- Digits before and after a point, or digits alone. -/
inductive IsNumeral : List Char → List Char → List Char → Prop
  | whole {digits : List Char} (hdigits : digits.all Text.isDigit = true) (hne : digits ≠ []) :
    IsNumeral digits digits []
  | pointed {integer fraction : List Char} (hinteger : integer.all Text.isDigit = true)
    (hfraction : fraction.all Text.isDigit = true) (hne : integer ++ fraction ≠ []) :
    IsNumeral (integer ++ '.' :: fraction) integer fraction

def IsNumber (number : List Char) : Prop :=
  (∃ c ∈ number, Text.isDigit c = true) ∧ number.count '.' ≤ 1

def suffixes : List (String × Suffix) :=
  [("", .none), ("Ki", .binary 1), ("Mi", .binary 2), ("Gi", .binary 3), ("Ti", .binary 4), ("Pi", .binary 5),
    ("Ei", .binary 6), ("k", .decimal 1), ("M", .decimal 2), ("G", .decimal 3), ("T", .decimal 4),
    ("P", .decimal 5), ("E", .decimal 6), ("m", .milli)]

variable {text number integer fraction digits rest : List Char} {suffix : Suffix}

/-! ### The number and the rest -/

theorem cutBehind_span (text : List Char) :
    CutBehind text (text.takeWhile isNumberChar) (text.dropWhile isNumberChar) where
  text_eq := List.takeWhile_append_dropWhile.symm
  number_chars := List.all_eq_true.1 List.all_takeWhile
  stops c hc := by
    have hhead := List.head?_dropWhile_not isNumberChar text
    rw [hc] at hhead
    simpa using hhead

/-- There is only one longest cut. -/
theorem CutBehind.eq_span (hcut : CutBehind text number rest) :
    text.takeWhile isNumberChar = number ∧ text.dropWhile isNumberChar = rest := by
  obtain ⟨rfl, hnumber, hstops⟩ := hcut
  rw [List.takeWhile_append_of_pos hnumber, List.dropWhile_append_of_pos hnumber]
  cases rest with
  | nil => simp
  | cons c others => simp [hstops c rfl]

/-! ### The number -/

theorem not_isDigit_point : Text.isDigit '.' = false := by decide

theorem span_isDigit (hdigits : digits.all Text.isDigit = true) (fraction : List Char) :
    (digits ++ '.' :: fraction).takeWhile Text.isDigit = digits
    ∧ (digits ++ '.' :: fraction).dropWhile Text.isDigit = '.' :: fraction := by
  rw [List.takeWhile_append_of_pos (List.all_eq_true.1 hdigits),
    List.dropWhile_append_of_pos (List.all_eq_true.1 hdigits)]
  simp [not_isDigit_point]

theorem isNumberChar_iff {c : Char} : isNumberChar c = true ↔ Text.isDigit c = true ∨ c = '.' := by
  rw [isNumberChar, Bool.or_eq_true, beq_iff_eq]

theorem has_digits_iff : (!(integer.isEmpty && fraction.isEmpty)) = true ↔ integer ++ fraction ≠ [] := by
  cases integer <;> cases fraction <;> simp

theorem splitNumber_eq_some_iff (hnumber : ∀ c ∈ number, isNumberChar c = true) :
    splitNumber number = some (integer, fraction) ↔ IsNumeral number integer fraction := by
  constructor
  · intro hsplit
    have hdigits : (number.takeWhile Text.isDigit).all Text.isDigit = true := List.all_takeWhile
    have hspan := List.takeWhile_append_dropWhile (p := Text.isDigit) (l := number)
    have hhead := List.head?_dropWhile_not Text.isDigit number
    simp only [splitNumber] at hsplit
    split at hsplit
    · next hdropped =>
        rw [hdropped, List.append_nil] at hspan
        rw [hspan] at hsplit hdigits
        split at hsplit
        · cases hsplit
        · next hne =>
            cases hsplit
            exact .whole hdigits (by simpa using hne)
    · next c rest hdropped =>
        rw [hdropped] at hspan hhead
        have hpoint : c = '.' := by
          have hc := isNumberChar_iff.1 (hnumber c (hspan ▸ by simp))
          exact hc.resolve_left (by simpa using hhead)
        split at hsplit
        · next hparts =>
            cases hsplit
            rw [Bool.and_eq_true] at hparts
            have hnumeral := IsNumeral.pointed hdigits hparts.1 (has_digits_iff.1 hparts.2)
            rwa [← hpoint, hspan] at hnumeral
        · cases hsplit
  · intro hnumeral
    cases hnumeral with
    | whole hdigits hne =>
        have hall := List.all_eq_true.1 hdigits
        have htaken : number.takeWhile Text.isDigit = number := List.takeWhile_eq_self_iff.2 hall
        have hdropped : number.dropWhile Text.isDigit = [] := List.dropWhile_eq_nil_iff.2 hall
        simp [splitNumber, htaken, hdropped, hne]
    | pointed hinteger hfraction hne =>
        obtain ⟨htaken, hdropped⟩ := span_isDigit hinteger fraction
        simp only [splitNumber, htaken, hdropped]
        rw [hfraction, Bool.true_and, if_pos (has_digits_iff.2 hne)]

theorem count_point_eq_zero (hdigits : digits.all Text.isDigit = true) : digits.count '.' = 0 := by
  rw [List.count_eq_zero]
  intro hmem
  have := List.all_eq_true.1 hdigits '.' hmem
  rw [not_isDigit_point] at this
  cases this

theorem exists_isDigit (hdigits : digits.all Text.isDigit = true) (hne : digits ≠ []) :
    ∃ c ∈ digits, Text.isDigit c = true := by
  obtain ⟨c, hc⟩ := List.exists_mem_of_ne_nil digits hne
  exact ⟨c, hc, List.all_eq_true.1 hdigits c hc⟩

theorem IsNumeral.isNumber (hnumeral : IsNumeral number integer fraction) : IsNumber number := by
  cases hnumeral with
  | whole hdigits hne => exact ⟨exists_isDigit hdigits hne, (count_point_eq_zero hdigits).trans_le (Nat.zero_le 1)⟩
  | pointed hinteger hfraction hne =>
      constructor
      · obtain ⟨c, hc, hdigit⟩ := exists_isDigit (by rw [List.all_append, hinteger, hfraction]; rfl) hne
        refine ⟨c, ?_, hdigit⟩
        rw [List.mem_append] at hc
        simp only [List.mem_append, List.mem_cons]
        tauto
      · rw [List.count_append, List.count_cons, count_point_eq_zero hinteger, count_point_eq_zero hfraction]
        decide

theorem all_isDigit_of_not_mem (hchars : ∀ c ∈ digits, isNumberChar c = true) (hpoint : '.' ∉ digits) :
    digits.all Text.isDigit = true := by
  rw [List.all_eq_true]
  intro c hc
  refine (isNumberChar_iff.1 (hchars c hc)).resolve_right ?_
  rintro rfl
  exact hpoint hc

theorem IsNumber.exists_numeral (hnumber : IsNumber number) (hchars : ∀ c ∈ number, isNumberChar c = true) :
    ∃ integer fraction, IsNumeral number integer fraction := by
  obtain ⟨⟨digit, hmem, hdigit⟩, hcount⟩ := hnumber
  by_cases hpoint : '.' ∈ number
  · obtain ⟨integer, fraction, rfl, hinteger⟩ := List.eq_append_cons_of_mem hpoint
    rw [List.count_append, List.count_cons_self] at hcount
    have hfraction : '.' ∉ fraction := by
      rw [← List.count_eq_zero]
      omega
    simp only [List.mem_append, List.mem_cons] at hchars hmem
    refine ⟨integer, fraction, .pointed ?_ ?_ ?_⟩
    · exact all_isDigit_of_not_mem (fun c hc => hchars c (.inl hc)) hinteger
    · exact all_isDigit_of_not_mem (fun c hc => hchars c (.inr (.inr hc))) hfraction
    · -- The digit that the number has is not the point.
      rintro hnil
      obtain ⟨rfl, rfl⟩ := List.append_eq_nil_iff.1 hnil
      obtain hnone | rfl | hnone := hmem
      · cases hnone
      · rw [not_isDigit_point] at hdigit
        cases hdigit
      · cases hnone
  · exact ⟨number, [], .whole (all_isDigit_of_not_mem hchars hpoint) (List.ne_nil_of_mem hmem)⟩

/-! ### The suffix -/

theorem ofText?_eq_some_iff :
    Suffix.ofText? rest = some suffix ↔ (String.ofList rest, suffix) ∈ suffixes := by
  constructor
  · intro hsuffix
    unfold Suffix.ofText? at hsuffix
    split at hsuffix <;> cases hsuffix <;> decide
  · intro hmem
    have htexts : ∀ entry ∈ suffixes, Suffix.ofText? entry.1.toList = some entry.2 := by decide
    have := htexts _ hmem
    rwa [String.toList_ofList] at this

/-! ### Reading -/

theorem readAmount_of_cut (hcut : CutBehind text number rest) (hne : text ≠ []) :
    readAmount text =
      match splitNumber number with
      | none => .error (.quantity ("invalid number: " ++ String.ofList text))
      | some (integer, fraction) =>
        match Suffix.ofText? rest with
        | none => .error (.quantity ("unknown suffix: " ++ String.ofList rest))
        | some suffix => .ok ⟨integer, fraction, suffix⟩ := by
  obtain ⟨rfl, rfl⟩ := hcut.eq_span
  rw [readAmount]
  exact if_neg (by simpa using hne)

theorem readAmount_of_not_isNumber (hcut : CutBehind text number rest) (hne : text ≠ [])
    (hnumber : ¬ IsNumber number) :
    readAmount text = .error (.quantity ("invalid number: " ++ String.ofList text)) := by
  have hsplit : splitNumber number = none := by
    rw [Option.eq_none_iff_forall_ne_some]
    rintro ⟨integer, fraction⟩ hsome
    exact hnumber ((splitNumber_eq_some_iff hcut.number_chars).1 hsome).isNumber
  rw [readAmount_of_cut hcut hne, hsplit]

theorem IsNumber.ne_nil (hnumber : IsNumber number) : number ≠ [] := by
  obtain ⟨⟨c, hc, -⟩, -⟩ := hnumber
  exact List.ne_nil_of_mem hc

theorem CutBehind.text_ne_nil (hcut : CutBehind text number rest) (hnumber : IsNumber number) : text ≠ [] := by
  rw [hcut.text_eq]
  exact List.append_ne_nil_of_left_ne_nil hnumber.ne_nil rest

theorem readAmount_of_isNumeral (hcut : CutBehind text number rest) (hnumeral : IsNumeral number integer fraction) :
    readAmount text =
      match Suffix.ofText? rest with
      | none => .error (.quantity ("unknown suffix: " ++ String.ofList rest))
      | some suffix => .ok ⟨integer, fraction, suffix⟩ := by
  rw [readAmount_of_cut hcut (hcut.text_ne_nil hnumeral.isNumber),
    (splitNumber_eq_some_iff hcut.number_chars).2 hnumeral]

def IsWrittenAs (text : List Char) (amount : Amount) : Prop :=
  ∃ number rest, CutBehind text number rest ∧ IsNumeral number amount.integer amount.fraction
    ∧ (String.ofList rest, amount.suffix) ∈ suffixes

theorem exists_ofText?_iff :
    (∃ suffix, Suffix.ofText? rest = some suffix) ↔ String.ofList rest ∈ suffixes.map Prod.fst := by
  simp [ofText?_eq_some_iff]

/-- What becomes of a text: the four ways exclude each other, and there is no fifth. -/
inductive Verdict (text number rest : List Char) : Except MonitorError Amount → Prop
  | empty (hempty : text = []) (hnumber : ¬ IsNumber number) :
    Verdict text number rest (.error (.quantity "empty quantity"))
  | invalidNumber (hne : text ≠ []) (hnumber : ¬ IsNumber number) :
    Verdict text number rest (.error (.quantity ("invalid number: " ++ String.ofList text)))
  | unknownSuffix (hne : text ≠ []) (hnumber : IsNumber number)
    (hsuffix : String.ofList rest ∉ suffixes.map Prod.fst) :
    Verdict text number rest (.error (.quantity ("unknown suffix: " ++ String.ofList rest)))
  | amount (amount : Amount) (hne : text ≠ []) (hnumeral : IsNumeral number amount.integer amount.fraction)
    (hsuffix : (String.ofList rest, amount.suffix) ∈ suffixes) : Verdict text number rest (.ok amount)

/-- Every text gets one of the four verdicts. -/
theorem verdict_readAmount (hcut : CutBehind text number rest) : Verdict text number rest (readAmount text) := by
  by_cases hempty : text = []
  · have hnumber : ¬ IsNumber number := fun hnumber => hcut.text_ne_nil hnumber hempty
    rw [readAmount, if_pos (by simpa using hempty)]
    exact .empty hempty hnumber
  by_cases hnumber : IsNumber number
  · obtain ⟨integer, fraction, hnumeral⟩ := hnumber.exists_numeral hcut.number_chars
    rw [readAmount_of_isNumeral hcut hnumeral]
    cases hsuffix : Suffix.ofText? rest with
    | none =>
        refine .unknownSuffix hempty hnumber ?_
        rw [← exists_ofText?_iff, hsuffix]
        rintro ⟨suffix, hsome⟩
        cases hsome
    | some suffix => exact .amount ⟨integer, fraction, suffix⟩ hempty hnumeral (ofText?_eq_some_iff.1 hsuffix)
  · rw [readAmount_of_not_isNumber hcut hempty hnumber]
    exact .invalidNumber hempty hnumber

/-- An amount is read from the texts that write it, and from no others. -/
theorem readAmount_eq_ok_iff {amount : Amount} : readAmount text = .ok amount ↔ IsWrittenAs text amount := by
  constructor
  · intro hread
    have hcut := cutBehind_span text
    have hverdict := verdict_readAmount hcut
    rw [hread] at hverdict
    cases hverdict with
    | amount _ _ hnumeral hsuffix => exact ⟨_, _, hcut, hnumeral, hsuffix⟩
  · rintro ⟨number, rest, hcut, hnumeral, hsuffix⟩
    rw [readAmount_of_isNumeral hcut hnumeral, ofText?_eq_some_iff.2 hsuffix]

/-- The reasons differ in their first letters. -/
theorem error_ne {first second : String} (hhead : first.toList.head? ≠ second.toList.head?) :
    (Except.error (.quantity first) : Except MonitorError Amount) ≠ .error (.quantity second) := by
  rintro hsame
  cases hsame
  exact hhead rfl

section Verdict

variable {result : Except MonitorError Amount} (hverdict : Verdict text number rest result)
include hverdict

theorem Verdict.exists_ok_iff :
    (∃ amount, result = .ok amount) ↔ IsNumber number ∧ String.ofList rest ∈ suffixes.map Prod.fst := by
  cases hverdict with
  | empty _ hnumber => exact iff_of_false nofun fun haccepted => hnumber haccepted.1
  | invalidNumber _ hnumber => exact iff_of_false nofun fun haccepted => hnumber haccepted.1
  | unknownSuffix _ _ hsuffix => exact iff_of_false nofun fun haccepted => hsuffix haccepted.2
  | amount amount _ hnumeral hsuffix =>
      exact iff_of_true ⟨amount, rfl⟩ ⟨hnumeral.isNumber, List.mem_map.2 ⟨_, hsuffix, rfl⟩⟩

theorem Verdict.empty_iff : result = .error (.quantity "empty quantity") ↔ text = [] := by
  cases hverdict with
  | empty hempty => exact iff_of_true rfl hempty
  | invalidNumber hne => exact iff_of_false (error_ne (by simp)) hne
  | unknownSuffix hne => exact iff_of_false (error_ne (by simp)) hne
  | amount _ hne => exact iff_of_false nofun hne

theorem Verdict.invalidNumber_iff :
    result = .error (.quantity ("invalid number: " ++ String.ofList text)) ↔ text ≠ [] ∧ ¬ IsNumber number := by
  cases hverdict with
  | empty hempty => exact iff_of_false (error_ne (by simp)) fun hinvalid => hinvalid.1 hempty
  | invalidNumber hne hnumber => exact iff_of_true rfl ⟨hne, hnumber⟩
  | unknownSuffix _ hnumber => exact iff_of_false (error_ne (by simp)) fun hinvalid => hinvalid.2 hnumber
  | amount _ _ hnumeral => exact iff_of_false nofun fun hinvalid => hinvalid.2 hnumeral.isNumber

theorem Verdict.unknownSuffix_iff :
    result = .error (.quantity ("unknown suffix: " ++ String.ofList rest))
      ↔ IsNumber number ∧ String.ofList rest ∉ suffixes.map Prod.fst := by
  cases hverdict with
  | empty _ hnumber => exact iff_of_false (error_ne (by simp)) fun hunknown => hnumber hunknown.1
  | invalidNumber _ hnumber => exact iff_of_false (error_ne (by simp)) fun hunknown => hnumber hunknown.1
  | unknownSuffix _ hnumber hsuffix => exact iff_of_true rfl ⟨hnumber, hsuffix⟩
  | amount _ _ _ hsuffix => exact iff_of_false nofun fun hunknown => hunknown.2 (List.mem_map.2 ⟨_, hsuffix, rfl⟩)

end Verdict

theorem parse_eq_ok_iff {text : String} {bytes : ℕ} :
    parse text = .ok bytes ↔ ∃ amount, readAmount (Text.trim text.toList) = .ok amount ∧ amount.bytes = bytes := by
  rw [parse]
  cases readAmount (Text.trim text.toList) <;> simp [Except.map]

theorem parse_eq_error_iff {text : String} {error : MonitorError} :
    parse text = .error error ↔ readAmount (Text.trim text.toList) = .error error := by
  rw [parse]
  cases readAmount (Text.trim text.toList) <;> simp [Except.map]

theorem exists_parse_iff {text : String} :
    (∃ bytes, parse text = .ok bytes) ↔ ∃ amount, readAmount (Text.trim text.toList) = .ok amount := by
  simp [parse_eq_ok_iff]

theorem CutBehind.not_isNumber_of_head (hcut : CutBehind text number rest) {c : Char} (hhead : text.head? = some c)
    (hc : isNumberChar c = false) : ¬ IsNumber number := by
  intro hnumber
  obtain ⟨first, others, rfl⟩ := List.exists_cons_of_ne_nil hnumber.ne_nil
  rw [hcut.text_eq, List.cons_append, List.head?_cons, Option.some_inj] at hhead
  have hfirst := hcut.number_chars first List.mem_cons_self
  rw [hhead, hc] at hfirst
  cases hfirst

/-- **The grammar of amounts.** -/
theorem parse_grammar (text : String) :
    ∃ body number rest, Text.IsTrimOf text.toList body ∧ CutBehind body number rest
      ∧ (∀ otherNumber otherRest, CutBehind body otherNumber otherRest →
        otherNumber = number ∧ otherRest = rest)
      ∧ ((∃ bytes, parse text = .ok bytes) ↔ IsNumber number ∧ String.ofList rest ∈ suffixes.map Prod.fst)
      ∧ (parse text = .error (.quantity "empty quantity") ↔ ∀ c ∈ text.toList, Text.isBlank c = true)
      ∧ (parse text = .error (.quantity ("invalid number: " ++ String.ofList body)) ↔
        (∃ c ∈ text.toList, Text.isBlank c = false) ∧ ¬ IsNumber number)
      ∧ (parse text = .error (.quantity ("unknown suffix: " ++ String.ofList rest)) ↔
        IsNumber number ∧ String.ofList rest ∉ suffixes.map Prod.fst)
      ∧ ∀ c, body.head? = some c → isNumberChar c = false →
        parse text = .error (.quantity ("invalid number: " ++ String.ofList body)) := by
  obtain ⟨body, hbody⟩ : ∃ body, Text.trim text.toList = body := ⟨_, rfl⟩
  have hcut := cutBehind_span body
  have hverdict := verdict_readAmount hcut
  have hblank : body = [] ↔ ∀ c ∈ text.toList, Text.isBlank c = true := by rw [← hbody, Text.trim_eq_nil_iff]
  have hvisible : body ≠ [] ↔ ∃ c ∈ text.toList, Text.isBlank c = false := by
    rw [ne_eq, hblank]
    push Not
    simp
  refine ⟨body, _, _, Text.trim_eq_iff.1 hbody, hcut, fun otherNumber otherRest hother => ?_, ?_⟩
  · obtain ⟨htaken, hdropped⟩ := hother.eq_span
    exact ⟨htaken.symm, hdropped.symm⟩
  rw [exists_parse_iff]
  simp only [parse_eq_error_iff, hbody]
  refine ⟨hverdict.exists_ok_iff, hverdict.empty_iff.trans hblank,
    hverdict.invalidNumber_iff.trans (and_congr_left' hvisible), hverdict.unknownSuffix_iff, fun c hhead hc => ?_⟩
  refine hverdict.invalidNumber_iff.2 ⟨?_, hcut.not_isNumber_of_head hhead hc⟩
  rintro rfl
  cases hhead

example : ["1e3", "5gi", "5Gi B", "1K"].map parse =
    ["e3", "gi", "Gi B", "K"].map fun rest => .error (.quantity ("unknown suffix: " ++ rest)) := by
  decide +kernel

end OrphanWatch.Quantity
