import Mathlib.Data.List.Forall2
import OrphanWatch.Config.Expansion

/-!
# The grammar of references

Every text is cut in exactly one way into literals and references, the last of which may have no end
(`Template.of_eq_iff`). The expansion puts the value of every reference between the literals around it, and never looks
at what it has put there; if some reference has no value, or the last one no end, the first such place is the one
that is reported (`Expansion.expand_grammar`).
-/

namespace OrphanWatch.Expansion

def IsPlain (text : List Char) : Prop :=
  ¬ ['$', '\x7b'] <:+: text

instance : DecidablePred IsPlain := fun _ => inferInstanceAs (Decidable (¬ _))

namespace Template

/-- The text that the template was cut from. -/
def source : Template → List Char
  | text literal => literal
  | reference literal expression rest => literal ++ '$' :: '\x7b' :: (expression ++ '\x7d' :: rest.source)
  | unterminated literal tail => literal ++ '$' :: '\x7b' :: tail

/-- No reference begins in a literal, and none ends inside an expression. -/
def IsProper : Template → Prop
  | text literal => IsPlain literal
  | reference literal expression rest => IsPlain literal ∧ '\x7d' ∉ expression ∧ rest.IsProper
  | unterminated literal tail => IsPlain literal ∧ '\x7d' ∉ tail

instance decidableIsProper : DecidablePred IsProper
  | text literal => inferInstanceAs (Decidable (IsPlain literal))
  | reference literal expression rest =>
    have := decidableIsProper rest
    inferInstanceAs (Decidable (IsPlain literal ∧ '\x7d' ∉ expression ∧ rest.IsProper))
  | unterminated literal tail => inferInstanceAs (Decidable (IsPlain literal ∧ '\x7d' ∉ tail))

def literals : Template → List (List Char)
  | text literal | unterminated literal _ => [literal]
  | reference literal _ rest => literal :: rest.literals

def expressions : Template → List (List Char)
  | text _ | unterminated _ _ => []
  | reference _ expression rest => expression :: rest.expressions

def tail? : Template → Option (List Char)
  | text _ => none
  | reference _ _ rest => rest.tail?
  | unterminated _ tail => some tail

def prepend (before : List Char) : Template → Template
  | text literal => text (before ++ literal)
  | reference literal expression rest => reference (before ++ literal) expression rest
  | unterminated literal tail => unterminated (before ++ literal) tail

def append : Template → Template → Template
  | text literal, other => other.prepend literal
  | reference literal expression rest, other => reference literal expression (rest.append other)
  | unterminated literal tail, _ => unterminated literal tail

end Template

def interleave : List (List Char) → List (List Char) → List Char
  | literal :: literals, value :: values => literal ++ value ++ interleave literals values
  | literals, _ => literals.flatten

/-- The environment has the line `name=value`. A line belongs to the variable before its first equals sign. -/
def Sets (environment : Environment) (name value : List Char) : Prop :=
  ∃ owner content, environment.get? owner = some content ∧ '=' ∉ owner.toList
    ∧ name ++ '=' :: value = owner.toList ++ '=' :: content.toList

inductive Parted : List Char → List Char → Option (List Char) → Prop
  | bare {name : List Char} (hname : ':' ∉ name) : Parted name name none
  | defaulted {name default : List Char} (hname : ':' ∉ name) : Parted (name ++ ':' :: default) name (some default)

/-- The name has the value, even an empty one; or the name has none, and the value is the default. -/
inductive HasValue (environment : Environment) (expression : List Char) : List Char → Prop
  | set {name value : List Char} {default : Option (List Char)} (hparted : Parted expression name default)
    (hset : Sets environment name value) : HasValue environment expression value
  | default {name default : List Char} (hparted : Parted expression name (some default))
    (hunset : ∀ value, ¬ Sets environment name value) : HasValue environment expression default

def IsUnset (environment : Environment) (expression : List Char) : Prop :=
  ':' ∉ expression ∧ ∀ value, ¬ Sets environment expression value

/-- What is reported: the first name without a value, or else the reference without an end. -/
inductive Failure (environment : Environment) (template : Template) : MonitorError → Prop
  | unset (before after : List (List Char)) (name : List Char)
    (hsplit : template.expressions = before ++ name :: after)
    (hbefore : ∀ expression ∈ before, ∃ value, HasValue environment expression value)
    (hunset : IsUnset environment name) :
    Failure environment template
      (.configuration ("environment variable " ++ String.ofList name ++ " is not set"))
  | unterminated (tail : List Char)
    (hvalues : ∀ expression ∈ template.expressions, ∃ value, HasValue environment expression value)
    (htail : template.tail? = some tail) :
    Failure environment template
      (.configuration ("unterminated variable reference: $\x7b" ++ String.ofList tail))

variable {environment : Environment} {text literal before after rest name value expression : List Char}
  {template : Template}

/-! ### Cutting -/

theorem isPlain_cons {c : Char} :
    IsPlain (c :: rest) ↔ ¬ (c = '$' ∧ rest.head? = some '\x7b') ∧ IsPlain rest := by
  rw [IsPlain, List.infix_cons_iff, not_or]
  refine and_congr_left' (not_congr ?_)
  rw [List.cons_prefix_cons, eq_comm, and_congr_right_iff]
  intro _
  cases rest with
  | nil => simp
  | cons d others => simp [eq_comm]

theorem isPlain_nil : IsPlain [] := by
  simp [IsPlain]

theorem IsPlain.append {first second : List Char} (hfirst : IsPlain first) (hsecond : IsPlain second)
    (hseam : ¬ (first.getLast? = some '$' ∧ second.head? = some '\x7b')) : IsPlain (first ++ second) := by
  induction first with
  | nil => exact hsecond
  | cons c others ih =>
      obtain ⟨hc, hothers⟩ := isPlain_cons.1 hfirst
      cases others with
      | nil =>
          refine isPlain_cons.2 ⟨?_, hsecond⟩
          rintro ⟨rfl, hhead⟩
          exact hseam ⟨rfl, hhead⟩
      | cons d others =>
          rw [List.getLast?_cons_cons] at hseam
          exact isPlain_cons.2 ⟨hc, ih hothers hseam⟩

theorem splitOpening_cons {c : Char} (hc : ¬ (c = '$' ∧ rest.head? = some '\x7b')) :
    splitOpening (c :: rest) = (splitOpening rest).map fun (before, after) => (c :: before, after) := by
  rw [splitOpening]
  rintro others rfl rfl
  exact hc ⟨rfl, rfl⟩

theorem splitOpening_append (hplain : IsPlain literal) (after : List Char) :
    splitOpening (literal ++ '$' :: '\x7b' :: after) = some (literal, after) := by
  induction literal with
  | nil => rfl
  | cons c others ih =>
      obtain ⟨hc, hothers⟩ := isPlain_cons.1 hplain
      rw [List.cons_append, splitOpening_cons, ih hothers]
      · rfl
      · -- The mark cannot begin in the literal: a dollar sign at its end stands before another one.
        rintro ⟨rfl, hhead⟩
        cases others with
        | nil => simp at hhead
        | cons d others => exact hc ⟨rfl, hhead⟩

theorem splitOpening_eq_none (hplain : IsPlain text) : splitOpening text = none := by
  induction text with
  | nil => rfl
  | cons c others ih =>
      obtain ⟨hc, hothers⟩ := isPlain_cons.1 hplain
      rw [splitOpening_cons hc, ih hothers]
      rfl

theorem isPlain_of_splitOpening_eq_none (hsplit : splitOpening text = none) : IsPlain text := by
  induction text with
  | nil => exact isPlain_nil
  | cons c others ih =>
      by_cases hc : c = '$' ∧ others.head? = some '\x7b'
      · obtain ⟨rfl, hhead⟩ := hc
        obtain ⟨others, rfl⟩ := List.head?_eq_some_iff.1 hhead
        cases hsplit
      · rw [splitOpening_cons hc, Option.map_eq_none_iff] at hsplit
        exact isPlain_cons.2 ⟨hc, ih hsplit⟩

theorem isPlain_of_splitOpening_eq_some (hsplit : splitOpening text = some (before, after)) :
    IsPlain before ∧ text = before ++ '$' :: '\x7b' :: after := by
  induction text generalizing before with
  | nil => cases hsplit
  | cons c others ih =>
      by_cases hc : c = '$' ∧ others.head? = some '\x7b'
      · obtain ⟨rfl, hhead⟩ := hc
        obtain ⟨others, rfl⟩ := List.head?_eq_some_iff.1 hhead
        cases hsplit
        exact ⟨isPlain_nil, rfl⟩
      · rw [splitOpening_cons hc, Option.map_eq_some_iff] at hsplit
        obtain ⟨⟨first, second⟩, hrest, hsame⟩ := hsplit
        cases hsame
        obtain ⟨hfirst, rfl⟩ := ih hrest
        refine ⟨isPlain_cons.2 ⟨?_, hfirst⟩, rfl⟩
        rintro ⟨rfl, hhead⟩
        refine hc ⟨rfl, ?_⟩
        rw [List.head?_append, hhead]
        rfl

/-- A text is cut into a proper template, from which the text can be put together again. -/
theorem Template.of_spec (text : List Char) : (Template.of text).IsProper ∧ (Template.of text).source = text := by
  fun_induction Template.of text with
  | case1 text hopen => exact ⟨isPlain_of_splitOpening_eq_none hopen, rfl⟩
  | case2 text literal behind hopen hclose =>
      obtain ⟨hplain, rfl⟩ := isPlain_of_splitOpening_eq_some hopen
      exact ⟨⟨hplain, Text.splitFirst_eq_none_iff.1 hclose⟩, rfl⟩
  | case3 text literal behind hopen expression rest hclose hlt ih =>
      obtain ⟨hplain, rfl⟩ := isPlain_of_splitOpening_eq_some hopen
      obtain ⟨hend, rfl⟩ := Text.splitFirst_eq_some_iff.1 hclose
      refine ⟨⟨hplain, hend, ih.1⟩, ?_⟩
      rw [Template.source, ih.2]

/-- A proper template is what its own text is cut into. -/
theorem Template.of_source (hproper : template.IsProper) : Template.of template.source = template := by
  induction template with
  | text literal =>
      rw [Template.of]
      split
      · rfl
      · next hopen => simp [source, splitOpening_eq_none hproper] at hopen
  | reference literal expression rest ih =>
      obtain ⟨hliteral, hexpression, hrest⟩ := hproper
      have hopened := splitOpening_append hliteral (expression ++ '\x7d' :: rest.source)
      have hclosed := Text.splitFirst_append hexpression rest.source
      rw [Template.of]
      split
      · next hopen => simp [source, hopened] at hopen
      · next hopen =>
          rw [source, hopened] at hopen
          cases hopen
          split
          · next hclose => simp [hclosed] at hclose
          · next hclose =>
              rw [hclosed] at hclose
              cases hclose
              rw [ih hrest]
  | unterminated literal tail =>
      obtain ⟨hliteral, htail⟩ := hproper
      have hopened := splitOpening_append hliteral tail
      have hclosed := Text.splitFirst_eq_none_iff.2 htail
      rw [Template.of]
      split
      · next hopen => simp [source, hopened] at hopen
      · next hopen =>
          rw [source, hopened] at hopen
          cases hopen
          split
          · rfl
          · next hclose => simp [hclosed] at hclose

/-- There is only one proper template for a text. -/
theorem Template.of_eq_iff : Template.of text = template ↔ template.IsProper ∧ template.source = text := by
  constructor
  · rintro rfl
    exact Template.of_spec text
  · rintro ⟨hproper, rfl⟩
    exact Template.of_source hproper

/-! ### Values -/

theorem sets_iff_of_not_mem (hname : '=' ∉ name) :
    Sets environment name value ↔ environment.get? (String.ofList name) = some (String.ofList value) := by
  constructor
  · rintro ⟨owner, content, hget, howner, hline⟩
    have hsplit := Text.splitFirst_append hname value
    rw [hline, Text.splitFirst_append howner] at hsplit
    cases hsplit
    rwa [String.ofList_toList, String.ofList_toList]
  · intro hget
    exact ⟨_, _, hget, by rwa [String.toList_ofList], by rw [String.toList_ofList, String.toList_ofList]⟩

/-- Looking up a name finds the value that the environment gives it. -/
theorem lookup_eq_some_iff : lookup environment name = some value ↔ Sets environment name value := by
  rw [lookup]
  cases hsplit : Text.splitFirst '=' name with
  | none =>
      rw [sets_iff_of_not_mem (Text.splitFirst_eq_none_iff.1 hsplit), Option.map_eq_some_iff]
      constructor
      · rintro ⟨content, hget, rfl⟩
        rw [hget, String.ofList_toList]
      · intro hget
        exact ⟨_, hget, String.toList_ofList⟩
  | some parts =>
      obtain ⟨owner, rest⟩ := parts
      obtain ⟨howner, rfl⟩ := Text.splitFirst_eq_some_iff.1 hsplit
      simp only [Option.bind_eq_bind, Option.bind_eq_some_iff, Text.afterStart_eq_some_iff]
      have hline : owner ++ '=' :: rest ++ '=' :: value = owner ++ '=' :: (rest ++ ['='] ++ value) := by simp
      constructor
      · rintro ⟨content, hget, hcontent⟩
        refine ⟨_, content, hget, by rwa [String.toList_ofList], ?_⟩
        rw [String.toList_ofList, hcontent, hline]
      · rintro ⟨other, content, hget, hother, hsame⟩
        have hfirst := Text.splitFirst_append howner (rest ++ ['='] ++ value)
        rw [← hline, hsame, Text.splitFirst_append hother] at hfirst
        obtain ⟨rfl, hcontent⟩ := Prod.mk.inj (Option.some.inj hfirst)
        exact ⟨content, by rwa [String.ofList_toList], hcontent⟩

theorem not_sets_of_lookup_eq_none (hnone : lookup environment name = none) (value : List Char) :
    ¬ Sets environment name value := by
  rw [← lookup_eq_some_iff, hnone]
  rintro ⟨⟩

theorem Sets.unique {other : List Char} (hvalue : Sets environment name value) (hother : Sets environment name other) :
    value = other := by
  rw [← lookup_eq_some_iff] at hvalue hother
  exact Option.some.inj (hvalue.symm.trans hother)

theorem Parted.splitFirst_eq {default : Option (List Char)} (hparted : Parted expression name default) :
    Text.splitFirst ':' expression = default.map (name, ·) ∧ (default = none → expression = name) := by
  cases hparted with
  | bare hname => exact ⟨Text.splitFirst_eq_none_iff.2 hname, fun _ => rfl⟩
  | defaulted hname => exact ⟨Text.splitFirst_append hname _, fun hnone => nomatch hnone⟩

theorem Parted.unique {other : List Char} {default otherDefault : Option (List Char)}
    (hparted : Parted expression name default) (hother : Parted expression other otherDefault) :
    name = other ∧ default = otherDefault := by
  obtain ⟨hsplit, hbare⟩ := hparted.splitFirst_eq
  obtain ⟨hotherSplit, hotherBare⟩ := hother.splitFirst_eq
  rw [hsplit] at hotherSplit
  cases default with
  | none =>
      cases otherDefault with
      | none => exact ⟨(hbare rfl).symm.trans (hotherBare rfl), rfl⟩
      | some otherDefault => cases hotherSplit
  | some default =>
      cases otherDefault with
      | none => cases hotherSplit
      | some otherDefault =>
          cases hotherSplit
          exact ⟨rfl, rfl⟩

theorem HasValue.unique {other : List Char} (hvalue : HasValue environment expression value)
    (hother : HasValue environment expression other) : value = other := by
  cases hvalue with
  | set hparted hset =>
      cases hother with
      | set hotherParted hotherSet =>
          obtain ⟨rfl, -⟩ := hparted.unique hotherParted
          exact hset.unique hotherSet
      | default hotherParted hunset =>
          obtain ⟨rfl, -⟩ := hparted.unique hotherParted
          exact absurd hset (hunset _)
  | default hparted hunset =>
      cases hother with
      | set hotherParted hset =>
          obtain ⟨rfl, -⟩ := hparted.unique hotherParted
          exact absurd hset (hunset _)
      | default hotherParted hotherUnset => exact Option.some.inj (hparted.unique hotherParted).2

theorem IsUnset.not_hasValue (hunset : IsUnset environment expression) : ¬ HasValue environment expression value := by
  have hbare := Parted.bare hunset.1
  intro hvalue
  cases hvalue with
  | set hparted hset =>
      obtain ⟨rfl, -⟩ := hparted.unique hbare
      exact hunset.2 _ hset
  | default hparted => cases (hparted.unique hbare).2

/-- A reference has a value, or the failure names its expression. -/
theorem valueOf_cases (environment : Environment) (expression : List Char) :
    (∃ value, valueOf environment expression = .ok value ∧ HasValue environment expression value)
    ∨ (valueOf environment expression =
        .error (.configuration ("environment variable " ++ String.ofList expression ++ " is not set"))
      ∧ IsUnset environment expression) := by
  cases hsplit : Text.splitFirst ':' expression with
  | none =>
      have hname := Text.splitFirst_eq_none_iff.1 hsplit
      cases hlookup : lookup environment expression with
      | none => exact .inr ⟨by simp [valueOf, hsplit, hlookup], hname, not_sets_of_lookup_eq_none hlookup⟩
      | some value =>
          exact .inl ⟨value, by simp [valueOf, hsplit, hlookup], .set (.bare hname) (lookup_eq_some_iff.1 hlookup)⟩
  | some parts =>
      obtain ⟨name, default⟩ := parts
      have hparted : Parted expression name (some default) := by
        obtain ⟨hname, rfl⟩ := Text.splitFirst_eq_some_iff.1 hsplit
        exact .defaulted hname
      left
      cases hlookup : lookup environment name with
      | none =>
          exact ⟨default, by simp [valueOf, hsplit, hlookup], .default hparted (not_sets_of_lookup_eq_none hlookup)⟩
      | some value => exact ⟨value, by simp [valueOf, hsplit, hlookup], .set hparted (lookup_eq_some_iff.1 hlookup)⟩

theorem HasValue.valueOf_eq (hvalue : HasValue environment expression value) :
    valueOf environment expression = .ok value := by
  obtain ⟨other, hok, hother⟩ | ⟨-, hunset⟩ := valueOf_cases environment expression
  · rw [hok, hother.unique hvalue]
  · exact absurd hvalue hunset.not_hasValue

theorem IsUnset.valueOf_eq (hunset : IsUnset environment expression) :
    valueOf environment expression =
      .error (.configuration ("environment variable " ++ String.ofList expression ++ " is not set")) := by
  obtain ⟨value, -, hvalue⟩ | ⟨herror, -⟩ := valueOf_cases environment expression
  · exact absurd hvalue hunset.not_hasValue
  · exact herror

/-! ### Filling -/

/-- What becomes of a template: the values in their places, or the first reason why there are none. -/
inductive Verdict (environment : Environment) (template : Template) : Except MonitorError (List Char) → Prop
  | filled {values : List (List Char)} (hend : template.tail? = none)
    (hvalues : List.Forall₂ (HasValue environment) template.expressions values) :
    Verdict environment template (.ok (interleave template.literals values))
  | failed {error : MonitorError} (hfailure : Failure environment template error) :
    Verdict environment template (.error error)

theorem Failure.reference {error : MonitorError} (hvalue : HasValue environment expression value)
    (hfailure : Failure environment template error) :
    Failure environment (.reference literal expression template) error := by
  cases hfailure with
  | unset before after name hsplit hbefore hunset =>
      refine .unset (expression :: before) after name (congrArg (expression :: ·) hsplit) ?_ hunset
      exact List.forall_mem_cons.2 ⟨⟨value, hvalue⟩, hbefore⟩
  | unterminated tail hvalues htail =>
      exact .unterminated tail (List.forall_mem_cons.2 ⟨⟨value, hvalue⟩, hvalues⟩) htail

/-- Filling a template gives the values in their places, or the first failure. -/
theorem verdict_fill (environment : Environment) (template : Template) :
    Verdict environment template (template.fill environment) := by
  induction template with
  | text literal =>
      have hverdict : Verdict environment (.text literal) _ := .filled rfl .nil
      have halone : interleave [literal] [] = literal := by simp [interleave]
      rwa [Template.literals, halone] at hverdict
  | unterminated literal tail => exact .failed (.unterminated tail (List.forall_mem_nil _) rfl)
  | reference literal expression rest ih =>
      rw [Template.fill]
      obtain ⟨value, hok, hvalue⟩ | ⟨herror, hunset⟩ := valueOf_cases environment expression
      · rw [hok]
        cases hrest : rest.fill environment with
        | error error =>
            rw [hrest] at ih
            cases ih with
            | failed hfailure => exact .failed (hfailure.reference hvalue)
        | ok out =>
            rw [hrest] at ih
            cases ih with
            | filled hend hvalues =>
                have hverdict : Verdict environment (.reference literal expression rest) _ :=
                  .filled hend (.cons hvalue hvalues)
                exact hverdict
      · rw [herror]
        exact .failed (.unset [] rest.expressions expression rfl (List.forall_mem_nil _) hunset)

theorem exists_value_of_forall₂ {expressions values : List (List Char)}
    (hvalues : List.Forall₂ (HasValue environment) expressions values) (hmem : expression ∈ expressions) :
    ∃ value, HasValue environment expression value := by
  induction hvalues with
  | nil => cases hmem
  | cons hvalue _ ih =>
      obtain rfl | hmem := List.mem_cons.1 hmem
      · exact ⟨_, hvalue⟩
      · exact ih hmem

theorem fill_of_values {values : List (List Char)} (hend : template.tail? = none)
    (hvalues : List.Forall₂ (HasValue environment) template.expressions values) :
    template.fill environment = .ok (interleave template.literals values) := by
  induction template generalizing values with
  | text literal =>
      cases hvalues
      simp [Template.fill, Template.literals, interleave]
  | unterminated literal tail => cases hend
  | reference literal expression rest ih =>
      cases hvalues with
      | cons hvalue hrest =>
          rw [Template.fill, hvalue.valueOf_eq, ih hend hrest]
          rfl

theorem fill_of_failure {error : MonitorError} (hfailure : Failure environment template error) :
    template.fill environment = .error error := by
  induction template with
  | text literal =>
      cases hfailure with
      | unset before after name hsplit => simp [Template.expressions] at hsplit
      | unterminated tail _ htail => cases htail
  | unterminated literal tail =>
      cases hfailure with
      | unset before after name hsplit => simp [Template.expressions] at hsplit
      | unterminated _ _ htail =>
          cases htail
          rfl
  | reference literal expression rest ih =>
      rw [Template.fill]
      cases hfailure with
      | unset before after name hsplit hbefore hunset =>
          cases before with
          | nil =>
              cases hsplit
              rw [hunset.valueOf_eq]
              rfl
          | cons first others =>
              obtain ⟨rfl, hrest⟩ := List.cons.inj hsplit
              obtain ⟨⟨value, hvalue⟩, hothers⟩ := List.forall_mem_cons.1 hbefore
              rw [hvalue.valueOf_eq, ih (.unset others after name hrest hothers hunset)]
              rfl
      | unterminated tail hvalues htail =>
          obtain ⟨⟨value, hvalue⟩, hothers⟩ := List.forall_mem_cons.1 hvalues
          rw [hvalue.valueOf_eq, ih (.unterminated tail hothers htail)]
          rfl

/-! ### Texts one after the other -/

namespace Template

variable {other : Template}

theorem source_prepend (before : List Char) (template : Template) :
    (template.prepend before).source = before ++ template.source := by
  cases template <;> simp [prepend, source]

theorem source_append (hend : template.tail? = none) :
    (template.append other).source = template.source ++ other.source := by
  induction template with
  | text literal => exact source_prepend literal other
  | reference literal expression rest ih => simp [append, source, ih hend]
  | unterminated literal tail => cases hend

theorem isProper_prepend (hbefore : IsPlain before) (hproper : template.IsProper)
    (hseam : ¬ (before.getLast? = some '$' ∧ template.source.head? = some '\x7b')) :
    (template.prepend before).IsProper := by
  have hplain {literal : List Char} (hliteral : IsPlain literal)
      (hhead : literal.head? = some '\x7b' → template.source.head? = some '\x7b') : IsPlain (before ++ literal) :=
    hbefore.append hliteral fun hends => hseam ⟨hends.1, hhead hends.2⟩
  cases template with
  | text literal => exact hplain hproper id
  | reference literal expression rest =>
      refine ⟨hplain hproper.1 fun hhead => ?_, hproper.2⟩
      rw [source, List.head?_append, hhead]
      rfl
  | unterminated literal tail =>
      refine ⟨hplain hproper.1 fun hhead => ?_, hproper.2⟩
      rw [source, List.head?_append, hhead]
      rfl

theorem isProper_append (hproper : template.IsProper) (hother : other.IsProper)
    (hseam : ¬ (template.source.getLast? = some '$' ∧ other.source.head? = some '\x7b')) :
    (template.append other).IsProper := by
  induction template with
  | text literal => exact isProper_prepend hproper hother hseam
  | unterminated literal tail => exact hproper
  | reference literal expression rest ih =>
      refine ⟨hproper.1, hproper.2.1, ih hproper.2.2 fun hends => hseam ⟨?_, hends.2⟩⟩
      have hsource : (reference literal expression rest).source =
          literal ++ '$' :: '\x7b' :: (expression ++ ['\x7d']) ++ rest.source := by
        simp [source]
      rw [hsource, List.getLast?_append, hends.1]
      rfl

theorem fill_prepend (before : List Char) (template : Template) :
    (template.prepend before).fill environment = (template.fill environment).map (before ++ ·) := by
  cases template with
  | text literal => rfl
  | unterminated literal tail => rfl
  | reference literal expression rest =>
      rw [prepend, fill, fill]
      cases valueOf environment expression with
      | error error => rfl
      | ok value =>
          cases rest.fill environment with
          | error error => rfl
          | ok out => simp [Except.map, bind, Except.bind]

/-- Two templates are filled one after the other; the first failure counts. -/
theorem fill_append (hend : template.tail? = none) :
    (template.append other).fill environment =
      (do
        let first ← template.fill environment
        let second ← other.fill environment
        .ok (first ++ second)) := by
  induction template with
  | text literal =>
      rw [append, fill_prepend, fill]
      cases other.fill environment <;> rfl
  | unterminated literal tail => cases hend
  | reference literal expression rest ih =>
      rw [append, fill, ih hend, fill]
      cases valueOf environment expression with
      | error error => rfl
      | ok value =>
          cases rest.fill environment with
          | error error => rfl
          | ok out =>
              cases other.fill environment with
              | error error => rfl
              | ok next => simp [bind, Except.bind]

end Template

/-! ### The expansion -/

theorem expand_eq {text : String} (hproper : template.IsProper) (hsource : template.source = text.toList) :
    expand environment text = (template.fill environment).map String.ofList := by
  rw [expand, ← hsource, Template.of_source hproper]

/-- An expansion succeeds if every reference has an end and a value. -/
theorem expand_eq_ok_iff {text out : String} (hproper : template.IsProper) (hsource : template.source = text.toList) :
    expand environment text = .ok out ↔ template.tail? = none
      ∧ ∃ values, List.Forall₂ (HasValue environment) template.expressions values
        ∧ out.toList = interleave template.literals values := by
  rw [expand_eq hproper hsource]
  constructor
  · intro hok
    have hverdict := verdict_fill environment template
    cases hfill : template.fill environment with
    | error error =>
        rw [hfill] at hok
        cases hok
    | ok chars =>
        rw [hfill] at hverdict hok
        cases hok
        cases hverdict with
        | filled hend hvalues => exact ⟨hend, _, hvalues, String.toList_ofList⟩
  · rintro ⟨hend, values, hvalues, hout⟩
    rw [fill_of_values hend hvalues, ← hout]
    exact congrArg Except.ok String.ofList_toList

/-- An expansion fails with the first failure of its template. -/
theorem expand_eq_error_iff {text : String} {error : MonitorError} (hproper : template.IsProper)
    (hsource : template.source = text.toList) :
    expand environment text = .error error ↔ Failure environment template error := by
  rw [expand_eq hproper hsource]
  constructor
  · intro herror
    have hverdict := verdict_fill environment template
    cases hfill : template.fill environment with
    | error error =>
        rw [hfill] at hverdict herror
        cases herror
        cases hverdict with
        | failed hfailure => exact hfailure
    | ok chars =>
        rw [hfill] at herror
        cases herror
  · intro hfailure
    rw [fill_of_failure hfailure]
    rfl

theorem exists_error_iff {text : String} (hproper : template.IsProper) (hsource : template.source = text.toList) :
    (∃ error, expand environment text = .error error)
      ↔ (∃ expression ∈ template.expressions, IsUnset environment expression) ∨ template.tail? ≠ none := by
  constructor
  · rintro ⟨error, herror⟩
    cases (expand_eq_error_iff hproper hsource).1 herror with
    | unset before after name hsplit _ hunset => exact .inl ⟨name, by rw [hsplit]; simp, hunset⟩
    | unterminated tail _ htail => exact .inr (by rw [htail]; simp)
  · intro hgap
    cases hresult : expand environment text with
    | error error => exact ⟨error, rfl⟩
    | ok out =>
        obtain ⟨hend, values, hvalues, -⟩ := (expand_eq_ok_iff hproper hsource).1 hresult
        obtain ⟨expression, hmem, hunset⟩ | htail := hgap
        · obtain ⟨value, hvalue⟩ := exists_value_of_forall₂ hvalues hmem
          exact absurd hvalue hunset.not_hasValue
        · exact absurd hend htail

/-- A text without references is kept as it is. -/
theorem expand_plain {text : String} (hplain : IsPlain text.toList) : expand environment text = .ok text := by
  have hproper : (Template.text text.toList).IsProper := hplain
  rw [expand_eq hproper rfl]
  exact congrArg Except.ok String.ofList_toList

/-- Two texts can be expanded one by one, if no reference begins at the seam. -/
theorem expand_append {first second : String} (hproper : template.IsProper)
    (hsource : template.source = first.toList) (hend : template.tail? = none)
    (hseam : ¬ (first.toList.getLast? = some '$' ∧ second.toList.head? = some '\x7b')) :
    expand environment (first ++ second) =
      (do
        let left ← expand environment first
        let right ← expand environment second
        .ok (left ++ right)) := by
  obtain ⟨hother, hotherSource⟩ := Template.of_spec second.toList
  rw [← hsource, ← hotherSource] at hseam
  have happend : (template.append (Template.of second.toList)).source = (first ++ second).toList := by
    rw [Template.source_append hend, hsource, hotherSource, String.toList_append]
  rw [expand_eq (Template.isProper_append hproper hother hseam) happend, Template.fill_append hend,
    expand_eq hproper hsource, expand_eq hother hotherSource]
  cases template.fill environment with
  | error error => rfl
  | ok left =>
      cases (Template.of second.toList).fill environment with
      | error error => rfl
      | ok right => exact congrArg Except.ok String.ofList_append

/-- **The grammar of references, and what they become.** -/
theorem expand_grammar (environment : Environment) :
    (∀ text : String, ∃! template : Template, template.IsProper ∧ template.source = text.toList)
    ∧ (∀ (text : String) (template : Template), template.IsProper → template.source = text.toList →
      (∀ out, expand environment text = .ok out ↔ template.tail? = none
        ∧ ∃ values, List.Forall₂ (HasValue environment) template.expressions values
          ∧ out.toList = interleave template.literals values)
      ∧ (∀ error, expand environment text = .error error ↔ Failure environment template error)
      ∧ ((∃ error, expand environment text = .error error)
        ↔ (∃ expression ∈ template.expressions, IsUnset environment expression) ∨ template.tail? ≠ none))
    ∧ (∀ text : String, IsPlain text.toList → expand environment text = .ok text)
    ∧ ∀ (first second : String) (template : Template), template.IsProper → template.source = first.toList →
      template.tail? = none → ¬ (first.toList.getLast? = some '$' ∧ second.toList.head? = some '\x7b') →
      expand environment (first ++ second) =
        (do
          let left ← expand environment first
          let right ← expand environment second
          .ok (left ++ right)) := by
  refine ⟨fun text => ⟨Template.of text.toList, Template.of_spec text.toList, fun template hspec => ?_⟩,
    fun text template hproper hsource => ⟨fun _ => expand_eq_ok_iff hproper hsource,
      fun _ => expand_eq_error_iff hproper hsource, exists_error_iff hproper hsource⟩,
    fun _ => expand_plain, fun _ _ _ => expand_append⟩
  exact (Template.of_eq_iff.2 hspec).symm

/-- A value with a reference in it is left as it is, an empty one counts, and a default may have colons. The second text
has a name without a value before a reference without an end. -/
theorem expansion_of_references :
    expand (.ofList [("EMPTY", ""), ("KEY", "$\x7bURL\x7d")]) "k=$$\x7bKEY\x7d$\x7bEMPTY\x7d$\x7bURL:https://nas\x7d!"
      = .ok "k=$$\x7bURL\x7dhttps://nas!"
    ∧ expand ∅ "$\x7bUSER:root\x7d $\x7bKEY\x7d $\x7bEND"
      = .error (.configuration "environment variable KEY is not set")
    ∧ expand ∅ "plain $HOME text" = .ok "plain $HOME text"
    ∧ expand ∅ ("$\x7bUSER:root\x7d" ++ "\x7bKEY\x7d") = .ok "root\x7bKEY\x7d" := by
  obtain ⟨-, hset, -⟩ := expand_grammar (.ofList [("EMPTY", ""), ("KEY", "$\x7bURL\x7d")])
  obtain ⟨-, hnone, hplain, happend⟩ := expand_grammar ∅
  have huser : ':' ∉ "USER".toList := by decide +kernel
  have hurl : ':' ∉ "URL".toList := by decide +kernel
  have hroot : HasValue ∅ "USER:root".toList "root".toList :=
    .default (.defaulted huser) (not_sets_of_lookup_eq_none (by decide +kernel))
  refine ⟨?_, ?_, hplain _ (by decide +kernel), ?_⟩
  · let template : Template := .reference "k=$".toList "KEY".toList
      (.reference [] "EMPTY".toList (.reference [] "URL:https://nas".toList (.text ['!'])))
    refine ((hset _ template (by decide +kernel) (by decide +kernel)).1 _).2 ⟨rfl, ?_⟩
    refine ⟨["$\x7bURL\x7d".toList, [], "https://nas".toList], .cons ?_ (.cons ?_ (.cons ?_ .nil)), by decide +kernel⟩
    · exact .set (.bare (by decide +kernel)) (lookup_eq_some_iff.1 (by decide +kernel))
    · exact .set (.bare (by decide +kernel)) (lookup_eq_some_iff.1 (by decide +kernel))
    · exact .default (.defaulted hurl) (not_sets_of_lookup_eq_none (by decide +kernel))
  · let template : Template := .reference [] "USER:root".toList
      (.reference [' '] "KEY".toList (.unterminated [' '] "END".toList))
    refine ((hnone _ template (by decide +kernel) (by decide +kernel)).2.1 _).2 ?_
    refine .unset ["USER:root".toList] [] "KEY".toList rfl ?_ ?_
    · exact List.forall_mem_singleton.2 ⟨_, hroot⟩
    · exact ⟨by decide +kernel, not_sets_of_lookup_eq_none (by decide +kernel)⟩
  · let template : Template := .reference [] "USER:root".toList (.text [])
    have hsource : template.source = "$\x7bUSER:root\x7d".toList := by decide +kernel
    have hproper : template.IsProper := by decide +kernel
    have hfirst : expand ∅ "$\x7bUSER:root\x7d" = .ok "root" :=
      ((hnone _ template hproper hsource).1 _).2 ⟨rfl, _, .cons hroot .nil, by decide +kernel⟩
    rw [happend _ _ template hproper hsource rfl (by decide +kernel), hfirst, hplain _ (by decide +kernel)]
    rfl

end OrphanWatch.Expansion
