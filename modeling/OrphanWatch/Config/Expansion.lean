import OrphanWatch.Error
import OrphanWatch.SortedMap
import OrphanWatch.Text.Split

/-!
References to the environment inside a text.

A reference is written as a dollar sign and a name in braces; behind a colon it may have a default. What
is inserted is not searched for references again.
-/

namespace OrphanWatch.Expansion

abbrev Environment := SortedMap String String

inductive Template where
  /-- Text without any reference. -/
  | text (literal : List Char)
  /-- Text, the inside of a reference, and what follows. -/
  | reference (literal expression : List Char) (rest : Template)
  /-- Text, and a reference that has no end. -/
  | unterminated (literal tail : List Char)
  deriving Repr

def splitOpening : List Char → Option (List Char × List Char)
  | [] => none
  | '$' :: '\x7b' :: rest => some ([], rest)
  | c :: rest => (splitOpening rest).map fun (before, after) => (c :: before, after)

theorem length_lt_of_splitOpening {text before after : List Char}
    (h : splitOpening text = some (before, after)) : after.length < text.length := by
  fun_induction splitOpening text generalizing before after with
  | case1 => simp at h
  | case2 rest =>
    simp only [Option.some.injEq, Prod.mk.injEq] at h
    obtain ⟨_, rfl⟩ := h
    simp only [List.length_cons]
    omega
  | case3 c rest _ ih =>
    simp only [Option.map_eq_some_iff] at h
    obtain ⟨⟨first, second⟩, hrest, heq⟩ := h
    simp only [Prod.mk.injEq] at heq
    obtain ⟨rfl, rfl⟩ := heq
    have := ih hrest
    simp
    omega

theorem length_lt_of_splitFirst {mark : Char} {text before after : List Char}
    (h : Text.splitFirst mark text = some (before, after)) : after.length < text.length := by
  obtain ⟨_, rfl⟩ := Text.splitFirst_eq_some_iff.1 h
  simp
  omega

def Template.of (text : List Char) : Template :=
  match hopen : splitOpening text with
  | none => .text text
  | some (literal, behind) =>
    match hclose : Text.splitFirst '\x7d' behind with
    | none => .unterminated literal behind
    | some (expression, rest) =>
      have : rest.length < text.length :=
        Nat.lt_trans (length_lt_of_splitFirst hclose) (length_lt_of_splitOpening hopen)
      .reference literal expression (Template.of rest)
termination_by text.length

def Template.names : Template → List String
  | .text _ | .unterminated _ _ => []
  | .reference _ expression rest =>
    String.ofList (expression.takeWhile (· ≠ ':')) :: rest.names

/-- The value of a name in an environment, which is written as lines of a variable, an equals sign and a
value. A name is what stands in front of some equals sign, so one that contains such a sign reaches into
the value of a variable. -/
def lookup (environment : Environment) (name : List Char) : Option (List Char) :=
  match Text.splitFirst '=' name with
  | none => (environment.get? (String.ofList name)).map String.toList
  | some (owner, rest) => do
    Text.afterStart (rest ++ ['=']) (← environment.get? (String.ofList owner)).toList

def valueOf (environment : Environment) (expression : List Char) :
    Except MonitorError (List Char) :=
  let (name, default) : List Char × Option (List Char) :=
    match Text.splitFirst ':' expression with
    | some (name, default) => (name, some default)
    | none => (expression, none)
  match lookup environment name, default with
  | some value, _ => .ok value
  | none, some default => .ok default
  | none, none =>
    .error (.configuration ("environment variable " ++ String.ofList name ++ " is not set"))

def Template.fill (environment : Environment) : Template → Except MonitorError (List Char)
  | .text literal => .ok literal
  | .unterminated _ tail =>
    .error (.configuration ("unterminated variable reference: $\x7b" ++ String.ofList tail))
  | .reference literal expression rest => do
    let value ← valueOf environment expression
    let rest ← rest.fill environment
    .ok (literal ++ value ++ rest)

def expand (environment : Environment) (text : String) : Except MonitorError String :=
  ((Template.of text.toList).fill environment).map String.ofList

end OrphanWatch.Expansion
