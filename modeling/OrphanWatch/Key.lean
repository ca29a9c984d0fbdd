import OrphanWatch.Error
import OrphanWatch.Inventory.Naming
import OrphanWatch.Text.Lowercase

/-!
Keys under which the two sides are compared.

A key is a scope and a normal text: trimmed, in lower case and not empty. `Key.normalize` makes a key
from a raw text; `Key.display` and `Key.parse` write and read `scope:value`.
-/

namespace OrphanWatch

structure Key where
  scope : Scope
  value : String
  deriving DecidableEq, Repr

namespace Key

/-- By scope, then by text. -/
instance : Ord Key :=
  ⟨compareLex (compareOn Key.scope) (compareOn Key.value)⟩

instance : Std.TransOrd Key :=
  inferInstanceAs (Std.TransCmp (compareLex (compareOn Key.scope) (compareOn Key.value)))

instance : Std.LawfulEqOrd Key where
  compare_self := Std.ReflOrd.compare_self
  eq_of_compare := by
    intro a b h
    have h : (compare a.scope b.scope).then (compare a.value b.value) = .eq := h
    obtain ⟨hscope, hvalue⟩ := Ordering.then_eq_eq.1 h
    cases a
    cases b
    simp_all

def normalText (raw : List Char) : List Char :=
  Text.lower (Text.trim raw)

def normalize (scope : Scope) (raw : String) : Option Key :=
  match normalText raw.toList with
  | [] => none
  | value => some ⟨scope, String.ofList value⟩

/-- The key of a record; claims go by their name, all other kinds by the key that the source gave. -/
def ofRecord? (record : Record) : Option Key :=
  match record.kind with
  | .volumeClaim => normalize .claim record.nativeId
  | kind => record.rawKey.bind (normalize kind.scope)

def display (key : Key) : String :=
  key.scope.label ++ ":" ++ key.value

/-- Reads `scope:value`; the value may hold further colons and is normalized. -/
def parse (text : String) : Except MonitorError Key :=
  match Text.splitOnce ':' text with
  | none => .error (.internal ("malformed correlation key: " ++ text))
  | some (label, value) =>
    match Scope.ofLabel? label with
    | none => .error (.internal ("unknown key scope: " ++ label))
    | some scope =>
      match normalize scope value with
      | none => .error (.internal ("empty correlation key: " ++ text))
      | some key => .ok key

end Key

end OrphanWatch
