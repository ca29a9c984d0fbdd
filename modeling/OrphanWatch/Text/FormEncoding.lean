import OrphanWatch.Text.Split
import OrphanWatch.Text.Utf8

/-!
Form encoding: names and values in the query of a web address.
-/

namespace OrphanWatch.Text

def hexDigitOfByte? (byte : Nat) : Option Nat :=
  if 0x30 ≤ byte ∧ byte ≤ 0x39 then some (byte - 0x30)
  else if 0x41 ≤ byte ∧ byte ≤ 0x46 then some (byte - 0x41 + 10)
  else if 0x61 ≤ byte ∧ byte ≤ 0x66 then some (byte - 0x61 + 10)
  else none

def unescapeForm : List Nat → List Nat
  | 0x25 :: high :: low :: rest =>
    match hexDigitOfByte? high, hexDigitOfByte? low with
    | some a, some b => (16 * a + b) :: unescapeForm rest
    | _, _ => 0x25 :: unescapeForm (high :: low :: rest)
  | 0x2b :: rest => 0x20 :: unescapeForm rest
  | byte :: rest => byte :: unescapeForm rest
  | [] => []

def formText (part : String) : String :=
  String.ofList (decodeBytes (unescapeForm (utf8Bytes part)))

/-- The names and values of a query, in their order. A name without `=` has an empty value. -/
def formFields (query : String) : List (String × String) :=
  ((pieces '&' query.toList).filter (!·.isEmpty)).map fun piece =>
    match splitFirst '=' piece with
    | some (name, value) => (formText (String.ofList name), formText (String.ofList value))
    | none => (formText (String.ofList piece), "")

end OrphanWatch.Text
