/-!
Whole numbers written in decimal digits.
-/

namespace OrphanWatch.Text

def digitValue (c : Char) : Option Nat :=
  if '0' ≤ c ∧ c ≤ '9' then some (c.toNat - '0'.toNat) else none

def isDigit (c : Char) : Bool :=
  '0' ≤ c && c ≤ '9'

def hexValue (c : Char) : Option Nat :=
  if '0' ≤ c ∧ c ≤ '9' then some (c.toNat - '0'.toNat)
  else if 'a' ≤ c ∧ c ≤ 'f' then some (c.toNat - 'a'.toNat + 10)
  else if 'A' ≤ c ∧ c ≤ 'F' then some (c.toNat - 'A'.toNat + 10)
  else none

def digitsValue (digits : List Char) : Nat :=
  digits.foldl (fun value c => 10 * value + (digitValue c).getD 0) 0

/-- The number of values that 64 bits have. -/
def wordSize : Nat := 0x10000000000000000

def maxUnsigned : Nat :=
  wordSize - 1

def signedLimit : Nat := 0x8000000000000000

/-- A 64-bit number without sign: digits only, after at most one plus sign. -/
def readUnsigned (text : List Char) : Option Nat :=
  let digits :=
    match text with
    | '+' :: rest => rest
    | other => other
  if digits.isEmpty || !digits.all isDigit then none
  else
    let value := digitsValue digits
    if value ≤ maxUnsigned then some value else none

end OrphanWatch.Text
