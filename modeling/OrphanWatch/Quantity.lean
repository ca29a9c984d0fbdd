import OrphanWatch.Binary64.Basic
import OrphanWatch.Error
import OrphanWatch.Text.Blank
import OrphanWatch.Text.Numeral

/-!
Amounts of storage written with a suffix, such as `5Gi`, `500M` or `1024`.

The number before the suffix is read in double precision and multiplied by the suffix in double
precision; a fraction of a byte counts as a whole one, and what exceeds 64 bits is cut to the largest
number that fits.
-/

namespace OrphanWatch

inductive Suffix where
  | none
  /-- `1024 ^ power` bytes. -/
  | binary (power : Nat)
  /-- `1000 ^ power` bytes. -/
  | decimal (power : Nat)
  /-- A thousandth of a byte. -/
  | milli
  deriving DecidableEq, Repr

namespace Suffix

/-- The suffixes, letter for letter: `M` is a million, `m` a thousandth. -/
def ofText? : List Char → Option Suffix
  | [] => some .none
  | ['K', 'i'] => some (.binary 1)
  | ['M', 'i'] => some (.binary 2)
  | ['G', 'i'] => some (.binary 3)
  | ['T', 'i'] => some (.binary 4)
  | ['P', 'i'] => some (.binary 5)
  | ['E', 'i'] => some (.binary 6)
  | ['k'] => some (.decimal 1)
  | ['M'] => some (.decimal 2)
  | ['G'] => some (.decimal 3)
  | ['T'] => some (.decimal 4)
  | ['P'] => some (.decimal 5)
  | ['E'] => some (.decimal 6)
  | ['m'] => some .milli
  | _ => Option.none

def multiplier : Suffix → Binary64
  | .none => Binary64.ofNat 1
  | .binary power => Binary64.ofNat (Nat.pow 1024 power)
  | .decimal power => Binary64.ofNat (Nat.pow 1000 power)
  | .milli => Binary64.ofDecimal 1 (-3)

end Suffix

namespace Quantity

structure Amount where
  integer : List Char
  fraction : List Char
  suffix : Suffix
  deriving DecidableEq, Repr

def isNumberChar (c : Char) : Bool :=
  Text.isDigit c || c == '.'

def splitNumber (number : List Char) : Option (List Char × List Char) :=
  let integer := number.takeWhile Text.isDigit
  match number.dropWhile Text.isDigit with
  | [] => if integer.isEmpty then none else some (integer, [])
  | _ :: fraction =>
    if fraction.all Text.isDigit && !(integer.isEmpty && fraction.isEmpty) then
      some (integer, fraction)
    else none

/-- Reads a trimmed text: the longest run of digits and points, then the suffix. -/
def readAmount (text : List Char) : Except MonitorError Amount :=
  if text.isEmpty then .error (.quantity "empty quantity")
  else
    let number := text.takeWhile isNumberChar
    let suffix := text.dropWhile isNumberChar
    match splitNumber number with
    | none => .error (.quantity ("invalid number: " ++ String.ofList text))
    | some (integer, fraction) =>
      match Suffix.ofText? suffix with
      | none => .error (.quantity ("unknown suffix: " ++ String.ofList suffix))
      | some suffix => .ok ⟨integer, fraction, suffix⟩

def Amount.number (amount : Amount) : Binary64 :=
  Binary64.ofDecimal (Text.digitsValue (amount.integer ++ amount.fraction))
    (-(amount.fraction.length : Int))

def Amount.bytes (amount : Amount) : Nat :=
  let product := amount.number * amount.suffix.multiplier
  product.saturate Text.maxUnsigned product.ceilNat?

def parse (text : String) : Except MonitorError Nat :=
  (readAmount (Text.trim text.toList)).map Amount.bytes

end Quantity

end OrphanWatch
