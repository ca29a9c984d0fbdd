import OrphanWatch.Json.Basic

/-!
JSON values as they are written.

A text may be well formed and still hold what has no value: a number beyond the format's range, half a
surrogate pair, containers nested too deeply, or two fields of one name. Such parts matter only to a
reader that takes them, so the written form keeps them, and `Written.value?` says what has a value.
-/

namespace OrphanWatch.Json

structure Numeral where
  negative : Bool
  integer : List Char
  /-- The digits behind the point, if there is one. -/
  fraction : Option (List Char)
  exponent : Option Int
  deriving DecidableEq, Repr

namespace Numeral

/-- The least exponent of ten beyond all numbers of the format. -/
def greatPower : Int := 310

/-- The greatest exponent of ten at which a number is so small that it becomes zero. -/
def smallPower : Int := -330

def double (numeral : Numeral) : Binary64 :=
  let fraction := numeral.fraction.getD []
  let digits := (numeral.integer ++ fraction).dropWhile (· == '0')
  let power := numeral.exponent.getD 0 - fraction.length
  let size :=
    if digits.isEmpty || digits.length + power < smallPower then .zero
    else if greatPower < digits.length + power then .infinite false
    else .ofDecimal (Text.digitsValue digits) power
  if numeral.negative then size.neg else size

/-- A whole number that fits into 64 bits, or a double-precision number within its range. -/
def value? (numeral : Numeral) : Option Json :=
  let size := Text.digitsValue numeral.integer
  if numeral.fraction.isNone && numeral.exponent.isNone && !numeral.negative
      && size ≤ Text.maxUnsigned then
    some (.whole size)
  else if numeral.fraction.isNone && numeral.exponent.isNone && numeral.negative && 0 < size
      && size ≤ Text.signedLimit then
    some (.whole (-(size : Int)))
  else
    match numeral.double with
    | .infinite _ => none
    | value => some (.double value)

end Numeral

/-- The text that code units denote: code points, and surrogate halves that belong together. -/
def textOfUnits? : List Nat → Option (List Char)
  | [] => some []
  | unit :: rest =>
    if 0xDC00 ≤ unit ∧ unit < 0xE000 then none
    else if 0xD800 ≤ unit ∧ unit < 0xDC00 then
      match rest with
      | low :: rest =>
        if 0xDC00 ≤ low ∧ low < 0xE000 then
          (textOfUnits? rest).map
            (Char.ofNat (0x10000 + (unit - 0xD800) * 0x400 + (low - 0xDC00)) :: ·)
        else none
      | [] => none
    else (textOfUnits? rest).map (Char.ofNat unit :: ·)

/-- A JSON value as it is written; strings are sequences of code units. -/
inductive Written where
  | null
  | bool (value : Bool)
  | number (numeral : Numeral)
  | string (units : List Nat)
  | array (items : List Written)
  | object (fields : List (List Nat × Written))
  deriving Repr

namespace Written

def unitsText? (units : List Nat) : Option String :=
  (textOfUnits? units).map String.ofList

mutual

def value? (depth : Nat) : Written → Option Json
  | .null => some .null
  | .bool value => some (.bool value)
  | .number numeral => numeral.value?
  | .string units => (unitsText? units).map .string
  | .array items =>
    match depth with
    | 0 => none
    | depth + 1 => (values? depth items).map .array
  | .object fields =>
    match depth with
    | 0 => none
    | depth + 1 => (fieldValues? depth fields).map ofFields

def values? (depth : Nat) : List Written → Option (List Json)
  | [] => some []
  | item :: rest => do
    let item ← value? depth item
    let rest ← values? depth rest
    some (item :: rest)

def fieldValues? (depth : Nat) : List (List Nat × Written) → Option (List (String × Json))
  | [] => some []
  | (name, value) :: rest => do
    let name ← unitsText? name
    let value ← value? depth value
    let rest ← fieldValues? depth rest
    some ((name, value) :: rest)

end

end Written

end OrphanWatch.Json
