import OrphanWatch.Binary64.Basic

/-!
Decimal texts of double-precision numbers.

`Binary64.shortest` finds the fewest digits that read back as the number; `Binary64.text` lays them
out; `Binary64.tenths` writes a number with one decimal place.
-/

namespace OrphanWatch.Binary64

structure Decimal where
  digits : Nat
  power : Int
  deriving DecidableEq, Repr

def scaleByTen (num den : Nat) (power : Int) : Nat × Nat :=
  if 0 ≤ power then (num * Nat.pow 10 power.toNat, den)
  else (num, den * Nat.pow 10 (-power).toNat)

def floorLog10 (num den : Nat) (start : Int) : Nat → Int
  | 0 => start
  | steps + 1 =>
    let (n, d) := scaleByTen num den (-start)
    if d ≤ n then start else floorLog10 num den (start - 1) steps

/-- Whether the decimal number lies among the reals that round to `mantissa · 2 ^ exponent`.

All bounds are multiples of a quarter of the last place; the lower neighbour of a power of two is
only half as far away. -/
def roundsTo (mantissa : Nat) (exponent : Int) (decimal : Decimal) : Bool :=
  let below := if mantissa = mantissaLimit / 2 && minExponent < exponent then 1 else 2
  let (lowNum, lowDen) := shiftQuotient (4 * mantissa - below) 1 (exponent - 2)
  let (highNum, highDen) := shiftQuotient (4 * mantissa + 2) 1 (exponent - 2)
  let (num, den) := scaleByTen decimal.digits 1 decimal.power
  if mantissa % 2 = 0 then
    lowNum * den ≤ num * lowDen && num * highDen ≤ highNum * den
  else
    lowNum * den < num * lowDen && num * highDen < highNum * den

/-- The grid of decimals with the given power: the value's neighbour below or above it, whichever
reads back; the nearer one if both do, the even one if they are equally near. -/
def onGrid (mantissa : Nat) (exponent : Int) (power : Int) : Option Decimal :=
  let (valueNum, valueDen) := dyadic mantissa exponent
  let (num, den) := scaleByTen valueNum valueDen (-power)
  let low : Decimal := ⟨num / den, power⟩
  let high : Decimal := ⟨num / den + 1, power⟩
  match roundsTo mantissa exponent low, roundsTo mantissa exponent high with
  | true, true => some ⟨roundDiv num den, power⟩
  | true, false => some low
  | false, true => some high
  | false, false => none

def searchDigits (mantissa : Nat) (exponent : Int) (magnitude : Int) (count : Nat) : Nat → Decimal
  | 0 => ⟨mantissa, 0⟩
  | steps + 1 =>
    match onGrid mantissa exponent (magnitude - count) with
    | some decimal => decimal
    | none => searchDigits mantissa exponent magnitude (count + 1) steps

def stripZeros (decimal : Decimal) : Nat → Decimal
  | 0 => decimal
  | steps + 1 =>
    if decimal.digits ≠ 0 ∧ decimal.digits % 10 = 0 then
      stripZeros ⟨decimal.digits / 10, decimal.power + 1⟩ steps
    else decimal

/-- The decimal with the fewest digits that reads back as `mantissa · 2 ^ exponent`. -/
def shortest (mantissa : Nat) (exponent : Int) : Decimal :=
  let (num, den) := dyadic mantissa exponent
  let magnitude := floorLog10 num den 309 640
  stripZeros (searchDigits mantissa exponent magnitude 0 20) 20

def exponentText (exponent : Int) : String :=
  (if 0 ≤ exponent then "e+" else "e") ++ toString exponent

/-- Digits, with a point and zeros up to 16 places before it and 5 behind it, else with an exponent;
a whole number keeps `.0`. -/
def Decimal.layout (decimal : Decimal) : String :=
  let digits := toString decimal.digits
  let count : Int := digits.length
  let point := count + decimal.power
  let zeros (n : Int) := String.ofList (List.replicate n.toNat '0')
  let part (start stop : Nat) := String.ofList ((digits.toList.drop start).take (stop - start))
  if 0 ≤ decimal.power && point ≤ 16 then digits ++ zeros decimal.power ++ ".0"
  else if 0 < point && point ≤ 16 then
    part 0 point.toNat ++ "." ++ part point.toNat digits.length
  else if -5 < point && point ≤ 0 then "0." ++ zeros (-point) ++ digits
  else if count = 1 then digits ++ exponentText (point - 1)
  else part 0 1 ++ "." ++ part 1 digits.length ++ exponentText (point - 1)

def text : Binary64 → String
  | finite negative mantissa exponent =>
    let sign := if negative then "-" else ""
    if mantissa = 0 then sign ++ "0.0" else sign ++ (shortest mantissa exponent).layout
  | infinite _ => "null"

/-- The number with one decimal place; a half goes to the even neighbour. -/
def tenths : Binary64 → String
  | finite negative mantissa exponent =>
    let (num, den) := dyadic mantissa exponent
    let scaled := roundDiv (10 * num) den
    (if negative then "-" else "") ++ toString (scaled / 10) ++ "." ++ toString (scaled % 10)
  | infinite negative => if negative then "-inf" else "inf"

end OrphanWatch.Binary64
