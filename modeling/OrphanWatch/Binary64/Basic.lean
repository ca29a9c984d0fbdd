/-!
Double-precision numbers, by exact arithmetic.

A number is kept as `±mantissa · 2 ^ exponent`. Every operation forms the exact quotient of two whole
numbers and rounds it once, to the nearest number of the format and to the even one of two that are
equally near.
-/

namespace OrphanWatch

/-- A double-precision number other than a NaN. -/
inductive Binary64 where
  /-- The number `mantissa · 2 ^ exponent`, or its negative. -/
  | finite (negative : Bool) (mantissa : Nat) (exponent : Int)
  | infinite (negative : Bool)
  deriving DecidableEq, Repr

namespace Binary64

def minExponent : Int := -1074

def maxExponent : Int := 971

def mantissaLimit : Nat := 0x20000000000000

/-- The whole number nearest to `num / den`, the even one of two that are equally near. -/
def roundDiv (num den : Nat) : Nat :=
  let quotient := num / den
  let twice := 2 * (num % den)
  if twice < den then quotient
  else if den < twice then quotient + 1
  else if quotient % 2 = 0 then quotient
  else quotient + 1

def shiftQuotient (num den : Nat) (shift : Int) : Nat × Nat :=
  if 0 ≤ shift then (num * Nat.pow 2 shift.toNat, den)
  else (num, den * Nat.pow 2 (-shift).toNat)

/-- The greatest `k` with `2 ^ k ≤ num / den`, for positive `num` and `den`. -/
def floorLog2 (num den : Nat) : Int :=
  let guess : Int := (num.log2 : Int) - den.log2
  let (n, d) := shiftQuotient num den (-guess)
  if d ≤ n then guess else guess - 1

/-- The number of the format nearest to `num / den`, with the given sign. -/
def ofQuotient (negative : Bool) (num den : Nat) : Binary64 :=
  if den = 0 then infinite negative
  else if num = 0 then finite negative 0 minExponent
  else
    let exponent := max (floorLog2 num den - 52) minExponent
    let (n, d) := shiftQuotient num den (-exponent)
    let mantissa := roundDiv n d
    let (mantissa, exponent) :=
      if mantissa = mantissaLimit then (mantissaLimit / 2, exponent + 1) else (mantissa, exponent)
    if maxExponent < exponent then infinite negative else finite negative mantissa exponent

def dyadic (mantissa : Nat) (exponent : Int) : Nat × Nat :=
  shiftQuotient mantissa 1 exponent

def ofNat (n : Nat) : Binary64 :=
  ofQuotient false n 1

def ofInt (n : Int) : Binary64 :=
  ofQuotient (n < 0) n.natAbs 1

def ofDecimal (digits : Nat) (power : Int) : Binary64 :=
  if 0 ≤ power then ofQuotient false (digits * Nat.pow 10 power.toNat) 1
  else ofQuotient false digits (Nat.pow 10 (-power).toNat)

def zero : Binary64 :=
  finite false 0 minExponent

def isNegative : Binary64 → Bool
  | finite negative _ _ => negative
  | infinite negative => negative

def isZero : Binary64 → Bool
  | finite _ mantissa _ => mantissa == 0
  | infinite _ => false

def mul : Binary64 → Binary64 → Binary64
  | finite s m e, finite t n f =>
    let (num, den) := dyadic (m * n) (e + f)
    ofQuotient (s != t) num den
  | x, y => infinite (x.isNegative != y.isNegative)

def div : Binary64 → Binary64 → Binary64
  | finite s m e, finite t n f =>
    let (num, den) := shiftQuotient m n (e - f)
    ofQuotient (s != t) num den
  | finite s _ _, infinite t => finite (s != t) 0 minExponent
  | infinite s, y => infinite (s != y.isNegative)

def alignedSum (s : Bool) (m : Nat) (e : Int) (t : Bool) (n : Nat) (f : Int) : Int × Int :=
  let exponent := min e f
  let left : Int := (m * Nat.pow 2 (e - exponent).toNat : Nat)
  let right : Int := (n * Nat.pow 2 (f - exponent).toNat : Nat)
  ((if s then -left else left) + (if t then -right else right), exponent)

def add : Binary64 → Binary64 → Binary64
  | finite s m e, finite t n f =>
    let (sum, exponent) := alignedSum s m e t n f
    let (num, den) := dyadic sum.natAbs exponent
    ofQuotient (if sum = 0 then s && t else sum < 0) num den
  | infinite s, _ => infinite s
  | _, infinite t => infinite t

def neg : Binary64 → Binary64
  | finite s m e => finite (!s) m e
  | infinite s => infinite (!s)

def sub (x y : Binary64) : Binary64 :=
  x.add y.neg

instance : Mul Binary64 := ⟨mul⟩
instance : Div Binary64 := ⟨div⟩
instance : Add Binary64 := ⟨add⟩
instance : Sub Binary64 := ⟨sub⟩

def le : Binary64 → Binary64 → Bool
  | finite s m e, finite t n f => (alignedSum t n f (!s) m e).1 ≥ 0
  | infinite s, infinite t => s || !t
  | infinite s, finite _ _ _ => s
  | finite _ _ _, infinite t => !t

def ceilNat? : Binary64 → Option Nat
  | finite negative m e =>
    if negative then some 0
    else
      let (num, den) := dyadic m e
      some ((num + den - 1) / den)
  | infinite _ => none

def truncNat? : Binary64 → Option Nat
  | finite negative m e =>
    if negative then some 0
    else
      let (num, den) := dyadic m e
      some (num / den)
  | infinite _ => none

/-- Clamps to `0 … limit`: an infinity goes to the end on its side. -/
def saturate (limit : Nat) (x : Binary64) (whole : Option Nat) : Nat :=
  match whole with
  | some n => min n limit
  | none => if x.isNegative then 0 else limit

def signPlace : Nat := 0x8000000000000000

def exponentPlace : Nat := 0x10000000000000

def toBits : Binary64 → Nat
  | finite negative m e =>
    let sign := if negative then signPlace else 0
    if m < mantissaLimit / 2 then sign + m
    else sign + (e + 1075).toNat * exponentPlace + (m - mantissaLimit / 2)
  | infinite negative => (if negative then signPlace else 0) + 2047 * exponentPlace

end Binary64

end OrphanWatch
