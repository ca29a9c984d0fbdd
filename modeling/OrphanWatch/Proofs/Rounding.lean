import Mathlib.Algebra.Order.Field.Power
import Mathlib.Data.Int.Log
import Mathlib.Data.Rat.Floor
import Mathlib.Tactic.FieldSimp
import Mathlib.Tactic.Linarith
import Mathlib.Tactic.NormNum
import Mathlib.Tactic.Positivity
import Mathlib.Tactic.Ring
import OrphanWatch.Binary64.Basic

/-!
# Rounding to double precision

What rounding once to the nearest number of the format means (`RoundsTo`), apart from how it is computed. The result
is unique, keeps the order of the numbers, leaves those of the format alone, and is wrong by half a last place at
most. The operations round the exact quotient or product in this sense (`roundsTo_ofQuotient`, `roundsTo_mul`), so that
what is built from them is estimated without opening them again.
-/

namespace OrphanWatch.Binary64

/-- The power of two that the format just does not reach. -/
@[irreducible]
def overflow : ℚ := 2 ^ (maxExponent + 53)

/-- The size of a number; an infinity counts as `overflow`. -/
def magnitude : Binary64 → ℚ
  | finite _ mantissa exponent => mantissa * 2 ^ exponent
  | infinite _ => overflow

def IsRepresentable (q : ℚ) : Prop :=
  ∃ (mantissa : ℕ) (exponent : ℤ), mantissa < mantissaLimit ∧ minExponent ≤ exponent ∧ exponent ≤ maxExponent
    ∧ q = mantissa * 2 ^ exponent

structure IsNearestWhole (q : ℚ) (n : ℕ) : Prop where
  near : |q - n| ≤ 1 / 2
  even_of_tie : |q - n| = 1 / 2 → Even n

/-- The exponent of the last place of the numbers about `q`. -/
def lastPlace (q : ℚ) : ℤ :=
  max (Int.log 2 q - 52) minExponent

/-- Rounding to the format: to a whole number of last places, and to `overflow` if that is not in reach. -/
def RoundsTo (q x : ℚ) : Prop :=
  ∃ places : ℕ, IsNearestWhole (q / 2 ^ lastPlace q) places ∧ x = min ((places : ℚ) * 2 ^ lastPlace q) overflow

variable {q r x y : ℚ} {num den n m : ℕ}

theorem two_zpow_pos (k : ℤ) : (0 : ℚ) < 2 ^ k :=
  zpow_pos (by norm_num) k

/-! ### Whole numbers -/

/-- Rounding to whole numbers keeps the order. -/
theorem IsNearestWhole.mono (hq : IsNearestWhole q n) (hr : IsNearestWhole r m) (hle : q ≤ r) : n ≤ m := by
  by_contra hlt
  have hgap : (m : ℚ) + 1 ≤ n := by exact_mod_cast not_le.1 hlt
  obtain ⟨hqlow, -⟩ := abs_le.1 hq.near
  obtain ⟨-, hrhigh⟩ := abs_le.1 hr.near
  have hn : Even n := by
    apply hq.even_of_tie
    rw [abs_of_nonpos (by linarith)]
    linarith
  have hm : Even m := by
    apply hr.even_of_tie
    rw [abs_of_nonneg (by linarith)]
    linarith
  have hnext : n = m + 1 := by
    have : (n : ℚ) = m + 1 := by linarith
    exact_mod_cast this
  rw [hnext, Nat.even_add_one] at hn
  exact hn hm

theorem IsNearestWhole.of_lt (hlow : (n : ℚ) ≤ q) (hhigh : q < n + 1 / 2) : IsNearestWhole q n where
  near := by
    rw [abs_of_nonneg (by linarith)]
    linarith
  even_of_tie htie := by
    rw [abs_of_nonneg (by linarith)] at htie
    linarith

theorem roundDiv_cases (num den : ℕ) :
    (roundDiv num den = num / den ∧ 2 * (num % den) ≤ den ∧ (2 * (num % den) = den → Even (num / den)))
    ∨ (roundDiv num den = num / den + 1 ∧ den ≤ 2 * (num % den)
      ∧ (2 * (num % den) = den → Even (num / den + 1))) := by
  simp only [roundDiv]
  split
  · next hbelow => exact .inl ⟨rfl, hbelow.le, fun htie => absurd htie hbelow.ne⟩
  · next hbelow =>
      split
      · next habove => exact .inr ⟨rfl, habove.le, fun htie => absurd htie habove.ne'⟩
      · next habove =>
          split
          · next heven => exact .inl ⟨rfl, not_lt.1 habove, fun _ => Nat.even_iff.2 heven⟩
          · next hodd =>
              refine .inr ⟨rfl, not_lt.1 hbelow, fun _ => ?_⟩
              rw [Nat.even_add_one, Nat.even_iff]
              exact hodd

/-- The division rounds to nearest, ties to even. -/
theorem isNearestWhole_roundDiv (num : ℕ) (hden : 0 < den) :
    IsNearestWhole ((num : ℚ) / den) (roundDiv num den) := by
  have hpos : (0 : ℚ) < den := Nat.cast_pos.2 hden
  have hsplit : (num : ℚ) / den = (num / den : ℕ) + (num % den : ℕ) / (den : ℚ) := by
    have hnum : (num : ℚ) = den * (num / den : ℕ) + (num % den : ℕ) := by
      exact_mod_cast (Nat.div_add_mod num den).symm
    field_simp
    linarith
  have hrest : 0 ≤ ((num % den : ℕ) : ℚ) / den ∧ ((num % den : ℕ) : ℚ) / den < 1 :=
    ⟨by positivity, (div_lt_one hpos).2 (Nat.cast_lt.2 (Nat.mod_lt num hden))⟩
  have htie : ((num % den : ℕ) : ℚ) / den = 1 / 2 → 2 * (num % den) = den := by
    intro hhalf
    rw [div_eq_div_iff hpos.ne' two_ne_zero] at hhalf
    have : (2 : ℚ) * (num % den : ℕ) = den := by linarith
    exact_mod_cast this
  rw [hsplit]
  obtain ⟨hround, hle, heven⟩ | ⟨hround, hle, heven⟩ := roundDiv_cases num den
  · have hhalf : ((num % den : ℕ) : ℚ) / den ≤ 1 / 2 := by
      rw [div_le_div_iff₀ hpos two_pos]
      have : (2 : ℚ) * (num % den : ℕ) ≤ den := by exact_mod_cast hle
      linarith
    rw [hround]
    constructor
    · rw [add_sub_cancel_left, abs_of_nonneg hrest.1]
      exact hhalf
    · rw [add_sub_cancel_left, abs_of_nonneg hrest.1]
      exact fun heq => heven (htie heq)
  · have hhalf : 1 / 2 ≤ ((num % den : ℕ) : ℚ) / den := by
      rw [div_le_div_iff₀ two_pos hpos]
      have : (den : ℚ) ≤ 2 * (num % den : ℕ) := by exact_mod_cast hle
      linarith
    rw [hround]
    constructor
    · rw [Nat.cast_add_one, add_sub_add_left_eq_sub, abs_of_nonpos (by linarith)]
      linarith
    · rw [Nat.cast_add_one, add_sub_add_left_eq_sub, abs_of_nonpos (by linarith)]
      exact fun heq => heven (htie (by linarith))

/-! ### Quotients -/

theorem shiftQuotient_den_pos (num : ℕ) (hden : 0 < den) (shift : ℤ) : 0 < (shiftQuotient num den shift).2 := by
  unfold shiftQuotient
  split
  · exact hden
  · exact Nat.mul_pos hden (Nat.pow_pos two_pos)

theorem shiftQuotient_value (num den : ℕ) (shift : ℤ) :
    ((shiftQuotient num den shift).1 : ℚ) / (shiftQuotient num den shift).2 = num / den * 2 ^ shift := by
  unfold shiftQuotient
  split
  · next hshift =>
      obtain ⟨k, rfl⟩ := Int.eq_ofNat_of_zero_le hshift
      simp only [Nat.pow_eq, Int.toNat_natCast, Nat.cast_mul, Nat.cast_pow, Nat.cast_ofNat, zpow_natCast]
      ring
  · next hshift =>
      obtain ⟨k, hk⟩ := Int.eq_ofNat_of_zero_le (show 0 ≤ -shift by omega)
      obtain rfl : shift = -(k : ℤ) := by omega
      simp only [neg_neg, Nat.pow_eq, Int.toNat_natCast, Nat.cast_mul, Nat.cast_pow, Nat.cast_ofNat, zpow_neg,
        zpow_natCast]
      field_simp

theorem log_eq_of_bounds {k : ℤ} (hlow : 2 ^ k ≤ q) (hhigh : q < 2 ^ (k + 1)) : Int.log 2 q = k := by
  have hq : 0 < q := (two_zpow_pos k).trans_le hlow
  apply le_antisymm
  · have := (Int.lt_zpow_iff_log_lt (b := 2) one_lt_two hq).1 (by exact_mod_cast hhigh)
    omega
  · exact (Int.zpow_le_iff_le_log (b := 2) one_lt_two hq).1 (by exact_mod_cast hlow)

theorem quotient_log2_bounds (hnum : 0 < num) (hden : 0 < den) :
    (2 : ℚ) ^ ((num.log2 : ℤ) - den.log2 - 1) ≤ num / den
      ∧ (num : ℚ) / den < 2 ^ ((num.log2 : ℤ) - den.log2 + 1) := by
  have hpos : (0 : ℚ) < den := Nat.cast_pos.2 hden
  have hdenlow : (2 : ℚ) ^ (den.log2 : ℤ) ≤ den := by exact_mod_cast Nat.log2_self_le hden.ne'
  have hdenhigh : (den : ℚ) ≤ 2 ^ ((den.log2 : ℤ) + 1) := by exact_mod_cast (Nat.lt_log2_self (n := den)).le
  constructor
  · rw [le_div_iff₀ hpos]
    calc (2 : ℚ) ^ ((num.log2 : ℤ) - den.log2 - 1) * den
        ≤ 2 ^ ((num.log2 : ℤ) - den.log2 - 1) * 2 ^ ((den.log2 : ℤ) + 1) :=
          mul_le_mul_of_nonneg_left hdenhigh (two_zpow_pos _).le
      _ = 2 ^ (num.log2 : ℤ) := by
          rw [← zpow_add₀ two_ne_zero]
          congr 1
          ring
      _ ≤ num := by exact_mod_cast Nat.log2_self_le hnum.ne'
  · rw [div_lt_iff₀ hpos]
    calc (num : ℚ) < 2 ^ ((num.log2 : ℤ) + 1) := by exact_mod_cast Nat.lt_log2_self (n := num)
      _ = 2 ^ ((num.log2 : ℤ) - den.log2 + 1) * 2 ^ (den.log2 : ℤ) := by
          rw [← zpow_add₀ two_ne_zero]
          congr 1
          ring
      _ ≤ 2 ^ ((num.log2 : ℤ) - den.log2 + 1) * den :=
          mul_le_mul_of_nonneg_left hdenlow (two_zpow_pos _).le

/-- The search for the exponent finds the binary logarithm. -/
theorem floorLog2_eq_log (hnum : 0 < num) (hden : 0 < den) :
    floorLog2 num den = Int.log 2 ((num : ℚ) / den) := by
  obtain ⟨hlow, hhigh⟩ := quotient_log2_bounds hnum hden
  simp only [floorLog2]
  -- The guess is right or one too large, and the branch compares the quotient with its power.
  generalize (num.log2 : ℤ) - den.log2 = guess at *
  have hreach : (shiftQuotient num den (-guess)).2 ≤ (shiftQuotient num den (-guess)).1
      ↔ (2 : ℚ) ^ guess ≤ num / den := by
    have hshifted : (0 : ℚ) < (shiftQuotient num den (-guess)).2 :=
      Nat.cast_pos.2 (shiftQuotient_den_pos num hden _)
    rw [← Nat.cast_le (α := ℚ), ← one_le_div hshifted, shiftQuotient_value, zpow_neg,
      ← div_eq_mul_inv, one_le_div (two_zpow_pos guess)]
  by_cases hguess : (2 : ℚ) ^ guess ≤ num / den
  · rw [if_pos (hreach.2 hguess), log_eq_of_bounds hguess hhigh]
  · rw [if_neg (hreach.not.2 hguess), log_eq_of_bounds hlow]
    rw [sub_add_cancel]
    exact not_le.1 hguess

/-! ### Rounding -/

theorem lastPlace_mono (hq : 0 < q) (hle : q ≤ r) : lastPlace q ≤ lastPlace r :=
  max_le_max_right _ (sub_le_sub_right (Int.log_mono_right hq hle) 52)

theorem minExponent_le_lastPlace (q : ℚ) : minExponent ≤ lastPlace q :=
  le_max_right _ _

/-- A number has at most 53 binary digits before its last place. -/
theorem div_lastPlace_lt (q : ℚ) : q / 2 ^ lastPlace q < 2 ^ (53 : ℤ) := by
  have hlog : q < 2 ^ (Int.log 2 q + 1) := by exact_mod_cast Int.lt_zpow_succ_log_self (b := 2) one_lt_two q
  rw [div_lt_iff₀ (two_zpow_pos _), ← zpow_add₀ two_ne_zero]
  refine hlog.trans_le (zpow_le_zpow_right₀ one_le_two ?_)
  have := le_max_left (Int.log 2 q - 52) minExponent
  rw [lastPlace]
  omega

/-- Above the least exponent a number has all the 53 binary digits before its last place. -/
theorem le_div_lastPlace (hq : 0 < q) (hplace : minExponent < lastPlace q) :
    2 ^ (52 : ℤ) ≤ q / 2 ^ lastPlace q := by
  have hlog : 2 ^ Int.log 2 q ≤ q := by exact_mod_cast Int.zpow_log_le_self (b := 2) one_lt_two hq
  have hexponent : lastPlace q = Int.log 2 q - 52 := by
    rw [lastPlace] at hplace ⊢
    omega
  rw [le_div_iff₀ (two_zpow_pos _), ← zpow_add₀ two_ne_zero, hexponent]
  refine le_trans (le_of_eq ?_) hlog
  congr 1
  omega

theorem lastPlace_le {place : ℤ} (hq : 0 < q) (hlt : q < 2 ^ (place + 53)) (hplace : minExponent ≤ place) :
    lastPlace q ≤ place := by
  have hlog := (Int.lt_zpow_iff_log_lt (b := 2) one_lt_two hq).1 (by exact_mod_cast hlt)
  refine max_le ?_ hplace
  omega

theorem IsRepresentable.lt_overflow (hq : IsRepresentable q) : q < overflow := by
  obtain ⟨mantissa, exponent, hmantissa, -, hexponent, rfl⟩ := hq
  have hlimit : (mantissa : ℚ) < 2 ^ (53 : ℤ) := by
    rw [mantissaLimit] at hmantissa
    exact_mod_cast hmantissa
  calc (mantissa : ℚ) * 2 ^ exponent < 2 ^ (53 : ℤ) * 2 ^ exponent := by gcongr
    _ = 2 ^ (exponent + 53) := by rw [← zpow_add₀ two_ne_zero, add_comm]
    _ ≤ overflow := by
        rw [overflow]
        exact zpow_le_zpow_right₀ one_le_two (by omega)

/-- A number of the format is a whole number of its last places. -/
theorem IsRepresentable.exists_places (hq : IsRepresentable q) (hpos : 0 < q) :
    ∃ places : ℕ, places < mantissaLimit ∧ q = places * 2 ^ lastPlace q := by
  obtain ⟨mantissa, exponent, hmantissa, hmin, -, hvalue⟩ := hq
  have hlimit : (mantissa : ℚ) < 2 ^ (53 : ℤ) := by
    rw [mantissaLimit] at hmantissa
    exact_mod_cast hmantissa
  have hplace : lastPlace q ≤ exponent := by
    refine lastPlace_le hpos ?_ hmin
    rw [hvalue, add_comm, zpow_add₀ two_ne_zero]
    gcongr
  obtain ⟨shift, hshift⟩ := Int.eq_ofNat_of_zero_le (sub_nonneg.2 hplace)
  have hplaces : q = (mantissa * 2 ^ shift : ℕ) * 2 ^ lastPlace q :=
    calc q = mantissa * 2 ^ exponent := hvalue
      _ = mantissa * (2 ^ (shift : ℤ) * 2 ^ lastPlace q) := by
          rw [← zpow_add₀ two_ne_zero]
          congr 2
          omega
      _ = (mantissa * 2 ^ shift : ℕ) * 2 ^ lastPlace q := by
          rw [Nat.cast_mul, Nat.cast_pow, Nat.cast_ofNat, zpow_natCast, mul_assoc]
  refine ⟨mantissa * 2 ^ shift, ?_, hplaces⟩
  have hlt := div_lastPlace_lt q
  rw [div_lt_iff₀ (two_zpow_pos _)] at hlt
  nth_rewrite 1 [hplaces] at hlt
  have := lt_of_mul_lt_mul_right hlt (two_zpow_pos _).le
  rw [mantissaLimit]
  exact_mod_cast this

/-- A number that is a little above one of the format is rounded to that one. -/
theorem IsRepresentable.roundsTo_of_near (hq : IsRepresentable q) (hle : q ≤ r)
    (hnear : r ≤ q * (1 + 2 ^ (-55 : ℤ))) (hpos : 0 < q) : RoundsTo r q := by
  obtain ⟨places, hlimit, hplaces⟩ := hq.exists_places hpos
  have hunit := two_zpow_pos (lastPlace q)
  have hwhole : (places : ℚ) + 1 ≤ 2 ^ 53 := by
    rw [mantissaLimit] at hlimit
    exact_mod_cast hlimit
  have hquotient : r / 2 ^ lastPlace q < places + 1 / 2 := by
    rw [div_lt_iff₀ hunit]
    calc r ≤ q * (1 + 2 ^ (-55 : ℤ)) := hnear
      _ = (places + places * 2 ^ (-55 : ℤ)) * 2 ^ lastPlace q := by
          nth_rewrite 1 [hplaces]
          ring
      _ < (places + 1 / 2) * 2 ^ lastPlace q := by
          gcongr
          norm_num
          linarith
  have hplace : lastPlace r = lastPlace q := by
    refine le_antisymm (lastPlace_le (hpos.trans_le hle) ?_ (minExponent_le_lastPlace q)) (lastPlace_mono hpos hle)
    rw [add_comm, zpow_add₀ two_ne_zero, ← div_lt_iff₀ hunit]
    refine hquotient.trans ?_
    norm_num at hwhole ⊢
    linarith
  refine ⟨places, ?_, ?_⟩
  · rw [hplace]
    refine .of_lt ?_ hquotient
    rw [le_div_iff₀ hunit, ← hplaces]
    exact hle
  · rw [hplace, ← hplaces, min_eq_left hq.lt_overflow.le]

theorem overflow_pos : 0 < overflow := by
  rw [overflow]
  exact two_zpow_pos _

theorem RoundsTo.nonneg (hq : RoundsTo q x) : 0 ≤ x := by
  obtain ⟨places, -, hx⟩ := hq
  rw [hx]
  exact le_min (mul_nonneg (Nat.cast_nonneg _) (two_zpow_pos _).le) overflow_pos.le

theorem RoundsTo.le_overflow (hq : RoundsTo q x) : x ≤ overflow := by
  obtain ⟨places, -, hx⟩ := hq
  rw [hx]
  exact min_le_right _ _

theorem roundsTo_zero : RoundsTo 0 0 := by
  refine ⟨0, ?_, ?_⟩
  · rw [zero_div]
    exact .of_lt (by norm_num) (by norm_num)
  · rw [Nat.cast_zero, zero_mul, min_eq_left overflow_pos.le]

theorem RoundsTo.eq_zero (hq : RoundsTo 0 x) : x = 0 := by
  obtain ⟨places, hplaces, hx⟩ := hq
  have hzero : IsNearestWhole (0 / 2 ^ lastPlace 0) 0 := by
    rw [zero_div]
    exact .of_lt (by norm_num) (by norm_num)
  rw [hx, Nat.le_zero.1 (hplaces.mono hzero le_rfl), Nat.cast_zero, zero_mul, min_eq_left overflow_pos.le]

/-- Rounding keeps the order. -/
theorem RoundsTo.mono (hq : RoundsTo q x) (hr : RoundsTo r y) (hnonneg : 0 ≤ q) (hle : q ≤ r) : x ≤ y := by
  obtain rfl | hpos := hnonneg.eq_or_lt
  · rw [hq.eq_zero]
    exact hr.nonneg
  obtain ⟨n, hn, hx⟩ := hq
  obtain ⟨m, hm, hy⟩ := hr
  rw [hx, hy]
  refine min_le_min_right overflow ?_
  obtain hplace | hplace := (lastPlace_mono hpos hle).eq_or_lt
  · rw [← hplace] at hm ⊢
    have : n ≤ m := hn.mono hm (by gcongr)
    gcongr
  · -- The larger number is in a higher binade, which starts where the lower one ends.
    have hlow : (n : ℚ) ≤ 2 ^ 53 := by
      have hwhole : IsNearestWhole (2 ^ 53 : ℚ) (2 ^ 53) := .of_lt (by norm_num) (by norm_num)
      exact_mod_cast hn.mono hwhole (by exact_mod_cast (div_lastPlace_lt q).le)
    have hhigh : (2 : ℚ) ^ 52 ≤ m := by
      have hwhole : IsNearestWhole (2 ^ 52 : ℚ) (2 ^ 52) := .of_lt (by norm_num) (by norm_num)
      have hfull := le_div_lastPlace (hpos.trans_le hle) ((minExponent_le_lastPlace q).trans_lt hplace)
      exact_mod_cast hwhole.mono hm (by exact_mod_cast hfull)
    calc (n : ℚ) * 2 ^ lastPlace q ≤ 2 ^ 53 * 2 ^ lastPlace q := by gcongr
      _ = 2 ^ 52 * 2 ^ (lastPlace q + 1) := by
          rw [zpow_add_one₀ two_ne_zero]
          ring
      _ ≤ m * 2 ^ lastPlace r := by
          gcongr
          · norm_num
          · omega

/-- Rounding has one result. -/
theorem RoundsTo.unique (hx : RoundsTo q x) (hy : RoundsTo q y) (hnonneg : 0 ≤ q) : x = y :=
  le_antisymm (hx.mono hy hnonneg le_rfl) (hy.mono hx hnonneg le_rfl)

/-- What belongs to the format is rounded to itself. -/
theorem IsRepresentable.roundsTo_self (hq : IsRepresentable q) (hnonneg : 0 ≤ q) : RoundsTo q q := by
  obtain rfl | hpos := hnonneg.eq_or_lt
  · exact roundsTo_zero
  · refine hq.roundsTo_of_near le_rfl ?_ hpos
    refine le_mul_of_one_le_right hnonneg ?_
    norm_num

theorem isRepresentable_natCast {n : ℕ} (hle : n ≤ 2 ^ 53) : IsRepresentable n := by
  obtain hlt | rfl := hle.lt_or_eq
  · exact ⟨n, 0, hlt, by decide, by decide, by rw [zpow_zero, mul_one]⟩
  · exact ⟨1, 53, by decide, by decide, by decide, by norm_num⟩

/-- From `2 ^ 52` on, rounding gives whole numbers. -/
theorem RoundsTo.exists_natCast (hq : RoundsTo q x) (hlarge : 2 ^ 52 ≤ q) (hlt : x < overflow) : ∃ n : ℕ, x = n := by
  obtain ⟨places, -, hx⟩ := hq
  have hpos : 0 < q := (by norm_num : (0 : ℚ) < 2 ^ 52).trans_le hlarge
  have hlog := (Int.zpow_le_iff_le_log (b := 2) (x := 52) one_lt_two hpos).1 (by exact_mod_cast hlarge)
  obtain ⟨shift, hshift⟩ := Int.eq_ofNat_of_zero_le (show 0 ≤ lastPlace q by rw [lastPlace]; omega)
  rw [hx] at hlt ⊢
  refine ⟨places * 2 ^ shift, ?_⟩
  rw [min_eq_left (min_lt_iff.1 hlt |>.resolve_right (lt_irrefl _)).le, hshift, zpow_natCast]
  push_cast
  rfl

def leastNormal : ℚ := 2 ^ (-1022 : ℤ)

/-- Half a last place of a number that has all its digits, in proportion to the number. -/
def roundoff : ℚ := 2 ^ (-53 : ℤ)

theorem half_lastPlace_le (hnormal : leastNormal ≤ q) : 2 ^ lastPlace q / 2 ≤ q * roundoff := by
  have hpos : 0 < q := (two_zpow_pos _).trans_le hnormal
  have hplace : lastPlace q = Int.log 2 q - 52 := by
    have := (Int.zpow_le_iff_le_log (b := 2) one_lt_two hpos).1 (by exact_mod_cast hnormal)
    rw [lastPlace, minExponent]
    omega
  have hlog : 2 ^ Int.log 2 q ≤ q := by exact_mod_cast Int.zpow_log_le_self (b := 2) one_lt_two hpos
  calc (2 : ℚ) ^ lastPlace q / 2 = 2 ^ Int.log 2 q * roundoff := by
        rw [hplace, roundoff, div_eq_mul_inv, ← zpow_neg_one, ← zpow_add₀ two_ne_zero, ← zpow_add₀ two_ne_zero]
        congr 1
        ring
    _ ≤ q * roundoff := mul_le_mul_of_nonneg_right hlog (two_zpow_pos _).le

/-- Rounding moves a number by half a last place at most. -/
theorem RoundsTo.error (hq : RoundsTo q x) (hnormal : leastNormal ≤ q) :
    min (q * (1 - roundoff)) overflow ≤ x ∧ x ≤ q * (1 + roundoff) := by
  obtain ⟨places, hnearest, hx⟩ := hq
  have hunit := two_zpow_pos (lastPlace q)
  have hhalf := half_lastPlace_le hnormal
  obtain ⟨hlow, hhigh⟩ := abs_le.1 hnearest.near
  have hscaled : q / 2 ^ lastPlace q * 2 ^ lastPlace q = q := div_mul_cancel₀ q hunit.ne'
  rw [hx, mul_one_sub, mul_one_add]
  constructor
  · refine min_le_min_right overflow ?_
    calc q - q * roundoff ≤ q - 2 ^ lastPlace q / 2 := sub_le_sub_left hhalf q
      _ = (q / 2 ^ lastPlace q - 1 / 2) * 2 ^ lastPlace q := by rw [sub_mul, hscaled]; ring
      _ ≤ places * 2 ^ lastPlace q := mul_le_mul_of_nonneg_right (by linarith) hunit.le
  · refine (min_le_left _ _).trans ?_
    calc (places : ℚ) * 2 ^ lastPlace q
        ≤ (q / 2 ^ lastPlace q + 1 / 2) * 2 ^ lastPlace q := mul_le_mul_of_nonneg_right (by linarith) hunit.le
      _ = q + 2 ^ lastPlace q / 2 := by rw [add_mul, hscaled]; ring
      _ ≤ q + q * roundoff := add_le_add_right hhalf q

/-! ### The operations -/

def InFormat : Binary64 → Prop
  | finite _ mantissa exponent => mantissa < mantissaLimit ∧ minExponent ≤ exponent ∧ exponent ≤ maxExponent
  | infinite _ => True

theorem InFormat.isRepresentable {negative : Bool} {mantissa : ℕ} {exponent : ℤ}
    (hformat : (finite negative mantissa exponent).InFormat) :
    IsRepresentable (finite negative mantissa exponent).magnitude :=
  ⟨mantissa, exponent, hformat.1, hformat.2.1, hformat.2.2, rfl⟩

theorem isNegative_ofQuotient (negative : Bool) (num den : ℕ) :
    (ofQuotient negative num den).isNegative = negative := by
  simp only [ofQuotient]
  split_ifs <;> rfl

theorem roundDiv_le_mantissaLimit (hden : 0 < den) (hlt : (num : ℚ) / den < 2 ^ (53 : ℤ)) :
    roundDiv num den ≤ mantissaLimit := by
  have hwhole : IsNearestWhole (2 ^ (53 : ℤ)) mantissaLimit :=
    .of_lt (by rw [mantissaLimit]; norm_num) (by rw [mantissaLimit]; norm_num)
  exact (isNearestWhole_roundDiv num hden).mono hwhole hlt.le

theorem overflow_le_of_le {k place : ℤ} (hplaces : (2 : ℚ) ^ k ≤ n) (hplace : maxExponent + 53 ≤ place + k) :
    overflow ≤ n * 2 ^ place := by
  rw [overflow]
  calc (2 : ℚ) ^ (maxExponent + 53) ≤ 2 ^ (k + place) := zpow_le_zpow_right₀ one_le_two (by omega)
    _ = 2 ^ k * 2 ^ place := zpow_add₀ two_ne_zero _ _
    _ ≤ n * 2 ^ place := mul_le_mul_of_nonneg_right hplaces (two_zpow_pos _).le

/-- The quotient is rounded once, and to a number of the format. -/
theorem roundsTo_ofQuotient (negative : Bool) (num : ℕ) (hden : 0 < den) :
    (ofQuotient negative num den).InFormat
    ∧ RoundsTo ((num : ℚ) / den) (ofQuotient negative num den).magnitude := by
  rw [ofQuotient, if_neg hden.ne']
  by_cases hnum : num = 0
  · rw [if_pos hnum, hnum, Nat.cast_zero, zero_div, magnitude, Nat.cast_zero, zero_mul]
    exact ⟨(by decide : 0 < mantissaLimit ∧ minExponent ≤ minExponent ∧ minExponent ≤ maxExponent), roundsTo_zero⟩
  rw [if_neg hnum, floorLog2_eq_log (Nat.pos_of_ne_zero hnum) hden]
  generalize hq : (num : ℚ) / den = q
  have hplace : max (Int.log 2 q - 52) minExponent = lastPlace q := rfl
  have hminimum := minExponent_le_lastPlace q
  simp only [hplace]
  -- What is rounded to a whole number is the quotient in last places.
  generalize hshifted : shiftQuotient num den (-lastPlace q) = shifted
  have hshiftedpos : 0 < shifted.2 := hshifted ▸ shiftQuotient_den_pos num hden _
  have hvalue : (shifted.1 : ℚ) / shifted.2 = q / 2 ^ lastPlace q := by
    rw [← hshifted, shiftQuotient_value, hq, zpow_neg, div_eq_mul_inv]
  have hnearest := isNearestWhole_roundDiv shifted.1 hshiftedpos
  have hlimit := roundDiv_le_mantissaLimit hshiftedpos (hvalue ▸ div_lastPlace_lt q)
  rw [hvalue] at hnearest
  have hfull (hbelow : minExponent < lastPlace q) : (2 : ℚ) ^ (52 : ℤ) ≤ (roundDiv shifted.1 shifted.2 : ℕ) := by
    have hwhole : IsNearestWhole (2 ^ (52 : ℤ)) (2 ^ 52) := .of_lt (by norm_num) (by norm_num)
    have hpos : 0 < q := by
      rw [← hq]
      exact div_pos (Nat.cast_pos.2 (Nat.pos_of_ne_zero hnum)) (Nat.cast_pos.2 hden)
    exact_mod_cast hwhole.mono hnearest (le_div_lastPlace hpos hbelow)
  generalize roundDiv shifted.1 shifted.2 = places at *
  by_cases hcarry : places = mantissaLimit
  · -- The mantissa has one digit too many: its half stands one place higher.
    simp only [if_pos hcarry]
    have hlimit : (places : ℚ) = 2 ^ (53 : ℤ) := by
      rw [hcarry, mantissaLimit]
      norm_num
    split
    · next hover =>
        refine ⟨trivial, places, hnearest, (min_eq_right ?_).symm⟩
        exact overflow_le_of_le hlimit.ge (by omega)
    · next hover =>
        have hformat : (finite negative (mantissaLimit / 2) (lastPlace q + 1)).InFormat :=
          ⟨by decide, by omega, not_lt.1 hover⟩
        have hvalue : (places : ℚ) * 2 ^ lastPlace q = (mantissaLimit / 2 : ℕ) * 2 ^ (lastPlace q + 1) := by
          rw [hlimit, zpow_add_one₀ two_ne_zero, mantissaLimit]
          norm_num
          ring
        refine ⟨hformat, places, hnearest, ?_⟩
        rw [hvalue]
        exact (min_eq_left hformat.isRepresentable.lt_overflow.le).symm
  · simp only [if_neg hcarry]
    split
    · next hover =>
        refine ⟨trivial, places, hnearest, (min_eq_right ?_).symm⟩
        have hbelow : minExponent < lastPlace q := (by decide : minExponent < maxExponent).trans hover
        exact overflow_le_of_le (hfull hbelow) (by omega)
    · next hover =>
        have hformat : (finite negative places (lastPlace q)).InFormat :=
          ⟨lt_of_le_of_ne hlimit hcarry, hminimum, not_lt.1 hover⟩
        exact ⟨hformat, places, hnearest, (min_eq_left hformat.isRepresentable.lt_overflow.le).symm⟩

theorem exists_quotient (hnonneg : 0 ≤ q) : ∃ num den : ℕ, 0 < den ∧ (num : ℚ) / den = q := by
  obtain ⟨num, hnum⟩ := Int.eq_ofNat_of_zero_le (Rat.num_nonneg.2 hnonneg)
  refine ⟨num, q.den, q.den_pos, ?_⟩
  have hdiv := Rat.num_div_den q
  rwa [hnum] at hdiv

/-- Every number without sign can be rounded. -/
theorem exists_roundsTo (hnonneg : 0 ≤ q) : ∃ x, RoundsTo q x := by
  obtain ⟨num, den, hden, rfl⟩ := exists_quotient hnonneg
  exact ⟨_, (roundsTo_ofQuotient false num hden).2⟩

/-- What comes out of rounding belongs to the format. -/
theorem RoundsTo.isRepresentable (hq : RoundsTo q x) (hnonneg : 0 ≤ q) (hlt : x < overflow) : IsRepresentable x := by
  obtain ⟨num, den, hden, rfl⟩ := exists_quotient hnonneg
  obtain ⟨hformat, hround⟩ := roundsTo_ofQuotient false num hden
  obtain rfl := hround.unique hq hnonneg
  cases hx : ofQuotient false num den with
  | finite negative mantissa exponent =>
      rw [hx] at hformat
      exact hformat.isRepresentable
  | infinite negative =>
      rw [hx] at hlt
      exact absurd hlt (lt_irrefl _)

/-- A whole number is rounded to the format. -/
theorem roundsTo_ofNat (n : ℕ) : RoundsTo n (ofNat n).magnitude := by
  have hround := (roundsTo_ofQuotient false n Nat.one_pos).2
  rwa [Nat.cast_one, div_one] at hround

theorem isZero_ofInt_eq_false {n : ℤ} (hne : n ≠ 0) : (ofInt n).isZero = false := by
  obtain ⟨-, hround⟩ := roundsTo_ofQuotient (n < 0) n.natAbs Nat.one_pos
  have hone : 1 ≤ (ofInt n).magnitude := by
    have hrepresentable : IsRepresentable (1 : ℕ) := isRepresentable_natCast (by decide)
    have hle : ((1 : ℕ) : ℚ) ≤ n.natAbs / (1 : ℕ) := by
      rw [Nat.cast_one, div_one]
      exact_mod_cast Int.natAbs_pos.2 hne
    exact_mod_cast (hrepresentable.roundsTo_self (Nat.cast_nonneg 1)).mono hround (Nat.cast_nonneg 1) hle
  cases hx : ofInt n with
  | infinite negative => rfl
  | finite negative mantissa exponent =>
      rw [isZero, beq_eq_false_iff_ne]
      rintro rfl
      rw [hx, magnitude, Nat.cast_zero, zero_mul] at hone
      norm_num at hone

theorem magnitude_ofNat {n : ℕ} (hn : IsRepresentable n) : (ofNat n).magnitude = n :=
  (roundsTo_ofNat n).unique (hn.roundsTo_self (Nat.cast_nonneg n)) (Nat.cast_nonneg n)

/-- A decimal is read as the nearest number of the format. -/
theorem roundsTo_ofDecimal (digits : ℕ) (power : ℤ) :
    RoundsTo (digits * 10 ^ power) (ofDecimal digits power).magnitude := by
  unfold ofDecimal
  split
  · next hpower =>
      obtain ⟨k, rfl⟩ := Int.eq_ofNat_of_zero_le hpower
      have hround := (roundsTo_ofQuotient false (digits * Nat.pow 10 k) Nat.one_pos).2
      rwa [Nat.cast_one, div_one, Nat.cast_mul, Nat.pow_eq, Nat.cast_pow, Nat.cast_ofNat, ← zpow_natCast] at hround
  · next hpower =>
      obtain ⟨k, hk⟩ := Int.eq_ofNat_of_zero_le (show 0 ≤ -power by omega)
      obtain rfl : power = -(k : ℤ) := by omega
      have hround := (roundsTo_ofQuotient false digits (show 0 < Nat.pow 10 k from Nat.pow_pos (by decide))).2
      rw [neg_neg, Int.toNat_natCast, zpow_neg, ← div_eq_mul_inv, zpow_natCast]
      rwa [Nat.pow_eq, Nat.cast_pow, Nat.cast_ofNat] at hround

theorem isNegative_ofDecimal (digits : ℕ) (power : ℤ) : (ofDecimal digits power).isNegative = false := by
  unfold ofDecimal
  split <;> exact isNegative_ofQuotient _ _ _

theorem dyadic_value (mantissa : ℕ) (exponent : ℤ) :
    0 < (dyadic mantissa exponent).2
    ∧ ((dyadic mantissa exponent).1 : ℚ) / (dyadic mantissa exponent).2 = mantissa * 2 ^ exponent := by
  refine ⟨shiftQuotient_den_pos _ Nat.one_pos _, ?_⟩
  rw [dyadic, shiftQuotient_value, Nat.cast_one, div_one]

/-- The product is the exact one, rounded once. -/
theorem roundsTo_mul (s t : Bool) (m n : ℕ) (e f : ℤ) :
    RoundsTo ((finite s m e).magnitude * (finite t n f).magnitude) (finite s m e * finite t n f).magnitude := by
  obtain ⟨hpos, hvalue⟩ := dyadic_value (m * n) (e + f)
  have hround := (roundsTo_ofQuotient (s != t) (dyadic (m * n) (e + f)).1 hpos).2
  have hproduct : (finite s m e).magnitude * (finite t n f).magnitude = (m * n : ℕ) * 2 ^ (e + f) := by
    rw [magnitude, magnitude, zpow_add₀ two_ne_zero, Nat.cast_mul]
    ring
  rwa [hproduct, ← hvalue]

theorem isNegative_mul (x y : Binary64) : (x * y).isNegative = (x.isNegative != y.isNegative) := by
  cases x <;> cases y <;> first | exact isNegative_ofQuotient _ _ _ | rfl

theorem ceil_div_eq (num : ℕ) (hden : 0 < den) : ⌈(num : ℚ) / den⌉₊ = (num + den - 1) / den := by
  refine eq_of_forall_ge_iff fun bound => ?_
  rw [Nat.ceil_le, div_le_iff₀ (Nat.cast_pos.2 hden), Nat.div_le_iff_le_mul_add_pred hden]
  constructor
  · intro hle
    have : num ≤ bound * den := by exact_mod_cast hle
    rw [mul_comm] at this
    omega
  · intro hle
    have : num ≤ bound * den := by
      rw [mul_comm]
      omega
    exact_mod_cast this

/-- Rounding up and clamping is exact, for numbers without sign. -/
theorem saturate_ceilNat? {limit : ℕ} {x : Binary64} (hsign : x.isNegative = false) (hlimit : limit ≤ overflow) :
    x.saturate limit x.ceilNat? = min ⌈x.magnitude⌉₊ limit := by
  cases x with
  | finite negative mantissa exponent =>
      obtain rfl : negative = false := hsign
      obtain ⟨hpos, hvalue⟩ := dyadic_value mantissa exponent
      have hceil : (finite false mantissa exponent).ceilNat? = some ⌈(finite false mantissa exponent).magnitude⌉₊ := by
        rw [magnitude, ← hvalue, ceil_div_eq _ hpos]
        rfl
      rw [hceil]
      rfl
  | infinite negative =>
      obtain rfl : negative = false := hsign
      have hceil : limit ≤ ⌈overflow⌉₊ := by exact_mod_cast hlimit.trans (Nat.le_ceil overflow)
      rw [magnitude, min_eq_right hceil]
      rfl

end OrphanWatch.Binary64
