import OrphanWatch.Proofs.QuantityText
import OrphanWatch.Proofs.Rounding

/-!
# The bytes of an amount

The bytes are counted in double precision: the number before the suffix is rounded, its product with the unit is
rounded again, and what comes out is rounded up to whole bytes. Both roundings keep the order, and where the number
and the product belong to the format they change nothing. Elsewhere the bytes are those of a value at most three
roundoffs away (`Quantity.bytes_follow_value`), which may lie on the other side of a whole number: `16.1k` counts as
16101 bytes (`Quantity.bytes_are_not_values`).
-/

namespace OrphanWatch

open Binary64

/-! ### Two roundings -/

namespace Binary64

/-- A product whose first factor is rounded before. -/
def ScalesTo (unit q y : ℚ) : Prop :=
  ∃ x, RoundsTo q x ∧ RoundsTo (x * unit) y

/-- The unit in double precision: exact, or too large by no more than a quarter of the error of a rounding. -/
structure IsUnitFor (exact unit : ℚ) : Prop where
  le : exact ≤ unit
  near : unit ≤ exact * (1 + 2 ^ (-55 : ℤ))
  thousandth_le : 1 / 1000 ≤ exact
  le_exa : exact ≤ 2 ^ 60

variable {unit exact q r x y z : ℚ}

theorem IsUnitFor.pos (hunit : IsUnitFor exact unit) : 0 < exact :=
  (by norm_num : (0 : ℚ) < 1 / 1000).trans_le hunit.thousandth_le

theorem ScalesTo.mono (hq : ScalesTo unit q y) (hr : ScalesTo unit r z) (hunit : 0 ≤ unit) (hnonneg : 0 ≤ q)
    (hle : q ≤ r) : y ≤ z := by
  obtain ⟨x, hx, hy⟩ := hq
  obtain ⟨w, hw, hz⟩ := hr
  have hxw : x ≤ w := hx.mono hw hnonneg hle
  exact hy.mono hz (mul_nonneg hx.nonneg hunit) (mul_le_mul_of_nonneg_right hxw hunit)

/-- A product is exact if the number and the exact product are in the format. -/
theorem ScalesTo.eq_of_exact (hq : ScalesTo unit q y) (hunit : IsUnitFor exact unit) (hnonneg : 0 ≤ q)
    (hnumber : IsRepresentable q) (hproduct : IsRepresentable (q * exact)) : y = q * exact := by
  have hexact := hunit.pos
  obtain ⟨x, hx, hy⟩ := hq
  obtain rfl := hx.unique (hnumber.roundsTo_self hnonneg) hnonneg
  obtain rfl | hpos := hnonneg.eq_or_lt
  · rw [zero_mul] at hy ⊢
    exact hy.eq_zero
  · have hnear : RoundsTo (x * unit) (x * exact) := by
      refine hproduct.roundsTo_of_near (mul_le_mul_of_nonneg_left hunit.le hnonneg) ?_ (mul_pos hpos hexact)
      rw [mul_assoc]
      exact mul_le_mul_of_nonneg_left hunit.near hnonneg
    exact hy.unique hnear (mul_nonneg hnonneg (hexact.le.trans hunit.le))

theorem exists_scalesTo (hunit : 0 ≤ unit) (hnonneg : 0 ≤ q) : ∃ y, ScalesTo unit q y := by
  obtain ⟨x, hx⟩ := exists_roundsTo hnonneg
  obtain ⟨y, hy⟩ := exists_roundsTo (mul_nonneg hx.nonneg hunit)
  exact ⟨y, x, hx, hy⟩

/-! ### More than 64 bits -/

theorem isRepresentable_word : IsRepresentable (2 ^ 64) :=
  ⟨1, 64, by decide, by decide, by decide, by norm_num⟩

theorem word_le_overflow : (2 : ℚ) ^ 64 ≤ overflow :=
  isRepresentable_word.lt_overflow.le

theorem RoundsTo.word_le (hq : RoundsTo q x) (hle : 2 ^ 64 ≤ q) : 2 ^ 64 ≤ x :=
  (isRepresentable_word.roundsTo_self (by norm_num)).mono hq (by norm_num) hle

theorem RoundsTo.le_word (hq : RoundsTo q x) (hnonneg : 0 ≤ q) (hle : q ≤ 2 ^ 64) : x ≤ 2 ^ 64 :=
  hq.mono (isRepresentable_word.roundsTo_self (by norm_num)) hnonneg hle

/-- What is out of reach is so large that the smallest unit leaves more than 64 bits. -/
theorem word_le_overflow_mul (hunit : 1 / 1000 ≤ unit) : 2 ^ 64 ≤ overflow * unit :=
  calc (2 : ℚ) ^ 64 = 2 ^ ((64 : ℕ) : ℤ) := (zpow_natCast 2 64).symm
    _ ≤ 2 ^ (1014 : ℤ) := zpow_le_zpow_right₀ one_le_two (by decide)
    _ = overflow * (1 / 2 ^ 10) := by
        rw [overflow, maxExponent, show (1014 : ℤ) = 971 + 53 + -10 by decide, zpow_add₀ two_ne_zero (971 + 53)]
        norm_num
    _ ≤ overflow * unit :=
        mul_le_mul_of_nonneg_left ((by norm_num : (1 : ℚ) / 2 ^ 10 ≤ 1 / 1000).trans hunit) overflow_pos.le

theorem ScalesTo.roundsTo_of_one (hq : ScalesTo 1 q y) (hnonneg : 0 ≤ q) (hle : q ≤ 2 ^ 64) : RoundsTo q y := by
  obtain ⟨x, hx, hy⟩ := hq
  have hreach : x < overflow := (hx.le_word hnonneg hle).trans_lt isRepresentable_word.lt_overflow
  rw [mul_one] at hy
  rwa [← ((hx.isRepresentable hnonneg hreach).roundsTo_self hx.nonneg).unique hy hx.nonneg]

/-! ### The error -/

/-- Where the numbers become sparse. From here on every unit leaves a product with all its binary digits. -/
def sparse : ℚ := 2 ^ (-1000 : ℤ)

theorem sparse_pos : 0 < sparse :=
  two_zpow_pos _

theorem leastNormal_le_sparse : leastNormal ≤ sparse :=
  zpow_le_zpow_right₀ one_le_two (by decide)

theorem sparse_le_one : sparse ≤ 1 :=
  zpow_le_one_of_nonpos₀ one_le_two (by decide)

theorem roundoff_pos : 0 < roundoff :=
  two_zpow_pos _

theorem half_le_one_sub_roundoff : 1 / 2 ≤ 1 - roundoff := by
  norm_num [roundoff]

theorem half_sparse_le (hx : RoundsTo q x) (hsparse : sparse ≤ q) : sparse * (1 / 2) ≤ x := by
  refine le_trans (le_min ?_ ?_) (hx.error (leastNormal_le_sparse.trans hsparse)).1
  · exact mul_le_mul hsparse half_le_one_sub_roundoff (by norm_num) (sparse_pos.le.trans hsparse)
  · linarith [sparse_le_one, word_le_overflow]

theorem leastNormal_le_mul (hx : RoundsTo q x) (hunit : IsUnitFor exact unit) (hsparse : sparse ≤ q) :
    leastNormal ≤ x * unit :=
  calc leastNormal ≤ 2 ^ (-1011 : ℤ) := zpow_le_zpow_right₀ one_le_two (by decide)
    _ = sparse * (1 / 2) * (1 / 2 ^ 10) := by
        rw [sparse, show (-1011 : ℤ) = -1000 + -1 + -10 by decide, zpow_add₀ two_ne_zero, zpow_add₀ two_ne_zero]
        norm_num
    _ ≤ x * (1 / 1000) := mul_le_mul (half_sparse_le hx hsparse) (by norm_num) (by norm_num) hx.nonneg
    _ ≤ x * unit := mul_le_mul_of_nonneg_left (hunit.thousandth_le.trans hunit.le) hx.nonneg

/-- From `sparse` on a product is too small by no more than three roundoffs, or it is `2 ^ 64` at least. -/
theorem ScalesTo.ge (hq : ScalesTo unit q y) (hunit : IsUnitFor exact unit) (hsparse : sparse ≤ q) :
    min (q * exact * (1 - 3 * roundoff)) (2 ^ 64) ≤ y := by
  obtain ⟨x, hx, hy⟩ := hq
  obtain hlt | rfl := hx.le_overflow.lt_or_eq
  · have hge : q * (1 - roundoff) ≤ x :=
      (min_le_iff.1 (hx.error (leastNormal_le_sparse.trans hsparse)).1).resolve_right (not_le.2 hlt)
    refine le_trans (min_le_min ?_ word_le_overflow) (hy.error (leastNormal_le_mul hx hunit hsparse)).1
    have hpos : 0 < q := sparse_pos.trans_le hsparse
    have hexact := hunit.pos
    have hroundoff := roundoff_pos
    have hfactor : 0 ≤ 1 - roundoff := (by norm_num : (0 : ℚ) ≤ 1 / 2).trans half_le_one_sub_roundoff
    calc q * exact * (1 - 3 * roundoff)
        ≤ q * exact * ((1 - roundoff) * (1 - roundoff)) := by
          gcongr
          nlinarith
      _ = q * (1 - roundoff) * exact * (1 - roundoff) := by ring
      _ ≤ x * unit * (1 - roundoff) := by
          have := hunit.le
          have := hx.nonneg
          gcongr
  · exact (min_le_right _ _).trans (hy.word_le (word_le_overflow_mul (hunit.thousandth_le.trans hunit.le)))

/-- From `sparse` on a product is too large by no more than three roundoffs. -/
theorem ScalesTo.le (hq : ScalesTo unit q y) (hunit : IsUnitFor exact unit) (hsparse : sparse ≤ q) :
    y ≤ q * exact * (1 + 3 * roundoff) := by
  obtain ⟨x, hx, hy⟩ := hq
  have hpos : 0 < q := sparse_pos.trans_le hsparse
  have hexact := hunit.pos
  have hroundoff := roundoff_pos
  have hle := (hx.error (leastNormal_le_sparse.trans hsparse)).2
  calc y ≤ x * unit * (1 + roundoff) := (hy.error (leastNormal_le_mul hx hunit hsparse)).2
    _ ≤ q * (1 + roundoff) * (exact * (1 + 2 ^ (-55 : ℤ))) * (1 + roundoff) := by
        have := hunit.near
        have := hexact.le.trans hunit.le
        gcongr
    _ = q * exact * ((1 + roundoff) * (1 + roundoff) * (1 + 2 ^ (-55 : ℤ))) := by ring
    _ ≤ q * exact * (1 + 3 * roundoff) := by
        gcongr
        norm_num [roundoff]

end Binary64

/-! ### The units -/

namespace Suffix

def unit : Suffix → ℚ
  | .none => 1
  | .binary power => 1024 ^ power
  | .decimal power => 1000 ^ power
  | .milli => 1 / 1000

def IsNamed : Suffix → Prop
  | .binary power | .decimal power => power ≤ 6
  | .none | .milli => True

instance : DecidablePred IsNamed
  | .binary power | .decimal power => inferInstanceAs (Decidable (power ≤ 6))
  | .none | .milli => .isTrue trivial

theorem isNamed_of_mem {text : String} {suffix : Suffix} (hmem : (text, suffix) ∈ Quantity.suffixes) :
    suffix.IsNamed :=
  (by decide : ∀ entry ∈ Quantity.suffixes, entry.2.IsNamed) _ hmem

theorem isUnitFor_ofNat {n : ℕ} (hn : IsRepresentable n) (hpos : 1 ≤ n) (hle : n ≤ 2 ^ 60) :
    IsUnitFor n (ofNat n).magnitude := by
  have hone : (1 : ℚ) ≤ n := by exact_mod_cast hpos
  rw [magnitude_ofNat hn]
  exact {
    le := le_rfl
    near := le_mul_of_one_le_right (Nat.cast_nonneg n) (by norm_num)
    thousandth_le := (by norm_num : (1 : ℚ) / 1000 ≤ 1).trans hone
    le_exa := by exact_mod_cast hle }

theorem isRepresentable_binary {power : ℕ} (hpower : power ≤ 6) : IsRepresentable (1024 ^ power : ℕ) := by
  refine ⟨1, (10 * power : ℕ), by decide, by rw [minExponent]; omega, by rw [maxExponent]; omega, ?_⟩
  rw [zpow_natCast, pow_mul]
  norm_num

theorem isRepresentable_decimal {power : ℕ} (hpower : power ≤ 6) : IsRepresentable (1000 ^ power : ℕ) := by
  -- Its twos go to the exponent, and its fives are few enough for a mantissa.
  refine ⟨125 ^ power, (3 * power : ℕ), ?_, by rw [minExponent]; omega, by rw [maxExponent]; omega, ?_⟩
  · calc 125 ^ power ≤ 125 ^ 6 := Nat.pow_le_pow_right (by decide) hpower
      _ < mantissaLimit := by decide
  · rw [zpow_natCast, pow_mul, Nat.cast_pow, Nat.cast_pow, ← mul_pow]
    norm_num

theorem multiplier_milli : multiplier .milli = finite false 0x10624dd2f1a9fc (-62) := by decide

/-- In double precision every unit is exact, or nearly so. -/
theorem isUnitFor_multiplier {suffix : Suffix} (hnamed : suffix.IsNamed) :
    IsUnitFor suffix.unit suffix.multiplier.magnitude := by
  cases suffix with
  | none =>
      have hone : IsRepresentable (1 : ℕ) := ⟨1, 0, by decide, by decide, by decide, by norm_num⟩
      have hunit := isUnitFor_ofNat hone le_rfl (by norm_num)
      rwa [Nat.cast_one] at hunit
  | binary power =>
      have hle : 1024 ^ power ≤ 2 ^ 60 := Nat.pow_le_pow_right (n := 1024) (by decide) hnamed
      have hunit := isUnitFor_ofNat (isRepresentable_binary hnamed) (Nat.one_le_pow _ _ (by decide)) hle
      rwa [Nat.cast_pow] at hunit
  | decimal power =>
      have hle : 1000 ^ power ≤ 2 ^ 60 :=
        (Nat.pow_le_pow_right (n := 1000) (by decide) hnamed).trans (by norm_num)
      have hunit := isUnitFor_ofNat (isRepresentable_decimal hnamed) (Nat.one_le_pow _ _ (by decide)) hle
      rwa [Nat.cast_pow] at hunit
  | milli =>
      rw [multiplier_milli, magnitude, unit]
      constructor <;> norm_num

theorem roundsTo_multiplier (suffix : Suffix) : RoundsTo suffix.unit suffix.multiplier.magnitude := by
  cases suffix with
  | none =>
      have hround := roundsTo_ofNat 1
      rwa [Nat.cast_one] at hround
  | binary power =>
      have hround := roundsTo_ofNat (Nat.pow 1024 power)
      rwa [Nat.pow_eq, Nat.cast_pow, Nat.cast_ofNat] at hround
  | decimal power =>
      have hround := roundsTo_ofNat (Nat.pow 1000 power)
      rwa [Nat.pow_eq, Nat.cast_pow, Nat.cast_ofNat] at hround
  | milli =>
      have hround := roundsTo_ofDecimal 1 (-3)
      have hthousandth : ((1 : ℕ) : ℚ) * 10 ^ (-3 : ℤ) = 1 / 1000 := by norm_num
      rwa [hthousandth] at hround

theorem isNegative_multiplier (suffix : Suffix) : suffix.multiplier.isNegative = false := by
  cases suffix with
  | none => exact isNegative_ofQuotient false 1 1
  | binary power => exact isNegative_ofQuotient false (Nat.pow 1024 power) 1
  | decimal power => exact isNegative_ofQuotient false (Nat.pow 1000 power) 1
  | milli => exact isNegative_ofDecimal 1 (-3)

theorem exists_multiplier_eq_finite {suffix : Suffix} (hnamed : suffix.IsNamed) :
    ∃ negative mantissa exponent, suffix.multiplier = finite negative mantissa exponent := by
  have hunit := isUnitFor_multiplier hnamed
  cases hmultiplier : suffix.multiplier with
  | finite negative mantissa exponent => exact ⟨negative, mantissa, exponent, rfl⟩
  | infinite negative =>
      exfalso
      have hreach : overflow ≤ suffix.unit * (1 + 2 ^ (-55 : ℤ)) := by
        have hnear := hunit.near
        rwa [hmultiplier] at hnear
      have hlarge := word_le_overflow
      have hexa := hunit.le_exa
      norm_num at hreach hlarge hexa
      linarith

end Suffix

/-! ### Amounts -/

namespace Quantity

def Amount.decimal (amount : Amount) : ℚ :=
  Text.digitsValue (amount.integer ++ amount.fraction) / 10 ^ amount.fraction.length

def Amount.value (amount : Amount) : ℚ :=
  amount.decimal * amount.suffix.unit

variable {amount other : Amount}

theorem Amount.decimal_nonneg (amount : Amount) : 0 ≤ amount.decimal :=
  div_nonneg (Nat.cast_nonneg _) (by positivity)

theorem Amount.roundsTo_number (amount : Amount) : RoundsTo amount.decimal amount.number.magnitude := by
  have hround := roundsTo_ofDecimal (Text.digitsValue (amount.integer ++ amount.fraction))
    (-(amount.fraction.length : ℤ))
  rwa [zpow_neg, zpow_natCast, ← div_eq_mul_inv] at hround

theorem maxUnsigned_le : (Text.maxUnsigned : ℚ) ≤ 2 ^ 64 := by
  rw [Text.maxUnsigned, Text.wordSize]
  norm_num

theorem min_maxUnsigned {q : ℚ} (hq : 2 ^ 64 ≤ q) : min ⌈q⌉₊ Text.maxUnsigned = Text.maxUnsigned :=
  min_eq_right (by exact_mod_cast (maxUnsigned_le.trans hq).trans (Nat.le_ceil q))

theorem Amount.bytes_eq (amount : Amount) :
    amount.bytes = min ⌈(amount.number * amount.suffix.multiplier).magnitude⌉₊ Text.maxUnsigned := by
  apply saturate_ceilNat?
  · rw [isNegative_mul, Amount.number, isNegative_ofDecimal, Suffix.isNegative_multiplier]
    rfl
  · exact maxUnsigned_le.trans word_le_overflow

theorem Amount.exists_scalesTo_bytes (hnamed : amount.suffix.IsNamed) :
    ∃ y, ScalesTo amount.suffix.multiplier.magnitude amount.decimal y
      ∧ amount.bytes = min ⌈y⌉₊ Text.maxUnsigned := by
  have hround := amount.roundsTo_number
  have hunit := Suffix.isUnitFor_multiplier hnamed
  have hbytes := amount.bytes_eq
  cases hnumber : amount.number with
  | finite negative mantissa exponent =>
      obtain ⟨sign, unitMantissa, unitExponent, hmultiplier⟩ := Suffix.exists_multiplier_eq_finite hnamed
      rw [hnumber] at hround hbytes
      refine ⟨_, ⟨_, hround, ?_⟩, hbytes⟩
      rw [hmultiplier]
      exact roundsTo_mul negative sign mantissa unitMantissa exponent unitExponent
  | infinite negative =>
      rw [hnumber] at hround hbytes
      -- A number out of reach makes no difference: the product has more than 64 bits in any case.
      have hnonneg := mul_nonneg hround.nonneg (hunit.pos.le.trans hunit.le)
      obtain ⟨y, hy⟩ := exists_roundsTo hnonneg
      have hlarge := hy.word_le (word_le_overflow_mul (hunit.thousandth_le.trans hunit.le))
      have hoverflow : (infinite negative * amount.suffix.multiplier).magnitude = overflow := by
        cases amount.suffix.multiplier <;> rfl
      refine ⟨y, ⟨_, hround, hy⟩, ?_⟩
      rw [hbytes, hoverflow, min_maxUnsigned word_le_overflow, min_maxUnsigned hlarge]

theorem Amount.exists_roundings (hnamed : amount.suffix.IsNamed) :
    ∃ number unit product, RoundsTo amount.decimal number ∧ RoundsTo amount.suffix.unit unit
      ∧ RoundsTo (number * unit) product ∧ amount.bytes = min ⌈product⌉₊ Text.maxUnsigned := by
  obtain ⟨y, ⟨x, hx, hy⟩, hbytes⟩ := Amount.exists_scalesTo_bytes hnamed
  exact ⟨x, _, y, hx, Suffix.roundsTo_multiplier amount.suffix, hy, hbytes⟩

/-- The bytes are exact if the digits and the exact number of bytes are in the format. -/
theorem Amount.bytes_of_exact (hnamed : amount.suffix.IsNamed) (hdecimal : IsRepresentable amount.decimal)
    (hvalue : IsRepresentable amount.value) : amount.bytes = min ⌈amount.value⌉₊ Text.maxUnsigned := by
  obtain ⟨y, hy, hbytes⟩ := Amount.exists_scalesTo_bytes hnamed
  rw [hbytes, hy.eq_of_exact (Suffix.isUnitFor_multiplier hnamed) amount.decimal_nonneg hdecimal hvalue]
  rfl

theorem Amount.bytes_of_zero (hnamed : amount.suffix.IsNamed) (hzero : amount.decimal = 0) : amount.bytes = 0 := by
  obtain ⟨y, ⟨x, hx, hy⟩, hbytes⟩ := Amount.exists_scalesTo_bytes hnamed
  rw [hzero] at hx
  rw [hx.eq_zero, zero_mul] at hy
  rw [hbytes, hy.eq_zero, Nat.ceil_zero]
  exact Nat.zero_min _

/-- Not even the largest unit makes more than one byte of a sparse number. -/
theorem Amount.bytes_le_one (hnamed : amount.suffix.IsNamed) (hsparse : amount.decimal ≤ sparse) :
    amount.bytes ≤ 1 := by
  obtain ⟨y, hy, hbytes⟩ := Amount.exists_scalesTo_bytes hnamed
  have hunit := Suffix.isUnitFor_multiplier hnamed
  have hnonneg := hunit.pos.le.trans hunit.le
  obtain ⟨z, hz⟩ := exists_scalesTo hnonneg sparse_pos.le
  have hlimit : sparse * amount.suffix.unit ≤ 2 ^ (-61 : ℤ) * 2 ^ 60 := by
    have hsmall : sparse ≤ 2 ^ (-61 : ℤ) := zpow_le_zpow_right₀ one_le_two (by decide)
    exact mul_le_mul hsmall hunit.le_exa hunit.pos.le (two_zpow_pos _).le
  have hone : z ≤ 1 :=
    calc z ≤ sparse * amount.suffix.unit * (1 + 3 * roundoff) := hz.le hunit le_rfl
      _ ≤ 2 ^ (-61 : ℤ) * 2 ^ 60 * 2 := by
          have := roundoff_pos
          refine mul_le_mul hlimit ?_ (by linarith) (by norm_num)
          norm_num [roundoff]
      _ = 1 := by norm_num
  rw [hbytes]
  refine (min_le_left _ _).trans (Nat.ceil_le.2 ?_)
  rw [Nat.cast_one]
  exact (hy.mono hz hnonneg amount.decimal_nonneg hsparse).trans hone

/-- The bytes are never too many by more than three roundoffs. -/
theorem Amount.bytes_le (hnamed : amount.suffix.IsNamed) :
    amount.bytes ≤ min ⌈amount.value * (1 + 3 * roundoff)⌉₊ Text.maxUnsigned := by
  have hunit := Suffix.isUnitFor_multiplier hnamed
  have hroundoff := roundoff_pos
  obtain hzero | hpos := amount.decimal_nonneg.eq_or_lt
  · rw [Amount.bytes_of_zero hnamed hzero.symm]
    exact Nat.zero_le _
  have hvalue : 0 < amount.value := mul_pos hpos hunit.pos
  obtain hsmall | hlarge := lt_or_ge amount.decimal sparse
  · refine (Amount.bytes_le_one hnamed hsmall.le).trans (le_min ?_ (by decide))
    exact Nat.one_le_ceil_iff.2 (mul_pos hvalue (by linarith))
  obtain ⟨y, hy, hbytes⟩ := Amount.exists_scalesTo_bytes hnamed
  rw [hbytes]
  exact min_le_min_right _ (Nat.ceil_le_ceil (hy.le hunit hlarge))

/-- The bytes are never too few by more than three roundoffs, unless the number is too small. -/
theorem Amount.le_bytes (hnamed : amount.suffix.IsNamed)
    (hdecimal : amount.decimal = 0 ∨ sparse ≤ amount.decimal) :
    min ⌈amount.value * (1 - 3 * roundoff)⌉₊ Text.maxUnsigned ≤ amount.bytes := by
  obtain hzero | hsparse := hdecimal
  · rw [Amount.value, hzero, zero_mul, zero_mul, Nat.ceil_zero, Nat.zero_min]
    exact Nat.zero_le _
  obtain ⟨y, hy, hbytes⟩ := Amount.exists_scalesTo_bytes hnamed
  rw [hbytes]
  obtain hle | hreach := min_le_iff.1 (hy.ge (Suffix.isUnitFor_multiplier hnamed) hsparse)
  · exact min_le_min_right _ (Nat.ceil_le_ceil hle)
  · rw [min_maxUnsigned hreach]
    exact min_le_right _ _

/-- More of one unit never gives fewer bytes. -/
theorem Amount.bytes_mono (hnamed : amount.suffix.IsNamed) (hsuffix : amount.suffix = other.suffix)
    (hle : amount.value ≤ other.value) : amount.bytes ≤ other.bytes := by
  have hunit := Suffix.isUnitFor_multiplier hnamed
  obtain ⟨y, hy, hbytes⟩ := Amount.exists_scalesTo_bytes hnamed
  obtain ⟨z, hz, hotherBytes⟩ := Amount.exists_scalesTo_bytes (hsuffix ▸ hnamed)
  rw [Amount.value, Amount.value, ← hsuffix] at hle
  rw [← hsuffix] at hz
  have hyz := hy.mono hz (hunit.pos.le.trans hunit.le) amount.decimal_nonneg (le_of_mul_le_mul_right hle hunit.pos)
  rw [hbytes, hotherBytes]
  exact min_le_min_right _ (Nat.ceil_le_ceil hyz)

/-! ### Whole numbers of bytes -/

theorem digitsValue_eq_ofDigitChars {digits : List Char} (hdigits : ∀ c ∈ digits, Text.isDigit c = true) :
    Text.digitsValue digits = Nat.ofDigitChars 10 digits 0 := by
  rw [Nat.ofDigitChars_eq_foldl]
  refine List.foldl_ext _ _ 0 fun value c hc => ?_
  have hdigit := hdigits c hc
  rw [Text.isDigit, Bool.and_eq_true, decide_eq_true_iff, decide_eq_true_iff] at hdigit
  rw [Text.digitValue, if_pos hdigit]
  rfl

theorem isBlank_of_isDigit {c : Char} (hdigit : Text.isDigit c = true) : Text.isBlank c = false := by
  rw [Text.isDigit, Bool.and_eq_true, decide_eq_true_iff, decide_eq_true_iff] at hdigit
  have hlow : 48 ≤ c.toNat := hdigit.1
  have hhigh : c.toNat ≤ 57 := hdigit.2
  simp [Text.isBlank]
  omega

theorem toList_toString (n : ℕ) : (toString n).toList = Nat.toDigits 10 n := by
  rw [Nat.toString_eq_repr, Nat.toList_repr]

theorem isDigit_of_mem_numeral {n : ℕ} {c : Char} (hc : c ∈ (toString n).toList) : Text.isDigit c = true := by
  rw [toList_toString] at hc
  exact Nat.isDigit_of_mem_toDigits (by decide) (by decide) hc

def ofNumeral (n : ℕ) : Amount :=
  ⟨(toString n).toList, [], .none⟩

theorem isNamed_ofNumeral (n : ℕ) : (ofNumeral n).suffix.IsNamed := trivial

theorem isWrittenAs_numeral (n : ℕ) : IsWrittenAs (Text.trim (toString n).toList) (ofNumeral n) := by
  have hdigits (c : Char) (hc : c ∈ (toString n).toList) : Text.isDigit c = true := isDigit_of_mem_numeral hc
  have hvisible (c : Char) (hc : c ∈ (toString n).toList) : Text.isBlank c = false :=
    isBlank_of_isDigit (hdigits c hc)
  have htrim : Text.trim (toString n).toList = (toString n).toList := by
    refine Text.trim_eq_iff.2 ⟨[], [], by simp, by simp, by simp, fun c hc => hvisible c ?_, fun c hc => hvisible c ?_⟩
    · exact List.mem_of_head? hc
    · exact List.mem_of_getLast? hc
  rw [htrim]
  refine ⟨_, [], ⟨(List.append_nil _).symm, fun c hc => ?_, by simp⟩, .whole (List.all_eq_true.2 hdigits) ?_,
    List.mem_cons_self⟩
  · exact isNumberChar_iff.2 (.inl (hdigits c hc))
  · rw [toList_toString]
    exact Nat.toDigits_ne_nil

theorem decimal_ofNumeral (n : ℕ) : (ofNumeral n).decimal = n := by
  have hvalue : Text.digitsValue (toString n).toList = n := by
    rw [digitsValue_eq_ofDigitChars fun _ => isDigit_of_mem_numeral, toList_toString,
      Nat.ofDigitChars_toDigits (by decide) (by decide)]
  rw [Amount.decimal, ofNumeral, List.append_nil, hvalue, List.length_nil, pow_zero, div_one]

theorem value_ofNumeral (n : ℕ) : (ofNumeral n).value = n := by
  rw [Amount.value, decimal_ofNumeral, ofNumeral, Suffix.unit, mul_one]

theorem IsWrittenAs.isNamed {body : List Char} (hwritten : IsWrittenAs body amount) : amount.suffix.IsNamed := by
  obtain ⟨number, rest, -, -, hsuffix⟩ := hwritten
  exact Suffix.isNamed_of_mem hsuffix

theorem IsWrittenAs.parse_eq {text : String} (hwritten : IsWrittenAs (Text.trim text.toList) amount) :
    parse text = .ok amount.bytes :=
  parse_eq_ok_iff.2 ⟨amount, readAmount_eq_ok_iff.2 hwritten, rfl⟩

/-- Every numeral is read as an amount. -/
theorem parse_numeral (n : ℕ) : parse (toString n) = .ok (ofNumeral n).bytes :=
  (isWrittenAs_numeral n).parse_eq

theorem bytes_ofNumeral_of_isRepresentable {n : ℕ} (hn : IsRepresentable n) (hle : n ≤ Text.maxUnsigned) :
    (ofNumeral n).bytes = n := by
  have hbytes := Amount.bytes_of_exact (isNamed_ofNumeral n) (by rwa [decimal_ofNumeral])
    (by rwa [value_ofNumeral])
  rwa [value_ofNumeral, Nat.ceil_natCast, min_eq_left hle] at hbytes

theorem isRepresentable_of_bytes_ofNumeral {n : ℕ} (hbytes : (ofNumeral n).bytes = n) (hlt : n < Text.maxUnsigned) :
    IsRepresentable n := by
  obtain hsmall | hlarge := le_or_gt n (2 ^ 53)
  · exact isRepresentable_natCast hsmall
  obtain ⟨y, hy, hrounded⟩ := Amount.exists_scalesTo_bytes (isNamed_ofNumeral n)
  have hunit : (ofNumeral n).suffix.multiplier.magnitude = 1 := by
    have hone := magnitude_ofNat (isRepresentable_natCast (Nat.one_le_two_pow (n := 53)))
    rwa [Nat.cast_one] at hone
  rw [hunit, decimal_ofNumeral] at hy
  have hword : (n : ℚ) ≤ 2 ^ 64 := (Nat.cast_le.2 hlt.le).trans maxUnsigned_le
  have hround := hy.roundsTo_of_one (Nat.cast_nonneg n) hword
  -- The rounded number is whole, so rounding it up adds nothing: it is the number itself.
  have hceil : ⌈y⌉₊ = n := by omega
  have hreach : y < overflow := (hround.le_word (Nat.cast_nonneg n) hword).trans_lt isRepresentable_word.lt_overflow
  have hquarter : (2 : ℚ) ^ 52 ≤ n := by exact_mod_cast (Nat.pow_le_pow_right two_pos (by decide)).trans hlarge.le
  obtain ⟨m, rfl⟩ := hround.exists_natCast hquarter hreach
  rw [Nat.ceil_natCast] at hceil
  rw [← hceil]
  exact hround.isRepresentable (Nat.cast_nonneg n) hreach

/-- A numeral is read back as it is exactly if it is in the format, or the greatest of all. -/
theorem parse_numeral_eq_ok_iff {n : ℕ} (hle : n ≤ Text.maxUnsigned) :
    parse (toString n) = .ok n ↔ IsRepresentable n ∨ n = Text.maxUnsigned := by
  rw [parse_numeral, Except.ok.injEq]
  constructor
  · intro hbytes
    obtain hlt | heq := hle.lt_or_eq
    · exact .inl (isRepresentable_of_bytes_ofNumeral hbytes hlt)
    · exact .inr heq
  · rintro (hn | rfl)
    · exact bytes_ofNumeral_of_isRepresentable hn hle
    · decide +kernel

/-- **What the bytes say about the value.** They are the product of the number and the unit, all three rounded to double
precision, then rounded up and cut to 64 bits. This is the value rounded up where double precision holds both the
number and the value. Elsewhere the product is at most three roundoffs away from it; only a number below `sparse` may
lose more, and then it is less than a byte. Within one suffix the order of the values is kept. -/
theorem bytes_follow_value (text : String) :
    ((∃ bytes, parse text = .ok bytes) ↔ ∃ amount, IsWrittenAs (Text.trim text.toList) amount)
    ∧ (∀ amount, IsWrittenAs (Text.trim text.toList) amount →
      ∃ bytes, parse text = .ok bytes
      ∧ (∃ number unit product, RoundsTo amount.decimal number ∧ RoundsTo amount.suffix.unit unit
        ∧ RoundsTo (number * unit) product ∧ bytes = min ⌈product⌉₊ Text.maxUnsigned)
      ∧ (IsRepresentable amount.decimal → IsRepresentable amount.value →
        bytes = min ⌈amount.value⌉₊ Text.maxUnsigned)
      ∧ bytes ≤ min ⌈amount.value * (1 + 3 * roundoff)⌉₊ Text.maxUnsigned
      ∧ (amount.decimal = 0 ∨ sparse ≤ amount.decimal →
        min ⌈amount.value * (1 - 3 * roundoff)⌉₊ Text.maxUnsigned ≤ bytes)
      ∧ ∀ (otherText : String) (other : Amount), IsWrittenAs (Text.trim otherText.toList) other →
        amount.suffix = other.suffix → amount.value ≤ other.value →
        ∃ otherBytes, parse otherText = .ok otherBytes ∧ bytes ≤ otherBytes)
    ∧ (∀ n ≤ Text.maxUnsigned, parse (toString n) = .ok n ↔ IsRepresentable n ∨ n = Text.maxUnsigned)
    ∧ ∀ n ≤ 2 ^ 53, parse (toString n) = .ok n := by
  refine ⟨?_, fun amount hwritten => ⟨_, hwritten.parse_eq, ?_⟩, fun n => parse_numeral_eq_ok_iff, fun n hn => ?_⟩
  · rw [exists_parse_iff]
    exact exists_congr fun amount => readAmount_eq_ok_iff
  · have hnamed := hwritten.isNamed
    refine ⟨Amount.exists_roundings hnamed, Amount.bytes_of_exact hnamed, Amount.bytes_le hnamed,
      Amount.le_bytes hnamed, ?_⟩
    intro otherText other hother hsuffix hle
    exact ⟨_, hother.parse_eq, Amount.bytes_mono hnamed hsuffix hle⟩
  · have hword : n ≤ Text.maxUnsigned := hn.trans (by decide)
    exact (parse_numeral_eq_ok_iff hword).2 (.inl (isRepresentable_natCast hn))

/-- One and a half gibibytes, then two; a whole number of bytes, and the largest one. -/
theorem bytes_of_gibibytes :
    (∃ bytes, parse " 1.5Gi " = .ok bytes ∧ bytes = 1610612736
      ∧ min ⌈(1610612736 : ℚ) * (1 - 3 * roundoff)⌉₊ Text.maxUnsigned ≤ bytes
      ∧ ∃ otherBytes, parse "2Gi" = .ok otherBytes ∧ bytes ≤ otherBytes)
    ∧ parse "4096" = .ok 4096
    ∧ parse "18446744073709551615" = .ok 18446744073709551615 := by
  obtain ⟨-, hvalue, hnumeral, hsmall⟩ := bytes_follow_value " 1.5Gi "
  refine ⟨?_, hsmall 4096 (by decide), (hnumeral Text.maxUnsigned le_rfl).2 (.inr rfl)⟩
  have hwritten : IsWrittenAs (Text.trim " 1.5Gi ".toList) ⟨['1'], ['5'], .binary 3⟩ :=
    readAmount_eq_ok_iff.1 (by decide +kernel)
  have hother : IsWrittenAs (Text.trim "2Gi".toList) ⟨['2'], [], .binary 3⟩ :=
    readAmount_eq_ok_iff.1 (by decide +kernel)
  obtain ⟨bytes, hbytes, -, hexact, -, hlower, hmono⟩ := hvalue _ hwritten
  have hdecimal : (⟨['1'], ['5'], .binary 3⟩ : Amount).decimal = 3 / 2 := by
    have hdigits : Text.digitsValue ['1', '5'] = 15 := by decide
    norm_num [Amount.decimal, hdigits]
  have hgibibytes : (⟨['1'], ['5'], .binary 3⟩ : Amount).value = (1610612736 : ℕ) := by
    rw [Amount.value, hdecimal]
    norm_num [Suffix.unit]
  rw [hdecimal, hgibibytes] at hexact hlower
  have hsparse := sparse_le_one
  refine ⟨bytes, hbytes, ?_, by exact_mod_cast hlower (.inr (by linarith)), ?_⟩
  · have hhalves : IsRepresentable (3 / 2) := ⟨3, -1, by decide, by decide, by decide, by norm_num⟩
    have hceil := hexact hhalves (isRepresentable_natCast (by decide))
    rw [Nat.ceil_natCast] at hceil
    rw [hceil]
    decide
  · refine hmono _ _ hother rfl ?_
    have hdigits : Text.digitsValue ['2'] = 2 := by decide
    rw [hgibibytes]
    norm_num [Amount.value, Amount.decimal, Suffix.unit, hdigits]

/-- The value is not always what is counted: the first amount is one byte too large, and larger than an equal one;
the second is too small; and a whole number of bytes does not come back. -/
theorem bytes_are_not_values :
    (∃ amount, IsWrittenAs (Text.trim "16.1k".toList) amount ∧ amount.value = 16100
      ∧ parse "16.1k" = .ok 16101 ∧ parse "16100" = .ok 16100)
    ∧ (∃ amount, IsWrittenAs (Text.trim "2.3E".toList) amount ∧ amount.value = 2300000000000000000
      ∧ parse "2.3E" = .ok 2299999999999999744)
    ∧ ¬ ∀ n ≤ Text.maxUnsigned, parse (toString n) = .ok n := by
  refine ⟨⟨⟨['1', '6'], ['1'], .decimal 1⟩, readAmount_eq_ok_iff.1 (by decide +kernel), ?_, by decide +kernel,
    by decide +kernel⟩, ⟨⟨['2'], ['3'], .decimal 6⟩, readAmount_eq_ok_iff.1 (by decide +kernel), ?_,
    by decide +kernel⟩, ?_⟩
  · have hdigits : Text.digitsValue ['1', '6', '1'] = 161 := by decide
    norm_num [Amount.value, Amount.decimal, Suffix.unit, hdigits]
  · have hdigits : Text.digitsValue ['2', '3'] = 23 := by decide
    norm_num [Amount.value, Amount.decimal, Suffix.unit, hdigits]
  · intro hall
    have heven : parse (toString 9007199254740993) = .ok 9007199254740992 := by decide +kernel
    rw [hall _ (by decide)] at heven
    cases heven

end Quantity

end OrphanWatch