import InterpreterHost.Binary64
import Mathlib.Algebra.Order.Field.Power
import Mathlib.Data.Rat.Cast.Order
import Mathlib.Tactic.FieldSimp
import Mathlib.Tactic.Linarith
import Mathlib.Tactic.Positivity
import Mathlib.Tactic.Ring

/-!
# Rounding to doubles

The double nearest to a ratio depends on the ratio alone, not on its numerator and its denominator,
and the exact value of a finite double is rounded to that double.

## Main definitions

* `Binary64.InBinade` — the exponent of the doubles around a number
* `Binary64.absolute` — the absolute value of a finite double

## Main statements

* `Binary64.inBinade_binadeOf`, `Binary64.InBinade.unique` — every positive number is in one binade
* `Binary64.magnitudeOfRatio_congr` — rounding depends on the ratio alone
* `Binary64.ofRatio_of_absolute` — a finite double is the rounding of its value
* `Binary64.isFinite_ofInt` — a word is rounded to a finite double
* `Binary64.magnitude_ofDecimal_le` — a decimal is never rounded to NaN
-/

namespace InterpreterHost.Binary64

/-! ## Quotients -/

theorem roundHalfEven_mul (n d : Nat) {c : Nat} (hc : 0 < c) :
    roundHalfEven (n * c) (d * c) = roundHalfEven n d := by
  have double : 2 * (n % d * c) = 2 * (n % d) * c := by rw [Nat.mul_assoc]
  simp only [roundHalfEven, Nat.mul_div_mul_right _ _ hc, Nat.mul_mod_mul_right, double,
    Nat.mul_lt_mul_right hc]

/-- Only the ratio matters. -/
theorem roundHalfEven_congr {n d n' d' : Nat} (hd : 0 < d) (hd' : 0 < d') (same : n * d' = n' * d) :
    roundHalfEven n d = roundHalfEven n' d' := by
  calc roundHalfEven n d = roundHalfEven (n * d') (d * d') := (roundHalfEven_mul n d hd').symm
    _ = roundHalfEven (n' * d) (d' * d) := by rw [same, Nat.mul_comm d d']
    _ = roundHalfEven n' d' := roundHalfEven_mul n' d' hd

theorem roundHalfEven_one (n : Nat) : roundHalfEven n 1 = n := by
  simp [roundHalfEven, Nat.mod_one]

theorem roundHalfEven_le (n d : Nat) : roundHalfEven n d ≤ n / d + 1 := by
  simp only [roundHalfEven]
  split
  · omega
  · split <;> omega

/-! ## Powers of the base -/

theorem scaleDown_pos {base : Nat} (hb : 0 < base) (num : Nat) {den : Nat} (hd : den ≠ 0) (e : Int) :
    0 < (scaleDown base num den e).2 := by
  unfold scaleDown
  split
  · exact Nat.mul_pos (Nat.pos_of_ne_zero hd) (Nat.pow_pos hb)
  · exact Nat.pos_of_ne_zero hd

/-- The ratio is divided by the power. -/
theorem scaleDown_ratio {base : Nat} (hb : 0 < base) (num den : Nat) (e : Int) :
    ((scaleDown base num den e).1 : ℚ) / (scaleDown base num den e).2 = num / den / (base : ℚ) ^ e := by
  have hb' : (base : ℚ) ≠ 0 := by positivity
  unfold scaleDown
  split
  · next positive =>
    obtain ⟨k, rfl⟩ := Int.eq_ofNat_of_zero_le positive
    simp only [Int.toNat_natCast, Nat.pow_eq, Nat.cast_mul, Nat.cast_pow, zpow_natCast]
    rw [div_div]
  · next negative =>
    obtain ⟨k, hk⟩ := Int.eq_ofNat_of_zero_le (show 0 ≤ -e by omega)
    obtain rfl : e = -(k : Int) := by omega
    simp only [neg_neg, Int.toNat_natCast, Nat.pow_eq, Nat.cast_mul, Nat.cast_pow, zpow_neg,
      zpow_natCast]
    rw [div_inv_eq_mul, div_mul_eq_mul_div]

/-! ## Binades -/

/-- The exponent of the doubles around a positive number: it has a significand of 53 bits, or fewer at
the least exponent. -/
structure InBinade (x : ℚ) (e : Int) : Prop where
  least : -1074 ≤ e
  below : x < 2 ^ (e + 53)
  above : e = -1074 ∨ 2 ^ (e + 52) ≤ x

theorem InBinade.le {x : ℚ} {e e' : Int} (h : InBinade x e) (h' : InBinade x e') : e ≤ e' := by
  rcases h.above with least | above
  · rw [least]
    exact h'.least
  · have powers : (2 : ℚ) ^ (e + 52) < 2 ^ (e' + 53) := lt_of_le_of_lt above h'.below
    have exponents := (zpow_lt_zpow_iff_right₀ (by norm_num : (1 : ℚ) < 2)).1 powers
    omega

theorem InBinade.unique {x : ℚ} {e e' : Int} (h : InBinade x e) (h' : InBinade x e') : e = e' :=
  Int.le_antisymm (h.le h') (h'.le h)

/-- A ratio lies between the powers of two that the lengths of its parts give. -/
theorem log2_bounds {num den : Nat} (hn : num ≠ 0) (hd : den ≠ 0) :
    (2 : ℚ) ^ ((num.log2 : Int) - den.log2 - 1) ≤ num / den ∧
      (num / den : ℚ) < 2 ^ ((num.log2 : Int) - den.log2 + 1) := by
  have two : (2 : ℚ) ≠ 0 := by norm_num
  have low : (2 : ℚ) ^ num.log2 ≤ num := by exact_mod_cast Nat.log2_self_le hn
  have high : (num : ℚ) < 2 ^ (num.log2 + 1) := by exact_mod_cast Nat.lt_log2_self
  have low' : (2 : ℚ) ^ den.log2 ≤ den := by exact_mod_cast Nat.log2_self_le hd
  have high' : (den : ℚ) < 2 ^ (den.log2 + 1) := by exact_mod_cast Nat.lt_log2_self
  have hd' : (0 : ℚ) < den := by positivity
  constructor
  · rw [le_div_iff₀ hd']
    calc (2 : ℚ) ^ ((num.log2 : Int) - den.log2 - 1) * den
        ≤ 2 ^ ((num.log2 : Int) - den.log2 - 1) * 2 ^ (den.log2 + 1) := by gcongr
      _ = 2 ^ num.log2 := by
        rw [← zpow_natCast, ← zpow_add₀ two, ← zpow_natCast]
        congr 1
        push_cast
        ring
      _ ≤ num := low
  · rw [div_lt_iff₀ hd']
    calc (num : ℚ) < 2 ^ (num.log2 + 1) := high
      _ = 2 ^ ((num.log2 : Int) - den.log2 + 1) * 2 ^ den.log2 := by
        rw [← zpow_natCast, ← zpow_natCast, ← zpow_add₀ two]
        congr 1
        push_cast
        ring
      _ ≤ 2 ^ ((num.log2 : Int) - den.log2 + 1) * den := by gcongr

/-- The exponent that is found is that of the binade. -/
theorem inBinade_binadeOf {num den : Nat} (hn : num ≠ 0) (hd : den ≠ 0) :
    InBinade (num / den) (binadeOf num den) := by
  obtain ⟨low, high⟩ := log2_bounds hn hd
  obtain ⟨e, start⟩ : ∃ e, max (-1074) ((num.log2 : Int) - den.log2 - 53) = e := ⟨_, rfl⟩
  have positive := scaleDown_pos Nat.two_pos num hd e
  -- Whether the significand is too long shows in whether the ratio reaches the next binade.
  have long : 2 * binadeSize ≤ (scaleDown 2 num den e).1 / (scaleDown 2 num den e).2 ↔
      (2 : ℚ) ^ (e + 53) ≤ num / den := by
    have ratio := scaleDown_ratio Nat.two_pos num den e
    have power : (0 : ℚ) < 2 ^ e := by positivity
    have size : (2 : ℚ) ^ (53 : Int) = (2 * binadeSize : Nat) := by norm_num [binadeSize]
    rw [Nat.cast_ofNat] at ratio
    rw [Nat.le_div_iff_mul_le positive, zpow_add₀ (by norm_num : (2 : ℚ) ≠ 0), mul_comm ((2 : ℚ) ^ e),
      ← le_div_iff₀ power, ← ratio, le_div_iff₀ (by exact_mod_cast positive), size]
    exact_mod_cast Iff.rfl
  have mono {a b : Int} (h : a ≤ b) : (2 : ℚ) ^ a ≤ 2 ^ b := zpow_le_zpow_right₀ (by norm_num) h
  unfold binadeOf
  simp only [start, long]
  split
  · next reached =>
    refine ⟨by omega, lt_of_lt_of_le high (mono (by omega)), .inr ?_⟩
    rwa [add_assoc]
  · next short =>
    refine ⟨by omega, not_le.1 short, ?_⟩
    by_cases least : e = -1074
    · exact .inl least
    · exact .inr (le_trans (mono (by omega)) low)

/-! ## Rounding -/

/-- What a ratio is rounded to if its binade is known. -/
theorem magnitudeOfRatio_eq {num den : Nat} (hn : num ≠ 0) (hd : den ≠ 0) {e : Int}
    (binade : InBinade (num / den) e) :
    magnitudeOfRatio num den = min infiniteMagnitude ((e + 1074).toNat * binadeSize +
      roundHalfEven (scaleDown 2 num den e).1 (scaleDown 2 num den e).2) := by
  have found := (inBinade_binadeOf hn hd).unique binade
  rw [magnitudeOfRatio, if_neg (by simp [hn, hd]), found]

/-- A significand has 53 bits at most before it is rounded. -/
theorem scaleDown_div_lt {num den : Nat} (hd : den ≠ 0) {e : Int} (binade : InBinade (num / den) e) :
    (scaleDown 2 num den e).1 / (scaleDown 2 num den e).2 < 2 ^ 53 := by
  have positive := scaleDown_pos Nat.two_pos num hd e
  have ratio := scaleDown_ratio Nat.two_pos num den e
  have power : (0 : ℚ) < 2 ^ e := by positivity
  have below := binade.below
  rw [Nat.cast_ofNat] at ratio
  rw [zpow_add₀ (by norm_num : (2 : ℚ) ≠ 0), mul_comm, ← div_lt_iff₀ power, ← ratio,
    div_lt_iff₀ (by exact_mod_cast positive)] at below
  exact (Nat.div_lt_iff_lt_mul positive).2 (by exact_mod_cast below)

/-- Rounding depends on the ratio alone. -/
theorem magnitudeOfRatio_congr {num den num' den' : Nat} (hd : den ≠ 0) (hd' : den' ≠ 0)
    (same : (num : ℚ) / den = num' / den') : magnitudeOfRatio num den = magnitudeOfRatio num' den' := by
  by_cases hn : num = 0
  · have hn' : num' = 0 := by
      rw [hn, Nat.cast_zero, zero_div, eq_comm, div_eq_zero_iff] at same
      simpa [hd'] using same
    simp [magnitudeOfRatio, hn, hn']
  · have hn' : num' ≠ 0 := by
      rintro rfl
      rw [Nat.cast_zero, zero_div, div_eq_zero_iff] at same
      simp [hn, hd] at same
    have binade := inBinade_binadeOf hn' hd'
    obtain ⟨e, equal⟩ : ∃ e, binadeOf num' den' = e := ⟨_, rfl⟩
    rw [equal] at binade
    rw [magnitudeOfRatio_eq hn' hd' binade, magnitudeOfRatio_eq hn hd (same ▸ binade)]
    have positive := scaleDown_pos Nat.two_pos num hd e
    have positive' := scaleDown_pos Nat.two_pos num' hd' e
    have ratio := scaleDown_ratio Nat.two_pos num den e
    have ratio' := scaleDown_ratio Nat.two_pos num' den' e
    rw [same, ← ratio', div_eq_div_iff (by exact_mod_cast positive.ne') (by exact_mod_cast positive'.ne')]
      at ratio
    rw [roundHalfEven_congr positive positive' (by exact_mod_cast ratio)]

/-! ## The value of a double -/

/-- The absolute value of a finite double. -/
def absolute (b : Binary64) : ℚ := b.significand * 2 ^ b.exponent

theorem ratio_pos (b : Binary64) : b.ratio.2 ≠ 0 := by
  unfold ratio
  split
  · exact Nat.one_ne_zero
  · exact (Nat.pow_pos Nat.two_pos).ne'

theorem ratio_eq_absolute (b : Binary64) : (b.ratio.1 : ℚ) / b.ratio.2 = b.absolute := by
  unfold ratio absolute
  split
  · next positive =>
    obtain ⟨k, hk⟩ := Int.eq_ofNat_of_zero_le positive
    rw [hk]
    simp only [Int.toNat_natCast, Nat.pow_eq, Nat.cast_mul, Nat.cast_pow, Nat.cast_ofNat, zpow_natCast,
      Nat.cast_one, div_one]
  · next negative =>
    obtain ⟨k, hk⟩ := Int.eq_ofNat_of_zero_le (show 0 ≤ -b.exponent by omega)
    have hk' : b.exponent = -(k : Int) := by omega
    rw [hk']
    simp only [neg_neg, Int.toNat_natCast, Nat.pow_eq, Nat.cast_pow, Nat.cast_ofNat, zpow_neg,
      zpow_natCast]
    rw [div_eq_mul_inv]

/-- The magnitude of a double is made up of its exponent and its significand. -/
theorem magnitude_eq (b : Binary64) :
    b.magnitude = (b.exponent + 1074).toNat * binadeSize + b.significand := by
  have split := Nat.div_add_mod b.magnitude binadeSize
  unfold exponent significand
  dsimp only
  generalize b.magnitude / binadeSize = field at split ⊢
  split_ifs with least
  · rw [least] at split
    simpa using split.symm
  · have whole : (Int.ofNat field - 1075 + 1074).toNat = field - 1 := by
      simp only [Int.ofNat_eq_natCast]
      omega
    rw [whole, ← split]
    simp only [binadeSize]
    omega

theorem significand_bounds (b : Binary64) :
    -1074 ≤ b.exponent ∧ b.significand < 2 ^ 53 ∧ (b.exponent = -1074 ∨ 2 ^ 52 ≤ b.significand) := by
  have fraction : b.magnitude % binadeSize < binadeSize := Nat.mod_lt _ (by decide)
  unfold exponent significand
  dsimp only
  generalize b.magnitude / binadeSize = field at *
  generalize b.magnitude % binadeSize = fraction at *
  simp only [binadeSize] at *
  split_ifs with least
  · omega
  · simp only [Int.ofNat_eq_natCast]
    omega

theorem inBinade_absolute (b : Binary64) : InBinade b.absolute b.exponent := by
  obtain ⟨least, high, low⟩ := b.significand_bounds
  have power : (0 : ℚ) < 2 ^ b.exponent := by positivity
  have two : (2 : ℚ) ≠ 0 := by norm_num
  refine ⟨least, ?_, low.imp_right fun low => ?_⟩
  · rw [absolute, zpow_add₀ two, mul_comm]
    have high' : (b.significand : ℚ) < 2 ^ (53 : Int) := by exact_mod_cast high
    gcongr
  · rw [absolute, zpow_add₀ two, mul_comm]
    have low' : (2 : ℚ) ^ (52 : Int) ≤ b.significand := by exact_mod_cast low
    gcongr

/-- The value of a double is rounded to its magnitude. -/
theorem magnitudeOfRatio_of_absolute {b : Binary64} (finite : b.isFinite) {num den : Nat} (hd : den ≠ 0)
    (value : (num : ℚ) / den = b.absolute) : magnitudeOfRatio num den = b.magnitude := by
  have binade := b.inBinade_absolute
  have below : b.magnitude < infiniteMagnitude := by simpa [isFinite] using finite
  have whole := b.magnitude_eq
  by_cases hn : num = 0
  · -- Only zero has the value zero.
    have zero : b.significand = 0 := by
      have power : (2 : ℚ) ^ b.exponent ≠ 0 := by positivity
      rw [hn, Nat.cast_zero, zero_div, absolute, eq_comm, mul_eq_zero] at value
      exact_mod_cast value.resolve_right power
    have least := b.significand_bounds.2.2.resolve_right (by rw [zero]; norm_num)
    rw [least, zero] at whole
    simp [magnitudeOfRatio, hn, whole]
  · have positive := scaleDown_pos Nat.two_pos num hd b.exponent
    have ratio := scaleDown_ratio Nat.two_pos num den b.exponent
    have power : (2 : ℚ) ^ b.exponent ≠ 0 := by positivity
    rw [value, absolute, Nat.cast_ofNat, mul_div_assoc, div_self power, mul_one,
      div_eq_iff (by exact_mod_cast positive.ne')] at ratio
    have same : (scaleDown 2 num den b.exponent).1 * 1 =
        b.significand * (scaleDown 2 num den b.exponent).2 := by
      rw [Nat.mul_one]
      exact_mod_cast ratio
    have exact : roundHalfEven (scaleDown 2 num den b.exponent).1 (scaleDown 2 num den b.exponent).2 =
        b.significand := by
      rw [roundHalfEven_congr positive Nat.one_pos same, roundHalfEven_one]
    rw [magnitudeOfRatio_eq hn hd (value ▸ binade), exact, ← whole, Nat.min_eq_right below.le]

/-! ## Words -/

theorem magnitude_pack (negative : Bool) {m : Nat} (small : m < signBit) :
    (pack negative m).magnitude = m := by
  have word : m + (if negative then signBit else 0) < 2 ^ 64 := by
    simp only [signBit] at *
    split <;> omega
  rw [magnitude, pack, UInt64.toNat_ofNat', Nat.mod_eq_of_lt word]
  simp only [signBit] at *
  split <;> omega

/-- A double is made up of its sign and its magnitude. -/
theorem pack_magnitude (b : Binary64) : pack b.isNegative b.magnitude = b := by
  have word := b.bits.toNat_lt
  obtain ⟨bits⟩ := b
  rw [pack, Binary64.mk.injEq, ← UInt64.toNat_inj, UInt64.toNat_ofNat']
  simp only [magnitude, isNegative, signBit] at *
  by_cases negative : 9223372036854775808 ≤ bits.toNat
  · simp only [negative, decide_true, if_true]
    omega
  · simp only [negative, decide_false, Bool.false_eq_true, if_false]
    omega

/-- A finite double is the rounding of its value. -/
theorem ofRatio_of_absolute {b : Binary64} (finite : b.isFinite) {num den : Nat} (hd : den ≠ 0)
    (value : (num : ℚ) / den = b.absolute) : ofRatio b.isNegative num den = b := by
  rw [ofRatio, magnitudeOfRatio_of_absolute finite hd value, pack_magnitude]

/-- An integer that fits a word, with or without a sign, is rounded to a finite double. -/
theorem isFinite_ofInt {i : Int} (word : i.natAbs < 2 ^ 64) : (ofInt i).isFinite := by
  have bound : magnitudeOfRatio i.natAbs 1 < infiniteMagnitude := by
    by_cases hn : i.natAbs = 0
    · simp [magnitudeOfRatio, hn, infiniteMagnitude, binadeSize]
    · have binade := inBinade_binadeOf hn Nat.one_ne_zero
      obtain ⟨e, equal⟩ : ∃ e, binadeOf i.natAbs 1 = e := ⟨_, rfl⟩
      rw [equal] at binade
      have exponent : e ≤ 11 := by
        rcases binade.above with least | above
        · omega
        · have power : (i.natAbs : ℚ) / (1 : Nat) < 2 ^ (64 : Int) := by
            rw [Nat.cast_one, div_one]
            exact_mod_cast word
          have powers := (zpow_lt_zpow_iff_right₀ (by norm_num : (1 : ℚ) < 2)).1 (lt_of_le_of_lt above power)
          omega
      have quotient := scaleDown_div_lt Nat.one_ne_zero binade
      have rounded := roundHalfEven_le (scaleDown 2 i.natAbs 1 e).1 (scaleDown 2 i.natAbs 1 e).2
      rw [magnitudeOfRatio_eq hn Nat.one_ne_zero binade]
      simp only [infiniteMagnitude, binadeSize]
      omega
  have small : magnitudeOfRatio i.natAbs 1 < signBit := lt_trans bound (by decide)
  rw [ofInt, ofRatio, isFinite, magnitude_pack _ small]
  simpa using bound

/-- A decimal is never rounded to NaN. -/
theorem magnitude_ofDecimal_le (negative : Bool) (d : Nat) (e : Int) :
    (ofDecimal negative d e).magnitude ≤ infiniteMagnitude := by
  have word : infiniteMagnitude < signBit := by decide
  have ratio (num den : Nat) : (ofRatio negative num den).magnitude ≤ infiniteMagnitude := by
    have bound : magnitudeOfRatio num den ≤ infiniteMagnitude := by
      unfold magnitudeOfRatio
      split
      · exact Nat.zero_le _
      · exact Nat.min_le_left ..
    rw [ofRatio, magnitude_pack _ (Nat.lt_of_le_of_lt bound word)]
    exact bound
  unfold ofDecimal
  dsimp only
  split
  · rw [magnitude_pack _ (by decide)]
    exact Nat.zero_le _
  · split
    · rw [magnitude_pack _ word]
    · split <;> exact ratio ..

theorem isFinite_zero (negative : Bool) : (pack negative 0).isFinite := by
  rw [isFinite, magnitude_pack _ (by decide)]
  rfl

end InterpreterHost.Binary64
