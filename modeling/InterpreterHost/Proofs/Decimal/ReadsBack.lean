import InterpreterHost.Decimal.Shortest
import InterpreterHost.Proofs.Binary64.Rounding

/-!
# Decimals that read back

The double of a decimal depends on its value alone, so that zeros may be moved between its digits and
its exponent, and the short decimal of a finite double is read as that double.

## Main statements

* `Binary64.ofDecimal_mul_pow` — zeros at the end of the digits
* `Binary64.ofDecimal_shortest` — the short decimal reads back
* `Binary64.point_of_ofDecimal` — where the point stands in a decimal of a double

## Design notes

`Binary64.shortest` tries decimals until one reads back, and falls back on the exact value.  That
seventeen digits always suffice is not shown here and not needed: the exact value reads back as well.
-/

namespace InterpreterHost.Binary64

/-! ## How many digits -/

theorem decimalLength_pos {n : Nat} (hn : n ≠ 0) : 0 < decimalLength n := by
  rw [decimalLength, if_neg hn]
  exact Nat.length_toDigits_pos

theorem decimalLength_le_iff {n k : Nat} (hk : 0 < k) : decimalLength n ≤ k ↔ n < 10 ^ k := by
  unfold decimalLength
  split
  · next zero => simp [zero]
  · exact Nat.length_toDigits_le_iff (by decide) hk

theorem decimalLength_mul_ten {n : Nat} (hn : n ≠ 0) : decimalLength (n * 10) = decimalLength n + 1 := by
  have appended := Nat.toDigits_append_toDigits (b := 10) (d := 0) (by decide) (Nat.pos_of_ne_zero hn)
    (by decide)
  have hn' : n * 10 ≠ 0 := by omega
  rw [decimalLength, decimalLength, if_neg hn, if_neg hn', Nat.mul_comm, ← Nat.add_zero (10 * n),
    ← appended, List.length_append]
  rfl

theorem decimalLength_mul_pow {n : Nat} (hn : n ≠ 0) (k : Nat) :
    decimalLength (n * 10 ^ k) = decimalLength n + k := by
  induction k with
  | zero => simp
  | succ k ih =>
    have power : n * 10 ^ k ≠ 0 := Nat.mul_ne_zero hn (Nat.pow_pos (by decide)).ne'
    rw [Nat.pow_succ, ← Nat.mul_assoc, decimalLength_mul_ten power, ih, Nat.add_assoc]

/-- The place of the point tells the size of a decimal. -/
theorem decimal_bounds {d : Nat} (hd : d ≠ 0) (e : Int) :
    (10 : ℚ) ^ ((decimalLength d : Int) + e - 1) ≤ d * 10 ^ e ∧
      (d * 10 ^ e : ℚ) < 10 ^ ((decimalLength d : Int) + e) := by
  have ten : (10 : ℚ) ≠ 0 := by norm_num
  have positive := decimalLength_pos hd
  obtain ⟨k, length⟩ : ∃ k, decimalLength d = k + 1 := ⟨decimalLength d - 1, by omega⟩
  have high : d < 10 ^ (k + 1) := (decimalLength_le_iff (by omega)).1 length.le
  have low : 10 ^ k ≤ d := by
    by_cases zero : k = 0
    · rw [zero]
      exact Nat.pos_of_ne_zero hd
    · by_contra below
      have shorter := (decimalLength_le_iff (Nat.pos_of_ne_zero zero)).2 (Nat.lt_of_not_le below)
      omega
  have power : (0 : ℚ) < 10 ^ e := by positivity
  rw [length]
  constructor
  · have low' : (10 : ℚ) ^ (k : Int) ≤ d := by exact_mod_cast low
    rw [show ((k + 1 : Nat) : Int) + e - 1 = k + e by push_cast; ring, zpow_add₀ ten]
    gcongr
  · have high' : (d : ℚ) < 10 ^ ((k + 1 : Nat) : Int) := by exact_mod_cast high
    rw [zpow_add₀ ten]
    gcongr

/-! ## The double of a decimal -/

theorem ofRatio_congr {negative : Bool} {num den num' den' : Nat} (hd : den ≠ 0) (hd' : den' ≠ 0)
    (same : (num : ℚ) / den = num' / den') : ofRatio negative num den = ofRatio negative num' den' := by
  rw [ofRatio, ofRatio, magnitudeOfRatio_congr hd hd' same]

/-- Within the range of doubles a decimal is rounded from its value. -/
theorem ofDecimal_eq_ofRatio {negative : Bool} {d : Nat} {e : Int} (hd : d ≠ 0)
    (low : -330 ≤ (decimalLength d : Int) + e) (high : (decimalLength d : Int) + e ≤ 330) {num den : Nat}
    (hden : den ≠ 0) (value : (num : ℚ) / den = d * 10 ^ e) :
    ofDecimal negative d e = ofRatio negative num den := by
  unfold ofDecimal
  dsimp only
  rw [if_neg (by simp only [hd, false_or]; omega), if_neg (by omega)]
  split
  · next positive =>
    obtain ⟨k, rfl⟩ := Int.eq_ofNat_of_zero_le positive
    refine ofRatio_congr Nat.one_ne_zero hden ?_
    rw [value]
    simp only [Int.toNat_natCast, Nat.pow_eq, Nat.cast_mul, Nat.cast_pow, Nat.cast_ofNat, zpow_natCast,
      Nat.cast_one, div_one]
  · next negative' =>
    obtain ⟨k, hk⟩ := Int.eq_ofNat_of_zero_le (show 0 ≤ -e by omega)
    obtain rfl : e = -(k : Int) := by omega
    refine ofRatio_congr (Nat.pow_pos (by decide)).ne' hden ?_
    rw [value]
    simp only [neg_neg, Int.toNat_natCast, Nat.pow_eq, Nat.cast_pow, Nat.cast_ofNat, zpow_neg,
      zpow_natCast]
    rw [div_eq_mul_inv]

/-- Zeros at the end of the digits may be counted by the exponent. -/
theorem ofDecimal_mul_pow (negative : Bool) (d k : Nat) (e : Int) :
    ofDecimal negative (d * 10 ^ k) (e - k) = ofDecimal negative d e := by
  by_cases hd : d = 0
  · simp [ofDecimal, hd]
  have hd' : d * 10 ^ k ≠ 0 := Nat.mul_ne_zero hd (Nat.pow_pos (by decide)).ne'
  have point : (decimalLength (d * 10 ^ k) : Int) + (e - k) = decimalLength d + e := by
    rw [decimalLength_mul_pow hd]
    push_cast
    ring
  by_cases range : -330 ≤ (decimalLength d : Int) + e ∧ (decimalLength d : Int) + e ≤ 330
  · obtain ⟨low, high⟩ := range
    have ten : (10 : ℚ) ≠ 0 := by norm_num
    have value : ((d * 10 ^ k : Nat) : ℚ) * 10 ^ (e - k) = d * 10 ^ e := by
      have powers : (10 : ℚ) ^ k * 10 ^ (e - k) = 10 ^ e := by
        rw [← zpow_natCast, ← zpow_add₀ ten, add_sub_cancel]
      rw [Nat.cast_mul, Nat.cast_pow, Nat.cast_ofNat, mul_assoc, powers]
    -- Any ratio of that value will do; here that of the decimal itself.
    obtain ⟨num, den, hden, ratio⟩ : ∃ num den : Nat, den ≠ 0 ∧ (num : ℚ) / den = d * 10 ^ e := by
      refine ⟨((d : ℚ) * 10 ^ e).num.natAbs, ((d : ℚ) * 10 ^ e).den, Rat.den_ne_zero _, ?_⟩
      have positive : 0 ≤ ((d : ℚ) * 10 ^ e).num := Rat.num_nonneg.2 (by positivity)
      rw [← Int.cast_natCast, Int.natCast_natAbs, abs_of_nonneg positive]
      exact Rat.num_div_den _
    rw [ofDecimal_eq_ofRatio hd low high hden ratio,
      ofDecimal_eq_ofRatio hd' (point ▸ low) (point ▸ high) hden (ratio.trans value.symm)]
  · unfold ofDecimal
    dsimp only
    rw [point]
    simp only [hd, hd', false_or]
    split
    · rfl
    · rw [if_pos (by omega), if_pos (by omega)]

/-- Where the point stands in a decimal of a finite double other than zero. -/
theorem point_of_ofDecimal {negative : Bool} {d : Nat} {e : Int} (hd : d ≠ 0)
    (finite : (ofDecimal negative d e).isFinite) (nonzero : (ofDecimal negative d e).magnitude ≠ 0) :
    -330 ≤ (decimalLength d : Int) + e ∧ (decimalLength d : Int) + e ≤ 330 := by
  unfold ofDecimal at finite nonzero
  dsimp only at finite nonzero
  by_contra outside
  by_cases low : (decimalLength d : Int) + e < -330
  · rw [if_pos (.inr low), magnitude_pack _ (by decide)] at nonzero
    exact nonzero rfl
  · rw [if_neg (by simp only [hd, false_or]; exact low), if_pos (by omega), isFinite,
      magnitude_pack _ (by decide)] at finite
    simp at finite

/-! ## The short decimal -/

theorem ofDecimal_trimZeros (negative : Bool) (d : Decimal) :
    ofDecimal negative d.trimZeros.digits d.trimZeros.exponent =
      ofDecimal negative d.digits d.exponent := by
  suffices trimmed : ∀ fuel (d : Decimal),
      ofDecimal negative (d.trimZerosAux fuel).digits (d.trimZerosAux fuel).exponent =
        ofDecimal negative d.digits d.exponent from trimmed _ d
  intro fuel
  induction fuel with
  | zero => exact fun _ => rfl
  | succ fuel ih =>
    intro d
    rw [Decimal.trimZerosAux]
    split
    · next zero =>
      have moved := ofDecimal_mul_pow negative (d.digits / 10) 1 (d.exponent + 1)
      have digits : d.digits / 10 * 10 ^ 1 = d.digits := by omega
      rw [digits, Nat.cast_one, add_sub_cancel_right] at moved
      rw [ih, moved]
    · rfl

theorem ofDecimal_of_readableNeighbour {tie : Tie} {b : Binary64} {num den : Nat} {e : Int} {d : Decimal}
    (found : readableNeighbour tie b num den e = some d) :
    ofDecimal b.isNegative d.digits d.exponent = b := by
  unfold readableNeighbour at found
  dsimp only at found
  generalize tie.round _ _ = nearest at found
  generalize (if nearest = _ then _ else _) = other at found
  split at found
  · next reads =>
    cases found
    exact reads
  · split at found
    · next reads =>
      cases found
      exact reads
    · cases found

/-- A finite double other than zero is neither too small nor too great for a decimal. -/
theorem absolute_bounds {b : Binary64} (finite : b.isFinite) (nonzero : b.significand ≠ 0) :
    (10 : ℚ) ^ (-331 : Int) ≤ b.absolute ∧ b.absolute < 10 ^ (330 : Int) := by
  have two : (2 : ℚ) ≠ 0 := by norm_num
  have binade := b.inBinade_absolute
  have exponent : b.exponent ≤ 971 := by
    have below : b.magnitude < infiniteMagnitude := by simpa [isFinite] using finite
    have whole := b.magnitude_eq
    have normal := b.significand_bounds.2.2
    simp only [infiniteMagnitude, binadeSize] at below whole
    omega
  constructor
  · have small : (10 : ℚ) ^ (-331 : Int) ≤ 2 ^ (-1074 : Int) := by
      have root : (10 : ℚ) ^ (-55 : Int) ≤ 2 ^ (-179 : Int) := by norm_num
      calc (10 : ℚ) ^ (-331 : Int) ≤ 10 ^ (-330 : Int) := zpow_le_zpow_right₀ (by norm_num) (by decide)
        _ = (10 ^ (-55 : Int)) ^ (6 : Int) := by rw [← zpow_mul]; rfl
        _ ≤ (2 ^ (-179 : Int)) ^ (6 : Int) := zpow_le_zpow_left₀ (by decide) (by positivity) root
        _ = 2 ^ (-1074 : Int) := by rw [← zpow_mul]; rfl
    calc (10 : ℚ) ^ (-331 : Int) ≤ 1 * 2 ^ (-1074 : Int) := by rwa [one_mul]
      _ ≤ b.significand * 2 ^ b.exponent := by
        have one : (1 : ℚ) ≤ b.significand := by exact_mod_cast Nat.pos_of_ne_zero nonzero
        have least : (2 : ℚ) ^ (-1074 : Int) ≤ 2 ^ b.exponent :=
          zpow_le_zpow_right₀ (by norm_num) binade.least
        gcongr
  · have great : (2 : ℚ) ^ (1024 : Int) ≤ 10 ^ (330 : Int) := by
      have root : (2 : ℚ) ^ (128 : Int) ≤ 10 ^ (41 : Int) := by norm_num
      calc (2 : ℚ) ^ (1024 : Int) = (2 ^ (128 : Int)) ^ (8 : Int) := by rw [← zpow_mul]; rfl
        _ ≤ (10 ^ (41 : Int)) ^ (8 : Int) := zpow_le_zpow_left₀ (by decide) (by positivity) root
        _ = 10 ^ (328 : Int) := by rw [← zpow_mul]; rfl
        _ ≤ 10 ^ (330 : Int) := zpow_le_zpow_right₀ (by norm_num) (by decide)
    calc b.absolute < 2 ^ (b.exponent + 53) := binade.below
      _ ≤ 2 ^ (1024 : Int) := zpow_le_zpow_right₀ (by norm_num) (by omega)
      _ ≤ 10 ^ (330 : Int) := great

/-- A decimal of the exact value of a finite double is read as that double. -/
theorem ofDecimal_of_absolute {b : Binary64} (finite : b.isFinite) {d : Nat} {e : Int} (hd : d ≠ 0)
    (value : (d * 10 ^ e : ℚ) = b.absolute) : ofDecimal b.isNegative d e = b := by
  have nonzero : b.significand ≠ 0 := by
    intro zero
    rw [absolute, zero, Nat.cast_zero, zero_mul, mul_eq_zero] at value
    have power : (10 : ℚ) ^ e ≠ 0 := by positivity
    exact hd (by exact_mod_cast value.resolve_right power)
  obtain ⟨low, high⟩ := absolute_bounds finite nonzero
  obtain ⟨low', high'⟩ := decimal_bounds hd e
  rw [value] at low' high'
  have ten : (1 : ℚ) < 10 := by norm_num
  have point := (zpow_lt_zpow_iff_right₀ ten).1 (lt_of_le_of_lt low high')
  have point' := (zpow_lt_zpow_iff_right₀ ten).1 (lt_of_le_of_lt low' high)
  have ratio := b.ratio_eq_absolute
  rw [ofDecimal_eq_ofRatio hd (by omega) (by omega) b.ratio_pos (ratio.trans value.symm)]
  exact ofRatio_of_absolute finite b.ratio_pos ratio

/-- The exact value of a finite double, as a decimal. -/
theorem exact_decimal (b : Binary64) :
    ((b.ratio.1 * Nat.pow 5 b.ratio.2.log2 : Nat) : ℚ) * 10 ^ (-(b.ratio.2.log2 : Int)) = b.absolute := by
  -- The denominator is a power of two.
  have power : b.ratio.2 = 2 ^ b.ratio.2.log2 := by
    unfold ratio
    split
    · rfl
    · simp only [Nat.pow_eq, Nat.log2_two_pow]
  have ten : (10 : ℚ) ^ b.ratio.2.log2 = 2 ^ b.ratio.2.log2 * 5 ^ b.ratio.2.log2 := by
    rw [← mul_pow]
    norm_num
  rw [← ratio_eq_absolute, zpow_neg, zpow_natCast, ten, Nat.pow_eq, Nat.cast_mul, Nat.cast_pow,
    Nat.cast_ofNat]
  have value : (b.ratio.2 : ℚ) = 2 ^ b.ratio.2.log2 := by exact_mod_cast power
  rw [value]
  have five : (5 : ℚ) ^ b.ratio.2.log2 ≠ 0 := by positivity
  field_simp

/-- The short decimal of a finite double is read as that double. -/
theorem ofDecimal_shortest (tie : Tie) {b : Binary64} (finite : b.isFinite) :
    ofDecimal b.isNegative (b.shortest tie).digits (b.shortest tie).exponent = b := by
  have ratio := b.ratio_eq_absolute
  unfold shortest
  dsimp only
  split
  · next zero =>
    have magnitude := magnitudeOfRatio_of_absolute finite b.ratio_pos ratio
    rw [zero, magnitudeOfRatio, if_pos (.inl rfl)] at magnitude
    conv_rhs => rw [← pack_magnitude b, ← magnitude]
    simp [ofDecimal]
  · next nonzero =>
    rw [ofDecimal_trimZeros]
    generalize search : List.findSome? _ (List.range 17) = found
    cases found with
    | some d =>
      obtain ⟨i, -, found⟩ := List.exists_of_findSome?_eq_some search
      exact ofDecimal_of_readableNeighbour found
    | none =>
      refine ofDecimal_of_absolute finite ?_ b.exact_decimal
      exact Nat.mul_ne_zero nonzero (Nat.pow_pos (by decide)).ne'

/-- A double with digits in its short decimal is not zero. -/
theorem magnitude_ne_zero {tie : Tie} {b : Binary64} (nonzero : (b.shortest tie).digits ≠ 0) :
    b.magnitude ≠ 0 := by
  intro zero
  have significand : b.significand = 0 := by simp [Binary64.significand, zero]
  have ratio : b.ratio.1 = 0 := by
    unfold Binary64.ratio
    split <;> simp [significand]
  refine nonzero ?_
  unfold shortest
  dsimp only
  rw [if_pos ratio]

end InterpreterHost.Binary64
