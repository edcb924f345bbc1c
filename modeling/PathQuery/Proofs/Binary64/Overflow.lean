import PathQuery.Proofs.Binary64.Shortest
import PathQuery.Proofs.Json.NumberValue

/-!
The end of the range. A real is rounded beyond the largest number from halfway between that and the
power of two that would come next, and this is when a decimal numeral gives no number.
-/

namespace PathQuery.Binary64

/-- Halfway between the largest number and the next power of two. The significand of the largest
number is odd, so that a tie goes up. -/
def overflow : ℚ :=
  2 ^ 1024 - 2 ^ 970

/-! ### Quotients -/

/-- What is rounded to an even number or beyond it is at most half of one below it. -/
theorem le_divHalfEven_iff {num den m : Nat} (hd : 0 < den) (even : m % 2 = 0) :
    m ≤ divHalfEven num den ↔ 2 * m * den ≤ 2 * num + den := by
  have whole := Nat.div_add_mod num den
  have part := Nat.mod_lt num hd
  unfold divHalfEven
  dsimp only
  generalize num / den = q at *
  generalize num % den = r at *
  subst whole
  rcases lt_trichotomy (q + 1) m with less | rfl | more
  · have above : (q + 2) * den ≤ m * den := Nat.mul_le_mul_right den less
    exact iff_of_false (by split <;> omega) (by nlinarith)
  · have half : 2 * (q + 1) * den ≤ 2 * (den * q + r) + den ↔ den ≤ 2 * r := by
      constructor <;> intro <;> nlinarith
    rw [half]
    split <;> omega
  · have below : m * den ≤ q * den := Nat.mul_le_mul_right den (by omega)
    exact iff_of_true (by split <;> omega) (by nlinarith)

theorem lt_scaleOf_iff {k q : Nat} : k < scaleOf q ↔ 2 ^ (53 + k) ≤ q := by
  unfold scaleOf
  rcases eq_or_ne q 0 with rfl | some
  · simp
  · rw [← Nat.le_log2 some]
    omega

/-- A significand is rounded up to the next scale from half a unit below that. -/
theorem le_divHalfEven_shiftLeft_iff {num den : Nat} (hd : 0 < den) (k : Nat) :
    2 ^ 53 ≤ divHalfEven num (den <<< (k + 1)) ↔ 2 ^ 54 * 2 ^ k * den ≤ num + 2 ^ k * den := by
  have unit : 0 < 2 ^ k := Nat.two_pow_pos k
  rw [Nat.shiftLeft_eq, pow_succ' 2 k]
  generalize 2 ^ k = u at *
  rw [le_divHalfEven_iff (Nat.mul_pos hd (by omega)) (by decide)]
  constructor <;> intro <;> nlinarith

/-- A quotient overflows with its scale, or when its significand is rounded up to the next one. -/
theorem ofRatio_eq_none_iff_scale (negative : Bool) (num den : Nat) :
    ofRatio negative num den = none ↔
      2045 < scaleOf (num / den) ∨
        (scaleOf (num / den) = 2045 ∧ 2 ^ 53 ≤ divHalfEven num (den <<< scaleOf (num / den))) := by
  unfold ofRatio
  dsimp only
  split <;> split <;> simp <;> omega

theorem ofRatio_eq_none_iff (negative : Bool) {num den : Nat} (hd : 0 < den) :
    ofRatio negative num den = none ↔ 2 ^ 54 * 2 ^ 2044 * den ≤ num + 2 ^ 2044 * den := by
  rw [ofRatio_eq_none_iff_scale]
  rcases lt_trichotomy (scaleOf (num / den)) 2045 with less | scale | more
  · have below : num < 2 ^ (53 + 2044) * den :=
      (Nat.div_lt_iff_lt_mul hd).1 (not_le.1 (mt lt_scaleOf_iff.2 (by omega)))
    rw [pow_add] at below
    generalize 2 ^ 2044 = u at *
    exact iff_of_false (by omega) (by nlinarith)
  · rw [scale]
    simp only [lt_irrefl, false_or, true_and]
    exact le_divHalfEven_shiftLeft_iff hd 2044
  · have above : 2 ^ (53 + 2045) * den ≤ num :=
      (Nat.le_div_iff_mul_le hd).1 (lt_scaleOf_iff.1 more)
    rw [show 2 ^ (53 + 2045) = 2 ^ 54 * 2 ^ 2044 by rw [← pow_add]] at above
    exact iff_of_true (.inl more) (Nat.le_add_right_of_le above)

/-! ### Numerals -/

variable {d : Decimal}

theorem powTen_div (e : ℤ) : ((powTen e).1 : ℚ) / (powTen e).2 = 10 ^ e := by
  rw [powTen_eq]
  push_cast
  rw [div_eq_iff (by positivity), ← zpow_natCast, ← zpow_natCast, ← zpow_add₀ (by norm_num)]
  congr 1
  omega

theorem overflow_units : overflow * unitsPerOne = 2 ^ 54 * 2 ^ 2044 - 2 ^ 2044 := by
  rw [overflow, unitsPerOne_eq, Nat.cast_pow, Nat.cast_ofNat, sub_mul, ← pow_add, ← pow_add,
    ← pow_add]

/-- The value of a numeral lies in the decade of its leading digit. -/
theorem value_lt_place (hd : d.digits ≠ 0) : (d.digits : ℚ) * 10 ^ d.exponent < 10 ^ d.place := by
  have digits : (d.digits : ℚ) < 10 ^ (digitsOf d.digits).length := by
    exact_mod_cast lt_pow_length hd
  rw [Decimal.place, zpow_add₀ (by norm_num), zpow_natCast]
  exact mul_lt_mul_of_pos_right digits (by positivity)

theorem place_le_value (hd : d.digits ≠ 0) :
    (10 : ℚ) ^ (d.place - 1) ≤ d.digits * 10 ^ d.exponent := by
  have some : 0 < (digitsOf d.digits).length := by
    by_contra none
    have := lt_pow_length hd
    simp_all
  have digits : (10 : ℚ) ^ ((digitsOf d.digits).length - 1) ≤ d.digits := by
    exact_mod_cast pow_length_le hd
  have place : d.place - 1 = ((digitsOf d.digits).length - 1 : ℕ) + d.exponent := by
    rw [Decimal.place]
    omega
  rw [place, zpow_add₀ (by norm_num), zpow_natCast]
  exact mul_le_mul_of_nonneg_right digits (by positivity)

theorem one_lt_overflow : 1 < overflow := by
  have large : (1 : ℚ) ≤ 2 ^ 970 := one_le_pow₀ (by norm_num)
  rw [overflow, show (2 : ℚ) ^ 1024 = 2 ^ 54 * 2 ^ 970 by rw [← pow_add]]
  generalize (2 : ℚ) ^ 970 = u at *
  linarith

theorem overflow_lt : overflow < 10 ^ 330 := by
  calc overflow
      < 2 ^ 1024 := sub_lt_self _ (by positivity)
    _ ≤ 2 ^ (33 * 33) := pow_le_pow_right₀ (by norm_num) (by norm_num)
    _ = (2 ^ 33) ^ 33 := pow_mul 2 33 33
    _ ≤ (10 ^ 10) ^ 33 := pow_le_pow_left₀ (by norm_num) (by norm_num) 33
    _ = 10 ^ 330 := by rw [← pow_mul]

/-- A numeral gives no number exactly when its value is beyond the range. -/
theorem ofDecimal_eq_none_iff (negative : Bool) (d : Decimal) :
    ofDecimal negative d = none ↔ overflow ≤ d.digits * 10 ^ d.exponent := by
  by_cases hd : d.digits = 0
  · obtain ⟨digits, exponent⟩ := d
    dsimp only at hd
    subst hd
    rw [ofDecimal_zero, Nat.cast_zero, zero_mul]
    exact iff_of_false (by simp) (zero_lt_one.trans one_lt_overflow).not_ge
  rw [ofDecimal_eq negative hd]
  split_ifs with low high
  · refine iff_of_false (by simp) (not_le.2 ?_)
    calc (d.digits : ℚ) * 10 ^ d.exponent
        < 10 ^ d.place := value_lt_place hd
      _ ≤ 10 ^ (0 : ℤ) := zpow_le_zpow_right₀ (by norm_num) (by omega)
      _ < overflow := one_lt_overflow
  · refine iff_of_true rfl ?_
    calc overflow
        ≤ 10 ^ (330 : ℤ) := overflow_lt.le
      _ ≤ 10 ^ (d.place - 1) := zpow_le_zpow_right₀ (by norm_num) (by omega)
      _ ≤ d.digits * 10 ^ d.exponent := place_le_value hd
  · have positive : (0 : ℚ) < (powTen d.exponent).2 := Nat.cast_pos.2 (powTen_pos _).2
    have units : (0 : ℚ) < unitsPerOne := Nat.cast_pos.2 unitsPerOne_pos
    rw [ofRatio_eq_none_iff negative (powTen_pos _).2, ← powTen_div, ← mul_div_assoc,
      le_div_iff₀ positive, ← mul_le_mul_iff_left₀ units, mul_right_comm overflow, overflow_units,
      sub_mul, sub_le_iff_le_add]
    exact_mod_cast Iff.rfl

theorem magnitude_le (x : Binary64) :
    x.magnitude + 2 * 2 ^ 2044 ≤ 2 ^ 54 * 2 ^ 2044 := by
  have significand : x.significand + 1 ≤ 2 ^ 53 := x.significand_lt
  have scale {k : Nat} (h : x.scale ≤ k + 1) : 2 ^ x.scale ≤ 2 * 2 ^ k := by
    rw [← Nat.pow_succ']
    exact Nat.pow_le_pow_right (by decide) h
  have unit := scale (k := 2044) x.scale_le
  rw [magnitude_eq]
  generalize 2 ^ 2044 = u at *
  nlinarith

/-- All numbers are in the range. -/
theorem abs_value_lt_overflow (x : Binary64) : |x.value| < overflow := by
  have units : (0 : ℚ) < unitsPerOne := Nat.cast_pos.2 unitsPerOne_pos
  have magnitude : |(x.units : ℚ)| = x.magnitude := by
    unfold Binary64.units
    split <;> simp
  have bound : (x.magnitude : ℚ) + 2 * 2 ^ 2044 ≤ 2 ^ 54 * 2 ^ 2044 := by
    exact_mod_cast magnitude_le x
  have positive : (0 : ℚ) < 2 ^ 2044 := by positivity
  rw [value, abs_div, abs_of_pos units, div_lt_iff₀ units, magnitude, overflow_units]
  generalize (2 : ℚ) ^ 2044 = u at *
  linarith

end PathQuery.Binary64
