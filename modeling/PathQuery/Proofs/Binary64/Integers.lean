import Mathlib.Tactic.Ring
import PathQuery.Binary64.Arithmetic
import PathQuery.Proofs.Binary64.Interval

/-!
Integers as binary64 numbers. Rounding keeps the order of integers, though it may make different
ones equal, and it changes none that has 53 bits.
-/

namespace PathQuery.Binary64

/-! ### Rounding a natural number of units -/

/-- A natural number of units, rounded to the significand that its scale leaves. -/
def rounded (n : Nat) : Nat :=
  divHalfEven n (2 ^ scaleOf n) * 2 ^ scaleOf n

theorem scaleOf_mono {m n : Nat} (h : m ≤ n) : scaleOf m ≤ scaleOf n := by
  have logs : m.log2 ≤ n.log2 := by
    by_cases hm : m = 0
    · simp [hm]
    · exact (Nat.le_log2 (by omega)).2 ((Nat.log2_self_le hm).trans h)
  exact Nat.sub_le_sub_right logs 52

theorem divHalfEven_mono {m n : Nat} (den : Nat) (h : m ≤ n) :
    divHalfEven m den ≤ divHalfEven n den := by
  rcases Nat.lt_or_ge (m / den) (n / den) with less | more
  · have above := divHalfEven_le m den
    have below := div_le_divHalfEven n den
    omega
  · -- equal quotients leave the order to the remainders
    have quotients : m / den = n / den := Nat.le_antisymm (Nat.div_le_div_right h) more
    have remainders : m % den ≤ n % den := by
      have hm := Nat.div_add_mod m den
      have hn := Nat.div_add_mod n den
      rw [quotients] at hm
      omega
    unfold divHalfEven
    dsimp only
    rw [quotients]
    split <;> split <;> omega

theorem rounded_mono {m n : Nat} (h : m ≤ n) : rounded m ≤ rounded n := by
  unfold rounded
  rcases (scaleOf_mono h).eq_or_lt with same | less
  · rw [same]
    exact Nat.mul_le_mul_right _ (divHalfEven_mono _ h)
  · -- the smaller number stays below the least of the greater scale
    have above : divHalfEven m (2 ^ scaleOf m) ≤ 2 ^ 53 := by
      simpa [Nat.shiftLeft_eq] using divHalfEven_scaleOf_le m 1
    have below : 2 ^ 52 ≤ divHalfEven n (2 ^ scaleOf n) := by
      simpa [Nat.shiftLeft_eq] using le_divHalfEven_scaleOf n 1 (by simpa using by omega)
    have steps : 2 * 2 ^ scaleOf m ≤ 2 ^ scaleOf n := by
      rw [← Nat.pow_succ']
      exact Nat.pow_le_pow_right (by decide) less
    calc divHalfEven m (2 ^ scaleOf m) * 2 ^ scaleOf m
        ≤ 2 ^ 53 * 2 ^ scaleOf m := Nat.mul_le_mul_right _ above
      _ = 2 ^ 52 * (2 * 2 ^ scaleOf m) := by ring
      _ ≤ 2 ^ 52 * 2 ^ scaleOf n := Nat.mul_le_mul_left _ steps
      _ ≤ divHalfEven n (2 ^ scaleOf n) * 2 ^ scaleOf n := Nat.mul_le_mul_right _ below

/-- Multiples of the last place are not changed. -/
theorem rounded_eq_self {n : Nat} (h : 2 ^ scaleOf n ∣ n) : rounded n = n := by
  obtain ⟨q, hq⟩ := h
  have unit : 0 < 2 ^ scaleOf n := Nat.two_pow_pos _
  have exactly : divHalfEven n (2 ^ scaleOf n) = q := by
    have whole : n / 2 ^ scaleOf n = q := Nat.div_eq_of_eq_mul_right unit hq
    have rest : n % 2 ^ scaleOf n = 0 := Nat.mod_eq_zero_of_dvd ⟨q, hq⟩
    unfold divHalfEven
    rw [whole, rest]
    exact if_pos (.inl unit)
  rw [rounded, exactly, Nat.mul_comm, ← hq]

theorem scaleOf_mul_pow_le {n bits : Nat} (k : Nat) (h : n < 2 ^ bits) :
    scaleOf (n * 2 ^ k) ≤ bits + k - 53 := by
  have less : n * 2 ^ k < 2 ^ (bits + k) := by
    rw [Nat.pow_add]
    exact Nat.mul_lt_mul_of_pos_right h (Nat.two_pow_pos k)
  unfold scaleOf
  by_cases hn : n * 2 ^ k = 0
  · simp [hn]
  · have := (Nat.log2_lt hn).2 less
    omega

/-- Numbers with 53 bits and zeros behind them are not changed. -/
theorem rounded_mul_pow {n : Nat} (k : Nat) (h : n ≤ 2 ^ 53) :
    rounded (n * 2 ^ k) = n * 2 ^ k := by
  apply rounded_eq_self
  rcases h.eq_or_lt with rfl | less
  · -- the one number with 54 bits is a power of two
    rw [← Nat.pow_add]
    refine Nat.pow_dvd_pow 2 ?_
    unfold scaleOf
    rw [Nat.log2_two_pow]
    omega
  · have scale : scaleOf (n * 2 ^ k) ≤ k := by
      simpa using scaleOf_mul_pow_le k less
    exact Dvd.dvd.mul_left (Nat.pow_dvd_pow 2 scale) n

/-! ### Integers -/

theorem unitsPerOne_eq : unitsPerOne = 2 ^ 1074 := by
  unfold unitsPerOne
  generalize 1074 = k
  exact Nat.one_shiftLeft k

theorem unitsPerOne_pos : 0 < unitsPerOne := by
  decide

/-- What a quotient by one is rounded to. -/
theorem ofRatio_one (negative : Bool) {n : Nat} (h : scaleOf n < 2045) :
    ∃ x, ofRatio negative n 1 = some x ∧ x.negative = negative ∧ x.magnitude = rounded n := by
  unfold ofRatio
  simp only [Nat.div_one, Nat.one_shiftLeft]
  split
  · rw [dif_pos (by omega)]
    exact ⟨_, rfl, rfl, magnitude_eq _⟩
  · rename_i hs
    -- a significand that reaches the next binade is halved, and its scale raised
    have top : divHalfEven n (2 ^ scaleOf n) ≤ 2 ^ 53 := by
      simpa [Nat.shiftLeft_eq] using divHalfEven_scaleOf_le n 1
    rw [dif_pos (by omega)]
    refine ⟨_, rfl, rfl, ?_⟩
    rw [magnitude_eq, rounded]
    rw [show divHalfEven n (2 ^ scaleOf n) = 2 ^ 53 by omega]
    ring

/-- An integer of 64 bits, in units. -/
def unitsOfInt (n : Int) : Int :=
  if n < 0 then -(rounded (n.natAbs * unitsPerOne) : Int) else rounded (n.natAbs * unitsPerOne)

theorem ofInt_units {n : Int} (h : n.natAbs < 2 ^ 64) :
    ∃ x, ofInt n = some x ∧ x.units = unitsOfInt n := by
  have scale : scaleOf (n.natAbs * unitsPerOne) < 2045 := by
    rw [unitsPerOne_eq]
    exact (scaleOf_mul_pow_le 1074 h).trans_lt (by decide)
  obtain ⟨x, hx, negative, magnitude⟩ := ofRatio_one (n < 0) scale
  refine ⟨x, hx, ?_⟩
  rw [units, negative, magnitude, unitsOfInt]
  simp only [decide_eq_true_eq]

theorem unitsOfInt_mono {m n : Int} (h : m ≤ n) : unitsOfInt m ≤ unitsOfInt n := by
  have sized {a b : Nat} (hab : a ≤ b) :
      (rounded (a * unitsPerOne) : Int) ≤ rounded (b * unitsPerOne) := by
    exact_mod_cast rounded_mono (Nat.mul_le_mul_right _ hab)
  unfold unitsOfInt
  split
  · split
    · have := sized (show n.natAbs ≤ m.natAbs by omega)
      omega
    · omega
  · rw [if_neg (by omega)]
    exact sized (by omega)

theorem unitsOfInt_of_le {n : Int} (h : n.natAbs ≤ 2 ^ 53) : unitsOfInt n = n * unitsPerOne := by
  unfold unitsOfInt
  rw [unitsPerOne_eq, rounded_mul_pow 1074 h, ← unitsPerOne_eq, Nat.cast_mul]
  split
  · rw [← Int.neg_mul]
    congr 1
    omega
  · congr 1
    omega

end PathQuery.Binary64
