import Mathlib.Tactic.Linarith
import Mathlib.Tactic.Ring
import PathQuery.Binary64.Decimal

/-!
Rounding as an interval. The reals that `roundsTo` admits for a number are among those that
`ofRatio` rounds to it, so a numeral inside the interval of a number reads back as the number.
-/

namespace PathQuery.Binary64

/-! ### Quotients -/

/-- `m` is what `num / den` rounds to, when it lies within half of one of it, and strictly so for an
odd `m`. -/
theorem divHalfEven_eq {num den m : Nat} (hd : 0 < den) (hl : 2 * m * den ≤ 2 * num + den)
    (hu : 2 * num ≤ (2 * m + 1) * den)
    (ho : m % 2 = 1 → 2 * m * den < 2 * num + den ∧ 2 * num < (2 * m + 1) * den) :
    divHalfEven num den = m := by
  have whole := Nat.div_add_mod num den
  have part := Nat.mod_lt num hd
  unfold divHalfEven
  generalize num / den = q at *
  generalize num % den = r at *
  have above : q ≤ m := by
    by_contra h
    have : (m + 1) * den ≤ q * den := Nat.mul_le_mul_right den (by omega)
    nlinarith
  have below : m ≤ q + 1 := by
    by_contra h
    have : (q + 2) * den ≤ m * den := Nat.mul_le_mul_right den (by omega)
    nlinarith
  obtain rfl | rfl : q = m ∨ m = q + 1 := by omega
  · have near : 2 * r ≤ den := by nlinarith
    rw [if_pos]
    by_cases hq : q % 2 = 0
    · omega
    · have := (ho (by omega)).2
      have : 2 * r < den := by nlinarith
      omega
  · have far : den ≤ 2 * r := by nlinarith
    rw [if_neg]
    by_cases hq : q % 2 = 0
    · have := (ho (by omega)).1
      have : den < 2 * r := by nlinarith
      omega
    · omega

theorem divHalfEven_mul (num den : Nat) {c : Nat} (hc : 0 < c) :
    divHalfEven (num * c) (den * c) = divHalfEven num den := by
  unfold divHalfEven
  rw [Nat.mul_div_mul_right num den hc, Nat.mul_mod_mul_right]
  have less : 2 * (num % den * c) < den * c ↔ 2 * (num % den) < den := by
    rw [← Nat.mul_assoc, Nat.mul_lt_mul_right hc]
  have same : 2 * (num % den * c) = den * c ↔ 2 * (num % den) = den := by
    rw [← Nat.mul_assoc, Nat.mul_left_inj (by omega)]
  simp only [less, same]

/-- Rounding depends on the quotient alone. -/
theorem ofRatio_mul (negative : Bool) (num den : Nat) {c : Nat} (hc : 0 < c) :
    ofRatio negative (num * c) (den * c) = ofRatio negative num den := by
  have significand (k : Nat) :
      divHalfEven (num * c) ((den * c) <<< k) = divHalfEven num (den <<< k) := by
    rw [Nat.shiftLeft_eq, Nat.shiftLeft_eq, Nat.mul_right_comm, divHalfEven_mul _ _ hc]
  unfold ofRatio
  simp only [Nat.mul_div_mul_right num den hc, significand]

theorem ofRatio_congr (negative : Bool) {num den num' den' : Nat} (hd : 0 < den) (hd' : 0 < den')
    (h : num * den' = num' * den) : ofRatio negative num den = ofRatio negative num' den' := by
  calc ofRatio negative num den
      = ofRatio negative (num * den') (den * den') := (ofRatio_mul negative num den hd').symm
    _ = ofRatio negative (num' * den) (den' * den) := by rw [h, Nat.mul_comm den den']
    _ = ofRatio negative num' den' := ofRatio_mul negative num' den' hd

/-! ### The interval of a number -/

/-- A quotient that keeps the scale of `x` and rounds to its significand. -/
theorem ofRatio_of_scale (x : Binary64) (negative : Bool) {num den : Nat}
    (hk : scaleOf (num / den) = x.scale)
    (hm : divHalfEven num (den <<< x.scale) = x.significand) :
    ofRatio negative num den = some { x with negative } := by
  obtain ⟨sign, m, k, hs, hk', hn⟩ := x
  dsimp only at hk hm
  unfold ofRatio
  subst hk hm
  dsimp only
  rw [dif_pos hs, dif_pos hk']

/-- A quotient that rounds up to the start of the binade of `x`. -/
theorem ofRatio_of_binade (x : Binary64) (negative : Bool) {num den : Nat}
    (hx : x.significand = 1 <<< 52) (hk : scaleOf (num / den) + 1 = x.scale)
    (hm : divHalfEven num (den <<< scaleOf (num / den)) = 1 <<< 53) :
    ofRatio negative num den = some { x with negative } := by
  obtain ⟨sign, m, k, hs, hk', hn⟩ := x
  dsimp only at hk hx
  unfold ofRatio
  subst hk hx
  dsimp only
  rw [dif_neg (by omega), dif_pos hk']

theorem scaleOf_eq {n k : Nat} (hl : 2 ^ (52 + k) ≤ n) (hu : n < 2 ^ (53 + k)) :
    scaleOf n = k := by
  have hn : n ≠ 0 := by
    have := Nat.two_pow_pos (52 + k)
    omega
  have low := (Nat.le_log2 hn).2 hl
  have high := (Nat.log2_lt hn).2 hu
  unfold scaleOf
  omega

theorem scaleOf_eq_zero {n : Nat} (hu : n < 2 ^ 53) : scaleOf n = 0 := by
  unfold scaleOf
  by_cases hn : n = 0
  · simp [hn]
  · have := (Nat.log2_lt hn).2 hu
    omega

/-- What `roundsTo` says, with the powers of two written out. -/
theorem roundsTo_bounds {x : Binary64} {num den : Nat} (h : roundsTo x num den) :
    (4 * x.magnitude - (halfGaps x).1) * den ≤ num ∧
      num ≤ (4 * x.magnitude + (halfGaps x).2) * den ∧
      (x.significand % 2 = 1 → (4 * x.magnitude - (halfGaps x).1) * den < num ∧
        num < (4 * x.magnitude + (halfGaps x).2) * den) := by
  unfold roundsTo at h
  dsimp only at h
  split at h
  · rename_i even
    simp only [Bool.and_eq_true, decide_eq_true_eq] at h
    exact ⟨h.1, h.2, by omega⟩
  · simp only [Bool.and_eq_true, decide_eq_true_eq] at h
    exact ⟨h.1.le, h.2.le, fun _ => h⟩

theorem halfGaps_up (x : Binary64) : (halfGaps x).2 = 2 * 2 ^ x.scale := by
  simp [halfGaps, Nat.shiftLeft_eq]

theorem halfGaps_down (x : Binary64) : (halfGaps x).1 =
    if x.significand = 2 ^ 52 ∧ x.scale ≠ 0 then 2 ^ x.scale else 2 * 2 ^ x.scale := by
  simp [halfGaps, Nat.shiftLeft_eq]

theorem magnitude_eq (x : Binary64) : x.magnitude = x.significand * 2 ^ x.scale := by
  rw [magnitude, Nat.shiftLeft_eq]

/-- Where the quotient keeps the scale, the interval of `x` rounds to its significand. -/
theorem significand_of_roundsTo {x : Binary64} {num den : Nat} (hd : 0 < den)
    (h : roundsTo x (4 * num) den) (hl : x.magnitude * den ≤ num ∨
      (halfGaps x).1 = 2 * 2 ^ x.scale) :
    divHalfEven num (den <<< x.scale) = x.significand := by
  obtain ⟨low, high, odd⟩ := roundsTo_bounds h
  have hp : 0 < den * 2 ^ x.scale := Nat.mul_pos hd (Nat.two_pow_pos _)
  have whole : 2 * x.significand * (den * 2 ^ x.scale) = 2 * (x.magnitude * den) := by
    rw [magnitude_eq]
    ring
  have next : (2 * x.significand + 1) * (den * 2 ^ x.scale) =
      2 * (x.magnitude * den) + den * 2 ^ x.scale := by
    rw [← whole]
    ring
  have up : (4 * x.magnitude + (halfGaps x).2) * den =
      4 * (x.magnitude * den) + 2 * (den * 2 ^ x.scale) := by
    rw [halfGaps_up]
    ring
  have down : (4 * x.magnitude - 2 * 2 ^ x.scale) * den =
      4 * (x.magnitude * den) - 2 * (den * 2 ^ x.scale) := by
    rw [Nat.sub_mul]
    congr 1 <;> ring
  rw [up] at high odd
  rw [Nat.shiftLeft_eq]
  refine divHalfEven_eq hp ?_ ?_ fun ho => ⟨?_, ?_⟩
  · rw [whole]
    rcases hl with hl | hl
    · omega
    · rw [hl, down] at low
      omega
  · rw [next]
    omega
  · have low := (odd ho).1
    rw [whole]
    rcases hl with hl | hl
    · omega
    · rw [hl, down] at low
      omega
  · have high := (odd ho).2
    rw [next]
    omega

theorem div_lt_of_roundsTo {x : Binary64} {num den : Nat} (hd : 0 < den)
    (h : roundsTo x (4 * num) den) : num / den < 2 ^ (53 + x.scale) := by
  obtain ⟨-, high, -⟩ := roundsTo_bounds h
  rw [Nat.div_lt_iff_lt_mul hd]
  have bound : x.significand + 1 ≤ 2 ^ 53 := x.significand_lt
  have top : (x.significand + 1) * 2 ^ x.scale ≤ 2 ^ (53 + x.scale) := by
    rw [Nat.pow_add]
    exact Nat.mul_le_mul_right _ bound
  rw [halfGaps_up, magnitude_eq] at high
  have hp := Nat.two_pow_pos x.scale
  have less : 4 * (x.significand * 2 ^ x.scale) + 2 * 2 ^ x.scale < 4 * 2 ^ (53 + x.scale) := by
    nlinarith
  have := Nat.mul_lt_mul_of_pos_right less hd
  nlinarith

/-- The interval below the start of a binade rounds up to it, at the scale of the binade before. -/
theorem ofRatio_of_below {x : Binary64} {num den : Nat} (hd : 0 < den)
    (h : roundsTo x (4 * num) den) (hx : x.significand = 2 ^ 52) (hk : x.scale ≠ 0)
    (hl : num < x.magnitude * den) (negative : Bool) :
    ofRatio negative num den = some { x with negative } := by
  obtain ⟨low, -, -⟩ := roundsTo_bounds h
  rw [halfGaps_down, if_pos ⟨hx, hk⟩] at low
  obtain ⟨j, hj⟩ : ∃ j, x.scale = j + 1 := ⟨x.scale - 1, by omega⟩
  have magnitude : x.magnitude = 2 ^ 53 * 2 ^ j := by
    rw [magnitude_eq, hx, hj]
    ring
  have gap : 2 ^ x.scale = 2 * 2 ^ j := by
    rw [hj]
    ring
  rw [magnitude, gap] at low
  rw [magnitude] at hl
  have unit : 0 < 2 ^ j * den := Nat.mul_pos (Nat.two_pow_pos j) hd
  have near : 4 * 2 ^ 53 * (2 ^ j * den) - 2 * (2 ^ j * den) ≤ 4 * num := by
    refine le_trans (le_of_eq ?_) low
    rw [Nat.sub_mul]
    congr 1 <;> ring
  have under : num < 2 ^ 53 * (2 ^ j * den) := by
    rwa [← Nat.mul_assoc]
  have scale : scaleOf (num / den) = j := by
    refine scaleOf_eq ?_ ?_
    · rw [Nat.le_div_iff_mul_le hd, Nat.pow_add, Nat.mul_assoc]
      omega
    · rw [Nat.div_lt_iff_lt_mul hd, Nat.pow_add, Nat.mul_assoc]
      exact under
  refine ofRatio_of_binade x negative hx (by omega) ?_
  rw [scale, Nat.shiftLeft_eq, Nat.mul_comm den]
  exact divHalfEven_eq unit (by omega) (by omega) (by omega)

/-- A numeral in the interval of `x` reads back as `x`. -/
theorem ofRatio_of_roundsTo {x : Binary64} {num den : Nat} (hd : 0 < den)
    (h : roundsTo x (4 * num) den) (negative : Bool) :
    ofRatio negative num den = some { x with negative } := by
  have high := div_lt_of_roundsTo hd h
  by_cases hk : x.scale = 0
  · have scale : scaleOf (num / den) = x.scale := by
      rw [hk] at high ⊢
      exact scaleOf_eq_zero high
    refine ofRatio_of_scale x negative scale (significand_of_roundsTo hd h (.inr ?_))
    rw [halfGaps_down, if_neg (by omega)]
  have normal : 2 ^ 52 ≤ x.significand := x.normal.resolve_left hk
  by_cases hl : x.magnitude * den ≤ num
  · have low : 2 ^ (52 + x.scale) ≤ num / den := by
      rw [Nat.le_div_iff_mul_le hd]
      refine le_trans (Nat.mul_le_mul_right den ?_) hl
      rw [magnitude_eq, Nat.pow_add]
      exact Nat.mul_le_mul_right _ normal
    refine ofRatio_of_scale x negative (scaleOf_eq low high) ?_
    exact significand_of_roundsTo hd h (.inl hl)
  by_cases hm : x.significand = 2 ^ 52
  · exact ofRatio_of_below hd h hm hk (by omega) negative
  · have down : (halfGaps x).1 = 2 * 2 ^ x.scale := by
      rw [halfGaps_down, if_neg (by omega)]
    have low : 2 ^ (52 + x.scale) ≤ num / den := by
      obtain ⟨near, -, -⟩ := roundsTo_bounds h
      rw [down, magnitude_eq] at near
      have above : (2 ^ 52 + 1) * 2 ^ x.scale ≤ x.significand * 2 ^ x.scale :=
        Nat.mul_le_mul_right _ (by omega)
      have start : 4 * 2 ^ (52 + x.scale) ≤
          4 * (x.significand * 2 ^ x.scale) - 2 * 2 ^ x.scale := by
        rw [Nat.pow_add]
        omega
      rw [Nat.le_div_iff_mul_le hd]
      have := le_trans (Nat.mul_le_mul_right den start) near
      rw [Nat.mul_assoc] at this
      exact Nat.le_of_mul_le_mul_left this (by omega)
    refine ofRatio_of_scale x negative (scaleOf_eq low high) ?_
    exact significand_of_roundsTo hd h (.inr down)

end PathQuery.Binary64
