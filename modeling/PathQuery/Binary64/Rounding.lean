import PathQuery.Binary64.Basic

/-!
Rounding of a quotient of natural numbers to the nearest binary64 number, a tie going to the even
significand. All arithmetic of the format is an exact quotient followed by this one rounding.
-/

namespace PathQuery.Binary64

/-- Nearest integer to `num / den`, a tie going to the even one. -/
def divHalfEven (num den : Nat) : Nat :=
  let q := num / den
  let r := num % den
  if 2 * r < den ∨ (2 * r = den ∧ q % 2 = 0) then q else q + 1

theorem div_le_divHalfEven (num den : Nat) : num / den ≤ divHalfEven num den := by
  unfold divHalfEven
  dsimp only
  split <;> omega

theorem divHalfEven_le (num den : Nat) : divHalfEven num den ≤ num / den + 1 := by
  unfold divHalfEven
  dsimp only
  split <;> omega

/-- The scale at which the integer part `n` keeps 53 bits. -/
def scaleOf (n : Nat) : Nat :=
  n.log2 - 52

theorem shiftRight_scaleOf_lt (n : Nat) : n >>> scaleOf n < 1 <<< 53 := by
  rw [Nat.shiftRight_eq_div_pow, Nat.one_shiftLeft, Nat.div_lt_iff_lt_mul (Nat.two_pow_pos _),
    ← Nat.pow_add]
  exact Nat.lt_of_lt_of_le Nat.lt_log2_self
    (Nat.pow_le_pow_right (by decide) (by unfold scaleOf; omega))

theorem le_shiftRight_scaleOf (n : Nat) (h : scaleOf n ≠ 0) : 1 <<< 52 ≤ n >>> scaleOf n := by
  have hn : n ≠ 0 := by
    intro hn
    subst hn
    exact h rfl
  have e : 52 + scaleOf n = n.log2 := by unfold scaleOf at h ⊢; omega
  rw [Nat.shiftRight_eq_div_pow, Nat.one_shiftLeft, Nat.le_div_iff_mul_le (Nat.two_pow_pos _),
    ← Nat.pow_add, e]
  exact Nat.log2_self_le hn

theorem div_shiftLeft (num den k : Nat) : num / (den <<< k) = (num / den) >>> k := by
  rw [Nat.shiftLeft_eq, Nat.shiftRight_eq_div_pow, Nat.div_div_eq_div_mul]

theorem divHalfEven_scaleOf_le (num den : Nat) :
    divHalfEven num (den <<< scaleOf (num / den)) ≤ 1 <<< 53 := by
  have h := divHalfEven_le num (den <<< scaleOf (num / den))
  rw [div_shiftLeft] at h
  have := shiftRight_scaleOf_lt (num / den)
  omega

theorem le_divHalfEven_scaleOf (num den : Nat) (h : scaleOf (num / den) ≠ 0) :
    1 <<< 52 ≤ divHalfEven num (den <<< scaleOf (num / den)) := by
  have h₁ := div_le_divHalfEven num (den <<< scaleOf (num / den))
  rw [div_shiftLeft] at h₁
  have := le_shiftRight_scaleOf (num / den) h
  omega

/-- The number nearest to `num / den` units, `none` when it lies beyond the largest one. -/
def ofRatio (negative : Bool) (num den : Nat) : Option Binary64 :=
  let scale := scaleOf (num / den)
  let significand := divHalfEven num (den <<< scale)
  if hs : significand < 1 <<< 53 then
    if hk : scale ≤ 2045 then
      some ⟨negative, significand, scale, hs, hk, by
        by_cases h0 : scale = 0
        · exact .inl h0
        · exact .inr (le_divHalfEven_scaleOf num den h0)⟩
    else none
  else if hk : scale + 1 ≤ 2045 then
    some ⟨negative, 1 <<< 52, scale + 1, by decide, hk, .inr (Nat.le_refl _)⟩
  else none

end PathQuery.Binary64
