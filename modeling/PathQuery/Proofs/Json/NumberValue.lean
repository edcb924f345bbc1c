import Mathlib
import PathQuery.Json.Basic
import PathQuery.Proofs.Binary64.Integers
import PathQuery.Proofs.Json.NumberOrder

/-!
The rational number that a number stands for, and what becomes of it when a float is made a number:
it is kept, whether as an integer or as a float, for all floats but one. The range of integers is
closed at `2 ^ 63`, which is a float and no integer of 64 bits.
-/

namespace PathQuery

/-- The rational number that a float stands for. -/
def Binary64.value (x : Binary64) : ℚ :=
  x.units / unitsPerOne

def Number.value : Number → ℚ
  | .int n => n
  | .float x => x.value

namespace Binary64

variable {x : Binary64}

theorem unitsPerOne_ne_zero : (unitsPerOne : ℚ) ≠ 0 :=
  Nat.cast_ne_zero.2 unitsPerOne_pos.ne'

theorem value_eq_intCast {n : ℤ} : x.value = n ↔ x.units = n * unitsPerOne := by
  rw [value, div_eq_iff unitsPerOne_ne_zero]
  exact_mod_cast Iff.rfl

/-- A float is a whole number just when its value is. -/
theorem toInt?_eq_some_iff {n : ℤ} : x.toInt? = some n ↔ x.value = n := by
  have positive : (0 : ℤ) < unitsPerOne := Int.natCast_pos.2 unitsPerOne_pos
  rw [value_eq_intCast, toInt?, units]
  generalize x.magnitude = m
  generalize unitsPerOne = u at *
  constructor
  · intro h
    split at h
    · rename_i whole
      have exactly : (m : ℤ) = m / u * u := by
        rw [Int.ediv_mul_cancel]
        exact_mod_cast Nat.dvd_of_mod_eq_zero whole
      obtain rfl := Option.some.inj h
      split
      · rw [Int.neg_mul, ← exactly]
      · exact exactly
    · cases h
  · intro h
    have multiple : (u : ℤ) ∣ m := by
      split at h
      · exact ⟨-n, by rw [Int.mul_neg, Int.mul_comm, ← h, Int.neg_neg]⟩
      · exact ⟨n, by rw [h, Int.mul_comm]⟩
    rw [if_pos (Nat.mod_eq_zero_of_dvd (Int.natCast_dvd_natCast.1 multiple)), Option.some.injEq]
    split
    · rename_i negative
      rw [if_pos negative] at h
      rw [show (m : ℤ) = -n * u by rw [Int.neg_mul, ← h, Int.neg_neg],
        Int.mul_ediv_cancel _ positive.ne', Int.neg_neg]
    · rename_i negative
      rw [if_neg negative] at h
      rw [h, Int.mul_ediv_cancel _ positive.ne']

end Binary64

namespace Number

variable {x : Binary64}

/-- A whole number of 64 bits comes back as an integer. -/
theorem ofBinary64_of_fits {n : ℤ} (h : x.value = n) (fits : fitsInt64 n) :
    ofBinary64 x = .int n := by
  have bounds := fitsInt64_iff.1 fits
  rw [ofBinary64, Binary64.toInt?_eq_some_iff.2 h]
  dsimp only
  unfold minInt64 maxInt64
  rw [if_pos (by simp; omega), min_eq_left (by omega)]

/-- The float at the upper end of the range becomes the integer below it. -/
theorem ofBinary64_of_top (h : x.value = 2 ^ 63) : ofBinary64 x = .int (2 ^ 63 - 1) := by
  have whole : x.toInt? = some (2 ^ 63) := Binary64.toInt?_eq_some_iff.2 (by rw [h]; norm_num)
  rw [ofBinary64, whole]
  rfl

/-- Any other float is kept as it is. -/
theorem ofBinary64_of_not_fits (h : ∀ n : ℤ, x.value = n → n ≠ 2 ^ 63 ∧ ¬ fitsInt64 n) :
    ofBinary64 x = .float x := by
  unfold ofBinary64
  split
  · rename_i n whole
    obtain ⟨below, beyond⟩ := h n (Binary64.toInt?_eq_some_iff.1 whole)
    rw [fitsInt64_iff] at beyond
    unfold minInt64 maxInt64
    rw [if_neg (by simp; omega)]
  · rfl

/-- The value of a float is kept, except that of the float at the upper end of the range. -/
theorem value_ofBinary64 (x : Binary64) :
    (ofBinary64 x).value = if x.value = 2 ^ 63 then 2 ^ 63 - 1 else x.value := by
  split
  · rename_i top
    rw [ofBinary64_of_top top]
    norm_num [value]
  rename_i top
  by_cases whole : ∃ n : ℤ, x.value = n ∧ fitsInt64 n
  · obtain ⟨n, h, fits⟩ := whole
    rw [ofBinary64_of_fits h fits, value, h]
  · have kept : ofBinary64 x = .float x := by
      refine ofBinary64_of_not_fits fun n h => ⟨?_, fun fits => whole ⟨n, h, fits⟩⟩
      rintro rfl
      exact top (by rw [h]; norm_num)
    rw [kept, value]

theorem value_ofBinary64_eq_iff : (ofBinary64 x).value = x.value ↔ x.value ≠ 2 ^ 63 := by
  rw [value_ofBinary64]
  split
  · rename_i top
    rw [top]
    norm_num
  · rename_i other
    exact iff_of_true rfl other

end Number

end PathQuery
