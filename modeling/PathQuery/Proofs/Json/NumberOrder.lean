import Mathlib.Order.Defs.LinearOrder
import PathQuery.Json.Basic
import PathQuery.Proofs.Binary64.Integers

/-!
The order of numbers. Two integers are compared exactly, and a float with anything else as floats,
so that a float may equal several integers. Among numbers where none does the comparison is a total
preorder, and only there: the one way in which it fails to be transitive is a float between two
integers that it both equals.
-/

namespace PathQuery.Number

/-- The numbers that documents hold: integers of 64 bits, with a sign or without, and all finite
floats. -/
def Admitted : Number → Prop
  | int n => isExact n
  | float _ => True

/-- The number as a float, in the units of the format. -/
def units (x : Number) : Int :=
  x.toBinary64.units

theorem admitted_int {n : Int} : (int n).Admitted ↔ -(2 ^ 63) ≤ n ∧ n < 2 ^ 64 := by
  change isExact n = true ↔ _
  unfold isExact minInt64 maxUInt64
  rw [Bool.and_eq_true, decide_eq_true_eq, decide_eq_true_eq]
  omega

theorem fitsInt64_iff {n : Int} : fitsInt64 n ↔ -(2 ^ 63) ≤ n ∧ n < 2 ^ 63 := by
  unfold fitsInt64 minInt64 maxInt64
  rw [Bool.and_eq_true, decide_eq_true_eq, decide_eq_true_eq]
  omega

theorem units_int {n : Int} (h : (int n).Admitted) : (int n).units = Binary64.unitsOfInt n := by
  have bounds := admitted_int.1 h
  obtain ⟨x, hx, same⟩ := Binary64.ofInt_units (show n.natAbs < 2 ^ 64 by omega)
  rw [units, toBinary64, hx, Option.getD_some, same]

variable {x y z : Number}

theorem compare_swap (x y : Number) : (x.compare y).swap = y.compare x := by
  have oriented (a b : Int) : (Ord.compare a b).swap = Ord.compare b a :=
    Std.OrientedOrd.eq_swap.symm
  cases x <;> cases y <;> exact oriented _ _

theorem compare_self (x : Number) : x.compare x = .eq := by
  cases x <;> exact Std.ReflOrd.compare_self

/-- What is not greater is not greater as a float either. -/
theorem units_le (hx : x.Admitted) (hy : y.Admitted) (h : x.compare y ≠ .gt) :
    x.units ≤ y.units := by
  cases x with
  | int m =>
      cases y with
      | int n =>
          rw [units_int hx, units_int hy]
          exact Binary64.unitsOfInt_mono (compare_le_iff_le.1 h)
      | float g => exact compare_le_iff_le.1 h
  | float f => cases y <;> exact compare_le_iff_le.1 h

/-- Rounding may bring together what it keeps in order, so the failure of transitivity has one form:
the float in the middle equals both integers. -/
theorem compare_trans_or (hx : x.Admitted) (hy : y.Admitted) (hz : z.Admitted)
    (hxy : x.compare y ≠ .gt) (hyz : y.compare z ≠ .gt) :
    x.compare z ≠ .gt ∨ ∃ m f n, x = int m ∧ y = float f ∧ z = int n ∧ m ≠ n ∧
      (int m).compare (float f) = .eq ∧ (int n).compare (float f) = .eq := by
  have first := units_le hx hy hxy
  have second := units_le hy hz hyz
  cases x with
  | float f => left; cases z <;> exact compare_le_iff_le.2 (first.trans second)
  | int m =>
      cases z with
      | float g => exact .inl (compare_le_iff_le.2 (first.trans second))
      | int n =>
          by_cases ordered : m ≤ n
          · exact .inl (compare_le_iff_le.2 ordered)
          · cases y with
            | int k =>
                have hmk : m ≤ k := compare_le_iff_le.1 hxy
                have hkn : k ≤ n := compare_le_iff_le.1 hyz
                omega
            | float f =>
                -- the greater integer is the greater float, so all three are the same one
                have third : (int n).units ≤ (int m).units :=
                  units_le hz hx (compare_le_iff_le.2 (by omega))
                refine .inr ⟨m, f, n, rfl, rfl, rfl, by omega, ?_, ?_⟩
                · exact compare_eq_iff_eq.2 (first.antisymm (second.trans third))
                · exact compare_eq_iff_eq.2 ((third.trans first).antisymm second)

/-- No float among the numbers equals two of the integers. -/
def Coherent (N : Number → Prop) : Prop :=
  ∀ m n f, N (int m) → N (int n) → N (float f) → (int m).compare (float f) = .eq →
    (int n).compare (float f) = .eq → m = n

variable {N : Number → Prop}

/-- Integers of at most 53 bits are coherent with all floats. -/
theorem coherent_of_small (h : ∀ n, N (int n) → n.natAbs ≤ 2 ^ 53) : Coherent N := by
  have unrounded {n : Int} (hn : N (int n)) : (int n).units = n * Binary64.unitsPerOne := by
    have small := h n hn
    have admitted : (int n).Admitted := admitted_int.2 (by omega)
    rw [units_int admitted, Binary64.unitsOfInt_of_le small]
  intro m n f hm hn _ hmf hnf
  have same : (int m).units = (int n).units :=
    (compare_eq_iff_eq.1 hmf).trans (compare_eq_iff_eq.1 hnf).symm
  rw [unrounded hm, unrounded hn] at same
  have one : (Binary64.unitsPerOne : Int) ≠ 0 := by
    exact_mod_cast Binary64.unitsPerOne_pos.ne'
  exact Int.eq_of_mul_eq_mul_right one same

/-- Being at most as great is transitive among coherent numbers, and among no others. -/
theorem coherent_iff_trans (admitted : ∀ x, N x → x.Admitted) :
    Coherent N ↔ ∀ x y z, N x → N y → N z → x.compare y ≠ .gt → y.compare z ≠ .gt →
      x.compare z ≠ .gt := by
  constructor
  · intro coherent x y z hx hy hz hxy hyz
    rcases compare_trans_or (admitted x hx) (admitted y hy) (admitted z hz) hxy hyz with
      h | ⟨m, f, n, rfl, rfl, rfl, different, hm, hn⟩
    · exact h
    · exact absurd (coherent m n f hx hz hy hm hn) different
  · intro trans m n f hm hn hf hmf hnf
    have below {k l : Int} (hk : N (int k)) (hl : N (int l))
        (hkf : (int k).compare (float f) = .eq) (hlf : (int l).compare (float f) = .eq) :
        k ≤ l := by
      have back : (float f).compare (int l) = .eq := by
        rw [← compare_swap, hlf]
        rfl
      exact compare_le_iff_le.1 (trans _ _ _ hk hf hl (by simp [hkf]) (by simp [back]))
    exact (below hm hn hmf hnf).antisymm (below hn hm hnf hmf)

theorem Coherent.compare_eq_trans (coherent : Coherent N) (admitted : ∀ x, N x → x.Admitted)
    (hx : N x) (hy : N y) (hz : N z) (hxy : x.compare y = .eq) (hyz : y.compare z = .eq) :
    x.compare z = .eq := by
  have trans := (coherent_iff_trans admitted).1 coherent
  have up : x.compare z ≠ .gt := trans x y z hx hy hz (by simp [hxy]) (by simp [hyz])
  have down : z.compare x ≠ .gt :=
    trans z y x hz hy hx (by simp [← compare_swap y, hyz]) (by simp [← compare_swap x, hxy])
  rw [← compare_swap x] at down
  cases h : x.compare z with
  | lt => simp [h] at down
  | eq => rfl
  | gt => exact absurd h up

/-! ### The rule of a pair -/

/-- Two integers that fit signed ones of 64 bits are compared as such, two others that are not
negative as unsigned ones, and all other pairs as floats. -/
def compareByRule : Number → Number → Ordering
  | int m, int n =>
    if fitsInt64 m ∧ fitsInt64 n then Ord.compare m n
    else if 0 ≤ m ∧ 0 ≤ n then Ord.compare m n
    else Ord.compare (int m).units (int n).units
  | x, y => Ord.compare x.units y.units

theorem units_neg_lt_pos {m n : Int} (hm : (int m).Admitted) (hn : (int n).Admitted) (neg : m < 0)
    (pos : 0 < n) : (int m).units < (int n).units := by
  have low := Binary64.unitsOfInt_mono (show m ≤ -1 by omega)
  have high := Binary64.unitsOfInt_mono (show 1 ≤ n by omega)
  have one : (0 : Int) < Binary64.unitsPerOne := by
    exact_mod_cast Binary64.unitsPerOne_pos
  rw [units_int hm, units_int hn]
  calc Binary64.unitsOfInt m ≤ Binary64.unitsOfInt (-1) := low
    _ = -1 * Binary64.unitsPerOne := Binary64.unitsOfInt_of_le (by decide)
    _ < 1 * Binary64.unitsPerOne := by omega
    _ = Binary64.unitsOfInt 1 := (Binary64.unitsOfInt_of_le (by decide)).symm
    _ ≤ Binary64.unitsOfInt n := high

/-- Of two integers that do not both fit with a sign, one is beyond them. -/
theorem large_of_not_signed {m n : Int} (hm : (int m).Admitted) (hn : (int n).Admitted)
    (signed : ¬ (fitsInt64 m ∧ fitsInt64 n)) : 2 ^ 63 ≤ m ∨ 2 ^ 63 ≤ n := by
  have hm := admitted_int.1 hm
  have hn := admitted_int.1 hn
  by_contra small
  exact signed ⟨fitsInt64_iff.2 (by omega), fitsInt64_iff.2 (by omega)⟩

/-- The integers that are compared as floats differ in their signs, which rounding keeps. -/
theorem compare_eq_compareByRule (hx : x.Admitted) (hy : y.Admitted) :
    x.compare y = x.compareByRule y := by
  cases x with
  | float f => cases y <;> rfl
  | int m =>
      cases y with
      | float g => rfl
      | int n =>
          rw [compareByRule]
          split
          · rfl
          · rename_i signed
            split
            · rfl
            · rename_i unsigned
              rcases large_of_not_signed hx hy signed with hm | hn
              · have neg : n < 0 := by omega
                have greater := units_neg_lt_pos hy hx neg (by omega)
                rw [compare_gt_iff_gt.2 greater]
                exact compare_gt_iff_gt.2 (by omega)
              · have neg : m < 0 := by omega
                have less := units_neg_lt_pos hx hy neg (by omega)
                rw [compare_lt_iff_lt.2 less]
                exact compare_lt_iff_lt.2 (by omega)

end PathQuery.Number
