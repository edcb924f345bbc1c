import PathQuery.Proofs.Binary64.Interval

/-!
The shortest numeral of a number reads back as the number. Three facts make it up: a grid fine
enough is among those tried, a point found on a grid is in the interval of the number, and the value
of a numeral alone decides what it reads as.
-/

namespace PathQuery.Binary64

/-! ### Values of numerals -/

theorem powTen_pos (e : Int) : 0 < (powTen e).1 ∧ 0 < (powTen e).2 := by
  unfold powTen
  split
  · exact ⟨Nat.pow_pos (by decide), Nat.one_pos⟩
  · exact ⟨Nat.one_pos, Nat.pow_pos (by decide)⟩

/-- One place more is ten times as much. -/
theorem powTen_succ (e : Int) :
    (powTen (e + 1)).1 * (powTen e).2 = 10 * (powTen e).1 * (powTen (e + 1)).2 := by
  unfold powTen
  by_cases he : 0 ≤ e
  · obtain ⟨n, rfl⟩ := Int.eq_ofNat_of_zero_le he
    have next : ((n : Int) + 1).toNat = n + 1 := by omega
    rw [if_pos he, if_pos (by omega), next]
    simp [Nat.pow_succ, Nat.mul_comm]
  · obtain ⟨n, rfl⟩ : ∃ n : Nat, e = -(n : Int) - 1 := ⟨(-e - 1).toNat, by omega⟩
    have here : (-(-(n : Int) - 1)).toNat = n + 1 := by omega
    rw [if_neg he, here]
    by_cases hn : n = 0
    · subst hn
      rfl
    · have there : (-(-(n : Int) - 1 + 1)).toNat = n := by omega
      rw [if_neg (by omega), there]
      simp [Nat.pow_succ, Nat.mul_comm]

/-- The place of the leading digit, counted from the point. -/
def Decimal.place (d : Decimal) : Int :=
  (digitsOf d.digits).length + d.exponent

theorem ofDecimal_zero (negative : Bool) (e : Int) :
    ofDecimal negative ⟨0, e⟩ = some { zero with negative } := by
  simp [ofDecimal]

theorem ofDecimal_eq (negative : Bool) {d : Decimal} (hd : d.digits ≠ 0) :
    ofDecimal negative d =
      if d.place < -330 then some { zero with negative }
      else if 330 < d.place then none
      else ofRatio negative (d.digits * (powTen d.exponent).1 * unitsPerOne)
        (powTen d.exponent).2 := by
  unfold ofDecimal powTen Decimal.place
  simp only [hd, false_or]
  by_cases he : 0 ≤ d.exponent
  · simp [he]
  · simp [he]

theorem length_digitsOf_mul {n : Nat} (hn : n ≠ 0) :
    (digitsOf (10 * n)).length = (digitsOf n).length + 1 := by
  have digits := Nat.toDigits_append_toDigits (b := 10) (n := n) (d := 0) (by decide) (by omega)
    (by decide)
  rw [digitsOf, digitsOf, if_neg hn, if_neg (by omega), ← Nat.add_zero (10 * n), ← digits,
    List.length_append, Nat.toDigits_zero]
  rfl

/-- A zero at the end and a lower exponent leave the value as it is. -/
theorem ofDecimal_mul_ten (negative : Bool) (n : Nat) (e : Int) :
    ofDecimal negative ⟨10 * n, e⟩ = ofDecimal negative ⟨n, e + 1⟩ := by
  by_cases hn : n = 0
  · subst hn
    rw [ofDecimal_zero, ofDecimal_zero]
  have place : Decimal.place ⟨10 * n, e⟩ = Decimal.place ⟨n, e + 1⟩ := by
    simp only [Decimal.place, length_digitsOf_mul hn]
    omega
  have ratio : ofRatio negative (10 * n * (powTen e).1 * unitsPerOne) (powTen e).2 =
      ofRatio negative (n * (powTen (e + 1)).1 * unitsPerOne) (powTen (e + 1)).2 := by
    refine ofRatio_congr negative (powTen_pos _).2 (powTen_pos _).2 ?_
    calc 10 * n * (powTen e).1 * unitsPerOne * (powTen (e + 1)).2
        = n * unitsPerOne * (10 * (powTen e).1 * (powTen (e + 1)).2) := by ring
      _ = n * unitsPerOne * ((powTen (e + 1)).1 * (powTen e).2) := by rw [powTen_succ]
      _ = n * (powTen (e + 1)).1 * unitsPerOne * (powTen e).2 := by ring
  rw [ofDecimal_eq negative (by simpa using hn), ofDecimal_eq negative hn, place, ratio]

theorem ofDecimal_mul_pow (negative : Bool) (n j : Nat) (e : Int) :
    ofDecimal negative ⟨n * 10 ^ j, e⟩ = ofDecimal negative ⟨n, e + j⟩ := by
  induction j generalizing e with
  | zero => simp
  | succ j ih =>
      have split : n * 10 ^ (j + 1) = 10 * (n * 10 ^ j) := by ring
      rw [split, ofDecimal_mul_ten, ih]
      congr 2
      push_cast
      ring

theorem ofDecimal_stripZeros (negative : Bool) (fuel n : Nat) (e : Int) :
    ofDecimal negative (stripZeros fuel n e) = ofDecimal negative ⟨n, e⟩ := by
  induction fuel generalizing n e with
  | zero => rfl
  | succ fuel ih =>
      unfold stripZeros
      split
      · rename_i hn
        rw [ih, ← ofDecimal_mul_ten]
        congr 2
        omega
      · rfl

/-! ### Points of a grid -/

/-- A point of a grid, in parts of a unit. -/
def gridPoint (d : Nat) (e : Int) : Nat :=
  d * (powTen e).1 * unitsPerOne

theorem four_mul_step (d : Nat) (e : Int) :
    4 * d * ((powTen e).1 * unitsPerOne) = 4 * gridPoint d e := by
  unfold gridPoint
  ring

theorem onGrid?_roundsTo {x : Binary64} {e : Int} {d : Nat} (h : onGrid? x e = some d) :
    roundsTo x (4 * gridPoint d e) (powTen e).2 ∧ d ≠ 0 := by
  unfold onGrid? at h
  simp only [four_mul_step] at h
  generalize x.magnitude * (powTen e).2 / ((powTen e).1 * unitsPerOne) = below at h
  split at h
  · rename_i hb ha
    simp only [Bool.and_eq_true, bne_iff_ne] at hb
    cases h
    split
    · exact hb
    · exact ⟨ha, by omega⟩
  · rename_i hb _
    simp only [Bool.and_eq_true, bne_iff_ne] at hb
    cases h
    exact hb
  · rename_i _ ha
    cases h
    exact ⟨ha, by omega⟩
  · cases h

theorem roundsTo_of_lt {x : Binary64} {num den : Nat}
    (hl : (4 * x.magnitude - (halfGaps x).1) * den < num)
    (hu : num < (4 * x.magnitude + (halfGaps x).2) * den) : roundsTo x num den := by
  unfold roundsTo
  dsimp only
  split
  · simp [hl.le, hu.le]
  · simp [hl, hu]

theorem scale_le_magnitude {x : Binary64} (hx : x.magnitude ≠ 0) :
    2 ^ x.scale ≤ x.magnitude := by
  rw [magnitude_eq] at hx ⊢
  exact Nat.le_mul_of_pos_left _ (Nat.pos_of_ne_zero fun h0 => hx (by simp [h0]))

theorem magnitude_lt (x : Binary64) : x.magnitude < 2 ^ 2098 := by
  rw [magnitude_eq]
  calc x.significand * 2 ^ x.scale < 2 ^ 53 * 2 ^ x.scale :=
        Nat.mul_lt_mul_of_pos_right x.significand_lt (Nat.two_pow_pos _)
    _ ≤ 2 ^ 53 * 2 ^ 2045 := Nat.mul_le_mul_left _ (Nat.pow_le_pow_right (by decide) x.scale_le)
    _ ≤ 2 ^ 2098 := by decide +kernel

/-- A grid whose points lie no more than a quarter of a unit in the last place apart has one in the
interval of `x`, the next one below `x`. -/
theorem onGrid?_isSome {x : Binary64} {e : Int} (hx : x.magnitude ≠ 0)
    (h : 4 * ((powTen e).1 * unitsPerOne) ≤ 2 ^ x.scale * (powTen e).2) :
    (onGrid? x e).isSome := by
  have hd := (powTen_pos e).2
  have step : 0 < (powTen e).1 * unitsPerOne := Nat.mul_pos (powTen_pos e).1 (by decide)
  have unit := scale_le_magnitude hx
  have value : 2 ^ x.scale * (powTen e).2 ≤ x.magnitude * (powTen e).2 :=
    Nat.mul_le_mul_right _ unit
  have positive : x.magnitude * (powTen e).2 / ((powTen e).1 * unitsPerOne) ≠ 0 := by
    have := Nat.div_pos (a := x.magnitude * (powTen e).2) (by omega) step
    omega
  have fits : roundsTo x
      (4 * gridPoint (x.magnitude * (powTen e).2 / ((powTen e).1 * unitsPerOne)) e)
      (powTen e).2 := by
    -- the point is less than a step below the number, and the half gap is more than a step
    have below := Nat.div_mul_le_self (x.magnitude * (powTen e).2) ((powTen e).1 * unitsPerOne)
    have above := Nat.lt_div_mul_add (a := x.magnitude * (powTen e).2) step
    have down : 2 ^ x.scale ≤ (halfGaps x).1 := by
      rw [halfGaps_down]
      split <;> omega
    have gap : 2 ^ x.scale * (powTen e).2 ≤ (halfGaps x).1 * (powTen e).2 :=
      Nat.mul_le_mul_right _ down
    have up : 0 < (halfGaps x).2 * (powTen e).2 := by
      rw [halfGaps_up]
      positivity
    rw [gridPoint, Nat.mul_assoc]
    refine roundsTo_of_lt ?_ ?_
    · rw [Nat.sub_mul, Nat.mul_assoc]
      omega
    · rw [Nat.add_mul, Nat.mul_assoc]
      omega
  unfold onGrid?
  simp only [four_mul_step, fits]
  rw [Bool.true_and, bne_iff_ne.2 positive]
  split <;> simp_all

/-! ### The search for a grid -/

theorem leadingExponent_le (x : Binary64) (fuel : Nat) (e : Int) :
    leadingExponent x fuel e ≤ e := by
  induction fuel generalizing e with
  | zero => exact le_refl e
  | succ fuel ih =>
      unfold leadingExponent
      dsimp only
      split
      · exact le_refl e
      · exact (ih (e - 1)).trans (by omega)

/-- Where one of the grids to be tried has a point, the search ends on a point of a grid. -/
theorem shortestFrom_eq (x : Binary64) (lead : Int) (fuel places : Nat)
    (h : ∃ n, n < fuel ∧ (onGrid? x (lead - (places + n : Nat))).isSome) :
    ∃ e d, onGrid? x e = some d ∧ shortestFrom x lead fuel places = stripZeros 20 d e := by
  induction fuel generalizing places with
  | zero =>
      obtain ⟨n, hn, -⟩ := h
      omega
  | succ fuel ih =>
      unfold shortestFrom
      dsimp only
      cases hg : onGrid? x (lead - places) with
      | some d => exact ⟨_, d, hg, rfl⟩
      | none =>
          obtain ⟨n, hn, hs⟩ := h
          cases n with
          | zero => simp [hg] at hs
          | succ n =>
              refine ih (places + 1) ⟨n, by omega, ?_⟩
              rwa [show places + 1 + n = places + (n + 1) by omega]

/-- The decimal exponent at which the search starts, from that of the leading bit. -/
def firstExponent (n : Nat) : Int :=
  ((n : Int) - 1074) * 30103 / 100000 + 1

/-- Nineteen places further down, the points of the grid lie closer than numbers with that leading
bit. -/
theorem grid_fine : ∀ n < 2099,
    (powTen (firstExponent n - 19)).1 * (2 ^ 53 * (4 * unitsPerOne)) ≤
      2 ^ n * (powTen (firstExponent n - 19)).2 := by
  -- as one Boolean value, since two thousand decisions take much longer
  have all : (List.range 2099).all (fun n => Nat.ble
      ((powTen (firstExponent n - 19)).1 * (2 ^ 53 * (4 * unitsPerOne)))
      (2 ^ n * (powTen (firstExponent n - 19)).2)) = true := by
    decide +kernel
  exact fun n hn => Nat.le_of_ble_eq_true (List.all_eq_true.1 all n (List.mem_range.2 hn))

theorem powTen_mono (e : Int) (j : Nat) :
    (powTen e).1 * (powTen (e + j)).2 ≤ (powTen (e + j)).1 * (powTen e).2 := by
  induction j with
  | zero => simp
  | succ j ih =>
      have next := powTen_succ (e + j)
      have positive := (powTen_pos (e + j)).2
      push_cast
      rw [← Int.add_assoc]
      refine Nat.le_of_mul_le_mul_right ?_ positive
      calc (powTen e).1 * (powTen (e + j + 1)).2 * (powTen (e + j)).2
          = (powTen e).1 * (powTen (e + j)).2 * (powTen (e + j + 1)).2 := by ring
        _ ≤ (powTen (e + j)).1 * (powTen e).2 * (powTen (e + j + 1)).2 :=
            Nat.mul_le_mul_right _ ih
        _ ≤ 10 * ((powTen (e + j)).1 * (powTen e).2 * (powTen (e + j + 1)).2) :=
            Nat.le_mul_of_pos_left _ (by decide)
        _ = 10 * (powTen (e + j)).1 * (powTen (e + j + 1)).2 * (powTen e).2 := by ring
        _ = (powTen (e + j + 1)).1 * (powTen (e + j)).2 * (powTen e).2 := by rw [next]
        _ = (powTen (e + j + 1)).1 * (powTen e).2 * (powTen (e + j)).2 := by ring

theorem log2_magnitude_lt (x : Binary64) (hx : x.magnitude ≠ 0) :
    x.magnitude.log2 < 53 + x.scale := by
  rw [Nat.log2_lt hx, magnitude_eq, Nat.pow_add]
  exact Nat.mul_lt_mul_of_pos_right x.significand_lt (Nat.two_pow_pos _)

/-- Any grid nineteen places below the start of the search, or further, has a point. -/
theorem onGrid?_of_le {x : Binary64} {e : Int} (hx : x.magnitude ≠ 0)
    (he : e ≤ firstExponent x.magnitude.log2 - 19) : (onGrid? x e).isSome := by
  refine onGrid?_isSome hx ?_
  have log := log2_magnitude_lt x hx
  have scale := x.scale_le
  have fine := grid_fine x.magnitude.log2 (by omega)
  obtain ⟨j, hj⟩ : ∃ j : Nat, firstExponent x.magnitude.log2 - 19 = e + j :=
    ⟨(firstExponent x.magnitude.log2 - 19 - e).toNat, by omega⟩
  rw [hj] at fine
  have mono := powTen_mono e j
  have bit : 2 ^ x.magnitude.log2 ≤ 2 ^ 53 * 2 ^ x.scale := by
    rw [← Nat.pow_add]
    exact Nat.pow_le_pow_right (by decide) log.le
  have positive := (powTen_pos (e + j)).2
  generalize unitsPerOne = units at *
  have coarse : (powTen (e + j)).1 * (4 * units) ≤ 2 ^ x.scale * (powTen (e + j)).2 := by
    refine Nat.le_of_mul_le_mul_left ?_ (Nat.two_pow_pos 53)
    calc 2 ^ 53 * ((powTen (e + j)).1 * (4 * units))
        = (powTen (e + j)).1 * (2 ^ 53 * (4 * units)) := by ring
      _ ≤ 2 ^ x.magnitude.log2 * (powTen (e + j)).2 := fine
      _ ≤ 2 ^ 53 * 2 ^ x.scale * (powTen (e + j)).2 := Nat.mul_le_mul_right _ bit
      _ = 2 ^ 53 * (2 ^ x.scale * (powTen (e + j)).2) := by ring
  refine Nat.le_of_mul_le_mul_right ?_ positive
  calc 4 * ((powTen e).1 * units) * (powTen (e + j)).2
      = (powTen e).1 * (powTen (e + j)).2 * (4 * units) := by ring
    _ ≤ (powTen (e + j)).1 * (powTen e).2 * (4 * units) := Nat.mul_le_mul_right _ mono
    _ = (powTen (e + j)).1 * (4 * units) * (powTen e).2 := by ring
    _ ≤ 2 ^ x.scale * (powTen (e + j)).2 * (powTen e).2 := Nat.mul_le_mul_right _ coarse
    _ = 2 ^ x.scale * (powTen e).2 * (powTen (e + j)).2 := by ring

theorem shortest_eq (x : Binary64) (hx : x.magnitude ≠ 0) :
    ∃ e d, onGrid? x e = some d ∧ shortest x = stripZeros 20 d e := by
  have lead := leadingExponent_le x 5 (firstExponent x.magnitude.log2)
  unfold shortest
  rw [if_neg hx]
  refine shortestFrom_eq x _ 20 0 ⟨19, by decide, onGrid?_of_le hx ?_⟩
  change leadingExponent x 5 (firstExponent x.magnitude.log2) - (0 + 19 : Nat) ≤ _
  omega

/-! ### The place of the leading digit -/

theorem powTen_eq (e : Int) : powTen e = (10 ^ e.toNat, 10 ^ (-e).toNat) := by
  unfold powTen
  split
  · rw [show (-e).toNat = 0 by omega]
    rfl
  · rw [show e.toNat = 0 by omega]
    rfl

theorem lt_pow_length {n : Nat} (hn : n ≠ 0) : n < 10 ^ (digitsOf n).length := by
  rw [digitsOf, if_neg hn]
  exact (Nat.length_toDigits_le_iff (by decide) Nat.length_toDigits_pos).1 (le_refl _)

theorem pow_length_le {n : Nat} (hn : n ≠ 0) : 10 ^ ((digitsOf n).length - 1) ≤ n := by
  rw [digitsOf, if_neg hn]
  by_cases h1 : (Nat.toDigits 10 n).length = 1
  · rw [h1]
    exact Nat.one_le_iff_ne_zero.2 hn
  · have several : 0 < (Nat.toDigits 10 n).length - 1 := by
      have := Nat.length_toDigits_pos (b := 10) (n := n)
      omega
    have := mt (Nat.length_toDigits_le_iff (b := 10) (n := n) (by decide) several).2 (by omega)
    omega

theorem roundsTo_grid {x : Binary64} {e : Int} {d : Nat}
    (h : roundsTo x (4 * gridPoint d e) (powTen e).2) :
    (4 * x.magnitude - (halfGaps x).1) * 10 ^ (-e).toNat ≤ 4 * (d * 10 ^ e.toNat * unitsPerOne) ∧
      4 * (d * 10 ^ e.toNat * unitsPerOne) ≤
        (4 * x.magnitude + 2 * 2 ^ x.scale) * 10 ^ (-e).toNat := by
  obtain ⟨low, high, -⟩ := roundsTo_bounds h
  rw [powTen_eq] at low high
  unfold gridPoint at low high
  rw [powTen_eq] at low high
  rw [halfGaps_up] at high
  exact ⟨low, high⟩

/-- A numeral in the interval of a number other than zero is not too small for it: half the least
number is more than `10 ^ -324`. -/
theorem lt_of_roundsTo {x : Binary64} {e : Int} {d : Nat} (hx : x.magnitude ≠ 0) (hd : d ≠ 0)
    (h : roundsTo x (4 * gridPoint d e) (powTen e).2) :
    10 ^ (-e).toNat < 10 ^ ((digitsOf d).length + e.toNat + 324) := by
  have low := (roundsTo_grid h).1
  have unit := scale_le_magnitude hx
  have down : (halfGaps x).1 ≤ 2 * 2 ^ x.scale := by
    rw [halfGaps_down]
    split <;> omega
  have one := Nat.two_pow_pos x.scale
  have units : 0 < unitsPerOne := by decide +kernel
  have small : (2 : Nat) * unitsPerOne ≤ 10 ^ 324 := by decide +kernel
  have interval : 2 * 10 ^ (-e).toNat ≤
      (4 * x.magnitude - (halfGaps x).1) * 10 ^ (-e).toNat :=
    Nat.mul_le_mul_right _ (by omega)
  calc 10 ^ (-e).toNat ≤ d * 10 ^ e.toNat * (2 * unitsPerOne) := by
        nlinarith only [interval, low]
    _ < 10 ^ (digitsOf d).length * 10 ^ e.toNat * (2 * unitsPerOne) := by
        refine Nat.mul_lt_mul_of_pos_right ?_ (by omega)
        exact Nat.mul_lt_mul_of_pos_right (lt_pow_length hd) (Nat.pow_pos (by decide))
    _ ≤ 10 ^ (digitsOf d).length * 10 ^ e.toNat * 10 ^ 324 := Nat.mul_le_mul_left _ small
    _ = 10 ^ ((digitsOf d).length + e.toNat + 324) := by rw [Nat.pow_add, Nat.pow_add]

/-- Nor is it too large: no number goes beyond `10 ^ 309`. -/
theorem le_of_roundsTo {x : Binary64} {e : Int} {d : Nat} (hd : d ≠ 0)
    (h : roundsTo x (4 * gridPoint d e) (powTen e).2) :
    10 ^ ((digitsOf d).length - 1 + e.toNat) ≤ 10 ^ (309 + (-e).toNat) := by
  have high := (roundsTo_grid h).2
  have bound := magnitude_lt x
  have gap : 2 * 2 ^ x.scale ≤ 2 ^ 2098 := by
    calc 2 * 2 ^ x.scale ≤ 2 * 2 ^ 2045 :=
          Nat.mul_le_mul_left 2 (Nat.pow_le_pow_right (by decide) x.scale_le)
      _ ≤ 2 ^ 2098 := by decide +kernel
  have large : (2 : Nat) ^ 2099 ≤ 10 ^ 309 * unitsPerOne := by decide +kernel
  have units : 0 < unitsPerOne := by decide +kernel
  have most : d * (10 ^ e.toNat * unitsPerOne) ≤ 2 ^ 2099 * 10 ^ (-e).toNat := by
    refine Nat.le_of_mul_le_mul_left ?_ (show 0 < 4 by decide)
    calc 4 * (d * (10 ^ e.toNat * unitsPerOne))
        = 4 * (d * 10 ^ e.toNat * unitsPerOne) := by rw [Nat.mul_assoc d]
      _ ≤ (4 * x.magnitude + 2 * 2 ^ x.scale) * 10 ^ (-e).toNat := high
      _ ≤ 4 * 2 ^ 2099 * 10 ^ (-e).toNat := Nat.mul_le_mul_right _ (by omega)
      _ = 4 * (2 ^ 2099 * 10 ^ (-e).toNat) := Nat.mul_assoc _ _ _
  refine Nat.le_of_mul_le_mul_right ?_ units
  calc 10 ^ ((digitsOf d).length - 1 + e.toNat) * unitsPerOne
      = 10 ^ ((digitsOf d).length - 1) * (10 ^ e.toNat * unitsPerOne) := by
        rw [Nat.pow_add, Nat.mul_assoc]
    _ ≤ d * (10 ^ e.toNat * unitsPerOne) := Nat.mul_le_mul_right _ (pow_length_le hd)
    _ ≤ 2 ^ 2099 * 10 ^ (-e).toNat := most
    _ ≤ 10 ^ 309 * unitsPerOne * 10 ^ (-e).toNat := Nat.mul_le_mul_right _ large
    _ = 10 ^ (309 + (-e).toNat) * unitsPerOne := by
        rw [Nat.pow_add, Nat.mul_right_comm]

/-- Numerals in the interval of a number other than zero have their leading digit at a place that a
number can have. -/
theorem place_of_roundsTo {x : Binary64} {e : Int} {d : Nat} (hx : x.magnitude ≠ 0) (hd : d ≠ 0)
    (h : roundsTo x (4 * gridPoint d e) (powTen e).2) :
    -330 ≤ Decimal.place ⟨d, e⟩ ∧ Decimal.place ⟨d, e⟩ ≤ 330 := by
  have positive : 0 < (digitsOf d).length := by
    by_contra h0
    have top := lt_pow_length hd
    rw [show (digitsOf d).length = 0 by omega] at top
    omega
  have low := (Nat.pow_lt_pow_iff_right (by decide)).1 (lt_of_roundsTo hx hd h)
  have high := (Nat.pow_le_pow_iff_right (by decide)).1 (le_of_roundsTo hd h)
  unfold Decimal.place
  dsimp only
  omega

/-- The shortest numeral of a number reads back as the number, under either sign. -/
theorem ofDecimal_shortest (x : Binary64) (negative : Bool) :
    ofDecimal negative (shortest x) = some { x with negative } := by
  by_cases hx : x.magnitude = 0
  · unfold shortest
    rw [if_pos hx, ofDecimal_zero]
    obtain ⟨sign, m, k, hm, hk, hn⟩ := x
    obtain rfl : m = 0 := by
      rw [magnitude_eq] at hx
      simpa using hx
    obtain rfl : k = 0 := hn.resolve_right (by decide)
    rfl
  · obtain ⟨e, d, point, shortest⟩ := shortest_eq x hx
    obtain ⟨inside, hd⟩ := onGrid?_roundsTo point
    obtain ⟨low, high⟩ := place_of_roundsTo hx hd inside
    rw [shortest, ofDecimal_stripZeros, ofDecimal_eq negative hd, if_neg (by omega),
      if_neg (by omega)]
    exact ofRatio_of_roundsTo (powTen_pos e).2 inside negative

end PathQuery.Binary64
