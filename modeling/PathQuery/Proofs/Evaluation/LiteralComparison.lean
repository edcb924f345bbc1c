import PathQuery.Proofs.Evaluation.Equations
import PathQuery.Proofs.Evaluation.Operators
import PathQuery.Proofs.Query.RoundTrip

/-!
Comparing the document with an integer that is written in the query. The integers of a document are
those of 64 bits, with a sign or without; of the integers in a query only the signed ones are kept,
and one beyond them is read as the nearest float. So the comparison is exact for the signed ones,
and for one beyond them just with the integers that are another float.
-/

namespace PathQuery

/-! ### Integers in a query -/

namespace Number

variable {m n : Int}

/-- The number that an integer in a query is read as. -/
def written (m : Int) : Number :=
  if fitsInt64 m then int m else float (int m).toBinary64

theorem int64OfText?_beyond (h : ¬ fitsInt64 m) :
    int64OfText? (String.ofList (intChars m)) = none := by
  have value : (if decide (m < 0) = true then -(m.natAbs : Int) else m.natAbs) = m := by
    simp only [decide_eq_true_eq]
    omega
  unfold int64OfText?
  simp only [String.toList_ofList, splitSign_intChars, natOfDigits_toDigits, value]
  simp [h]

/-- Decimal digits without a point are the integer itself. -/
theorem ofDecimal_nat (negative : Bool) {k : Nat} (h0 : k ≠ 0) (h : k < 2 ^ 64) :
    Binary64.ofDecimal negative ⟨k, 0⟩ =
      Binary64.ofRatio negative (k * Binary64.unitsPerOne) 1 := by
  have places : (Binary64.digitsOf k).length ≤ 20 := by
    by_contra many
    have least := Binary64.pow_length_le h0
    have tall : 10 ^ 20 ≤ 10 ^ ((Binary64.digitsOf k).length - 1) :=
      Nat.pow_le_pow_right (by decide) (by omega)
    omega
  have place : (⟨k, 0⟩ : Binary64.Decimal).place = (Binary64.digitsOf k).length := by
    simp [Binary64.Decimal.place]
  rw [Binary64.ofDecimal_eq negative h0, if_neg (by omega), if_neg (by omega),
    Binary64.powTen_eq]
  simp

theorem ofText?_written (h : (int m).Admitted) :
    ofText? (String.ofList (intChars m)) = some (written m) := by
  by_cases fits : fitsInt64 m
  · rw [ofText?_intChars fits, written, if_pos fits]
  · have bounds := admitted_int.1 h
    have beyond : 2 ^ 63 ≤ m := by
      have := mt fitsInt64_iff.2 fits
      omega
    obtain ⟨x, hx, -⟩ := Binary64.ofInt_units (show m.natAbs < 2 ^ 64 by omega)
    have nearest : Binary64.ofDecimal (intNumeral m).negative (intNumeral m).value = some x := by
      have digits : (intNumeral m).value = ⟨m.natAbs, 0⟩ := by
        simp [Numeral.value, Numeral.exponentValue, intNumeral, natOfDigits_toDigits]
      rw [digits, ofDecimal_nat _ (by omega) (by omega)]
      exact hx
    rw [ofText?, int64OfText?_beyond fits, written, if_neg fits, ← chars_intNumeral,
      Numeral.binary64OfText?_chars (wellFormed_intNumeral m), nearest, toBinary64, hx]
    rfl

/-- Signed integers are compared as such, those beyond as floats. -/
theorem compare_written (n m : Int) :
    (int n).compare (written m) =
      if fitsInt64 m then Ord.compare n m else Ord.compare (int n).units (int m).units := by
  unfold written
  split <;> rfl

end Number

/-! ### The comparison as a query -/

/-- The document compared with an integer. -/
def comparedText (op : Comparator) (m : Int) : String :=
  String.ofList ('$' :: ' ' :: (op.symbol.toList ++ ' ' :: Number.intChars m))

section

open Grammar Scanner

theorem scans_comparedText (op : Comparator) (m : Int) :
    ∃ offset, Scans (ofString (comparedText op m))
      [lexeme .root "$", lexeme (.comparator op) op.symbol, intToken m] ⟨⟨[], offset⟩, false⟩ := by
  have literal : Spells false (Number.intChars m ++ []) [intToken m] false [] :=
    spells_int m (by simp [EndsNumeral])
  rw [List.append_nil] at literal
  have spelled := (spells_single "$" rfl rfl false _).cons
    ((spells_comparator op _ (Number.intChars m)).blank.cons literal.blank)
  obtain ⟨offset, scans⟩ := spelled 0
  refine ⟨offset, ?_⟩
  rw [ofString, comparedText, String.toList_ofList]
  exact scans

/-- A query that is, positions apart, a comparison of the document with a value. -/
theorem Query.of_bare_comparison {q : Query} {op : Comparator} {value : Json}
    (h : q.bare = ⟨[⟨.root, 0⟩, ⟨.comparison op .current (.literal value), 0⟩]⟩) :
    ∃ at_ at', q = ⟨[⟨.root, at_⟩, ⟨.comparison op .current (.literal value), at'⟩]⟩ := by
  obtain ⟨steps⟩ := q
  simp only [Query.relocate, Query.mk.injEq, List.map_eq_cons_iff, List.map_eq_nil_iff] at h
  obtain ⟨⟨first, at_⟩, _, rfl, hr, ⟨last, at'⟩, _, rfl, hc, rfl⟩ := h
  simp only [Step.relocate, Located.mk.injEq] at hr hc
  have root : first = .root := by
    cases first <;> simp_all [Node.relocate]
  have comparison : last = .comparison op .current (.literal value) := by
    cases last with
    | comparison op' left right =>
        simp only [Node.relocate, Node.comparison.injEq] at hc
        obtain ⟨⟨rfl, hl, hv⟩, -⟩ := hc
        cases left <;> simp_all [Node.relocate]
        cases right <;> simp_all [Node.relocate]
    | _ => simp_all [Node.relocate]
  exact ⟨at_, at', by rw [root, comparison]⟩

theorem parse_comparedText (op : Comparator) {m : Int} (h : (Number.int m).Admitted) :
    ∃ at_ at', Query.parse (comparedText op m) = .ok ⟨[⟨.root, at_⟩,
      ⟨.comparison op .current (.literal (.number (Number.written m))), at'⟩]⟩ := by
  have literal : Derives .operand [intToken m] (.literal (.number (Number.written m))) :=
    .number rfl (Number.ofText?_written h)
  have compared : Derives (.continued .current)
      ([lexeme (.comparator op) op.symbol, intToken m] ++ ([] ++ []))
      (.comparison op .current (.literal (.number (Number.written m)))) :=
    .continued (.compared rfl literal) .noConjuncts .noDisjuncts
  have derived : DerivesQuery 0
      ([lexeme .root "$"] ++ ([] ++ ([] ++ [lexeme (.comparator op) op.symbol, intToken m])))
      ⟨[⟨.root, 0⟩, ⟨.comparison op .current (.literal (.number (Number.written m))), 0⟩]⟩ :=
    .mk (.inr ⟨_, rfl, rfl⟩) .none .noSteps (.continued compared)
  obtain ⟨q, parsed, bare⟩ := (parse_iff (scans_comparedText op m)).2 derived
  obtain ⟨at_, at', rfl⟩ := Query.of_bare_comparison bare
  exact ⟨at_, at', parsed⟩

end

/-! ### Its answer -/

theorem Comparator.apply_numbers (op : Comparator) (x y : Number) :
    op.apply (.number x) (.number y) = .ok (op.accepts (x.compare y)) :=
  apply_of_ordering rfl op

variable {c : Config} {p : Policy} {m n : Int}

/-- No configuration changes the comparison. -/
theorem evaluate_comparedText (hc : c.validate = .ok p) (hm : (Number.int m).Admitted)
    (op : Comparator) (x : Number) :
    evaluate (comparedText op m) (.number x) c =
      .ok (.bool (op.accepts (x.compare (Number.written m)))) := by
  obtain ⟨at_, at', parsed⟩ := parse_comparedText op hm
  let s := (Engine.ofPolicy p).scope (.number x)
  let comparison : Node := .comparison op .current (.literal (.number (Number.written m)))
  have kept : p.expand ⟨[⟨.root, at_⟩, ⟨comparison, at'⟩]⟩ =
      ⟨[⟨.root, at_⟩, ⟨comparison, at'⟩]⟩ := by
    simp [comparison, Policy.expand, Policy.expandSteps, Policy.stepTarget?, Policy.expandNode]
  have compared : s.test comparison (.single (.number x)) =
      .ok (op.accepts (x.compare (Number.written m))) := by
    rw [Scope.test, Scope.operand, Scope.operand]
    show compareOperands op (some (.number x)) (some (.number (Number.written m))) = _
    rw [compareOperands, Comparator.apply_numbers]
  rw [evaluate_of_parse hc parsed]
  unfold Engine.evalQuery
  rw [show (Engine.ofPolicy p).policy = p from rfl, kept]
  show (s.evalSteps [⟨.root, at_⟩] (.single (.number x)) >>= _) = _
  rw [Scope.evalSteps_root, Scope.evalSteps]
  show (s.test comparison (.single (.number x)) >>= _) = _
  rw [compared]
  rfl

/-- On the document `n` the comparisons with `m` are those of the integers. -/
def Config.ComparesExactly (c : Config) (m n : Int) : Prop :=
  evaluate (comparedText .eq m) (.number (.int n)) c = .ok (.bool (decide (n = m))) ∧
    evaluate (comparedText .lt m) (.number (.int n)) c = .ok (.bool (decide (n < m))) ∧
      evaluate (comparedText .gt m) (.number (.int n)) c = .ok (.bool (decide (m < n)))

theorem comparesExactly_iff (hc : c.validate = .ok p) (hm : (Number.int m).Admitted) (n : Int) :
    c.ComparesExactly m n ↔ (Number.int n).compare (Number.written m) = Ord.compare n m := by
  unfold Config.ComparesExactly
  simp only [evaluate_comparedText hc hm, Comparator.accepts]
  rcases lt_trichotomy n m with h | rfl | h
  · rw [compare_lt_iff_lt.2 h]
    cases (Number.int n).compare (Number.written m) <;> simp [h, h.ne, h.not_gt]
  · rw [compare_eq_iff_eq.2 rfl]
    cases (Number.int n).compare (Number.written n) <;> simp
  · rw [compare_gt_iff_gt.2 h]
    cases (Number.int n).compare (Number.written m) <;> simp [h, h.ne', h.not_gt]

/-! ### Integers that are one float -/

/-- Among the integers beyond the signed ones, a float stands for about 2048 of them: each has a
neighbour that is rounded as it is. -/
theorem exists_divHalfEven_eq {k : Nat} (hl : 2 ^ 63 ≤ k) (hu : k < 2 ^ 64) :
    ∃ j, j ≠ k ∧ 2 ^ 63 ≤ j ∧ j < 2 ^ 64 ∧
      Binary64.divHalfEven j 2048 = Binary64.divHalfEven k 2048 := by
  -- towards the middle of those that are rounded alike
  by_cases up : k % 2048 = 0 ∨ k % 2048 = 1025 ∨ (k % 2048 = 1024 ∧ k / 2048 % 2 = 1)
  · refine ⟨k + 1, by omega, by omega, by omega, ?_⟩
    unfold Binary64.divHalfEven
    dsimp only
    split <;> split <;> omega
  · refine ⟨k - 1, by omega, by omega, by omega, ?_⟩
    unfold Binary64.divHalfEven
    dsimp only
    split <;> split <;> omega

theorem rounded_beyond {k : Nat} (hl : 2 ^ 63 ≤ k) (hu : k < 2 ^ 64) (e : Nat) :
    Binary64.rounded (k * 2 ^ e) = Binary64.divHalfEven k 2048 * (2048 * 2 ^ e) := by
  have unit : (2 : Nat) ^ (11 + e) = 2048 * 2 ^ e := Nat.pow_add 2 11 e
  have scale : Binary64.scaleOf (k * 2 ^ e) = 11 + e := by
    refine Binary64.scaleOf_eq ?_ ?_
    · rw [show 52 + (11 + e) = 63 + e by omega, Nat.pow_add]
      exact Nat.mul_le_mul_right _ hl
    · rw [show 53 + (11 + e) = 64 + e by omega, Nat.pow_add]
      exact Nat.mul_lt_mul_of_pos_right hu (Nat.two_pow_pos _)
  rw [Binary64.rounded, scale, unit, Binary64.divHalfEven_mul _ _ (Nat.two_pow_pos _)]

theorem units_eq_of_divHalfEven {j k : Nat} (hj : 2 ^ 63 ≤ j) (hj' : j < 2 ^ 64)
    (hk : 2 ^ 63 ≤ k) (hk' : k < 2 ^ 64)
    (h : Binary64.divHalfEven j 2048 = Binary64.divHalfEven k 2048) :
    (Number.int j).units = (Number.int k).units := by
  have rounded : Binary64.rounded (j * Binary64.unitsPerOne) =
      Binary64.rounded (k * Binary64.unitsPerOne) := by
    rw [Binary64.unitsPerOne_eq, rounded_beyond hj hj', rounded_beyond hk hk', h]
  rw [Number.units_int (Number.admitted_int.2 (by omega)),
    Number.units_int (Number.admitted_int.2 (by omega)), Binary64.unitsOfInt, Binary64.unitsOfInt,
    if_neg (by omega), if_neg (by omega), Int.natAbs_natCast, Int.natAbs_natCast, rounded]

/-- No integer beyond the signed ones is the only one of its float. -/
theorem exists_units_eq (hm : (Number.int m).Admitted) (beyond : ¬ Number.fitsInt64 m) :
    ∃ n, (Number.int n).Admitted ∧ n ≠ m ∧ (Number.int n).units = (Number.int m).units := by
  have bounds := Number.admitted_int.1 hm
  have large : 2 ^ 63 ≤ m := by
    have := mt Number.fitsInt64_iff.2 beyond
    omega
  obtain ⟨k, rfl⟩ := Int.eq_ofNat_of_zero_le (show 0 ≤ m by omega)
  obtain ⟨j, other, low, high, same⟩ :=
    exists_divHalfEven_eq (show 2 ^ 63 ≤ k by omega) (show k < 2 ^ 64 by omega)
  exact ⟨j, Number.admitted_int.2 (by omega), by omega,
    units_eq_of_divHalfEven low high (by omega) (by omega) same⟩

/-- Under a validated configuration, the comparisons of an integer document with an integer of 64
bits are those of the integers just when the one in the query fits a signed integer, or both are
one integer, or they are different floats. So they are exact for all documents just for the
integers that fit. -/
theorem literal_comparison_exact (c : Config) (p : Policy) (hc : c.validate = .ok p) (m : Int)
    (hm : Number.isExact m) :
    (∀ n, Number.isExact n → (c.ComparesExactly m n ↔
      Number.fitsInt64 m ∨ n = m ∨ (Number.int n).units ≠ (Number.int m).units)) ∧
    ((∀ n, Number.isExact n → c.ComparesExactly m n) ↔ Number.fitsInt64 m) := by
  have each : ∀ n, Number.isExact n → (c.ComparesExactly m n ↔
      Number.fitsInt64 m ∨ n = m ∨ (Number.int n).units ≠ (Number.int m).units) := by
    intro n hn
    rw [comparesExactly_iff hc hm, Number.compare_written]
    by_cases fits : Number.fitsInt64 m
    · simp [fits]
    · rw [if_neg fits]
      -- different integers that are different floats are in the order of these
      have ordered {a b : Int} (ha : (Number.int a).Admitted) (hb : (Number.int b).Admitted)
          (h : a ≤ b) : (Number.int a).units ≤ (Number.int b).units :=
        Number.units_le ha hb (compare_le_iff_le.2 h)
      rcases lt_trichotomy n m with h | rfl | h
      · have le := ordered hn hm h.le
        rw [compare_lt_iff_lt.2 h, compare_lt_iff_lt]
        simp only [fits, h.ne, Bool.false_eq_true, false_or]
        exact ⟨fun less => less.ne, fun other => lt_of_le_of_ne le other⟩
      · simp
      · have le := ordered hm hn h.le
        rw [compare_gt_iff_gt.2 h, compare_gt_iff_gt]
        simp only [fits, h.ne', Bool.false_eq_true, false_or]
        exact ⟨fun less => less.ne', fun other => lt_of_le_of_ne le other.symm⟩
  refine ⟨each, fun all => ?_, fun fits n hn => (each n hn).2 (.inl fits)⟩
  by_contra beyond
  obtain ⟨n, hn, other, same⟩ := exists_units_eq hm beyond
  rcases (each n hn).1 (all n hn) with fits | rfl | apart
  · exact beyond fits
  · exact other rfl
  · exact apart same

/-- With the greatest signed integer all comparisons are exact, with the second one beyond it they
are not. -/
theorem literal_comparison_exact_standard :
    ∃ p, (Config.mk [] .standard .standard).validate = .ok p ∧
      (∀ n, Number.isExact n →
        (Config.mk [] .standard .standard).ComparesExactly 9223372036854775807 n) ∧
      ¬ ∀ n, Number.isExact n →
        (Config.mk [] .standard .standard).ComparesExactly 9223372036854775809 n := by
  have valid : ∃ p, (Config.mk [] .standard .standard).validate = .ok p := ⟨_, rfl⟩
  obtain ⟨p, hp⟩ := valid
  refine ⟨p, hp, ?_, ?_⟩
  · exact (literal_comparison_exact _ p hp 9223372036854775807 (by decide)).2.2 (by decide)
  · rw [(literal_comparison_exact _ p hp 9223372036854775809 (by decide)).2]
    decide

/-- Neighbours beyond the signed integers that are found equal. -/
theorem literal_equals_neighbour :
    comparedText .eq 9223372036854775808 = "$ == 9223372036854775808" ∧
      evaluate (comparedText .eq 9223372036854775808) (.number (.int 9223372036854775809))
        ⟨[], .standard, .standard⟩ = .ok (.bool true) ∧
      (9223372036854775809 : Int) ≠ 9223372036854775808 := by
  have oneFloat : (Number.int 9223372036854775809).compare (Number.written 9223372036854775808) =
      .eq := by
    rw [Number.compare_written, if_neg (by decide), compare_eq_iff_eq]
    exact units_eq_of_divHalfEven (j := 9223372036854775809) (k := 9223372036854775808)
      (by decide) (by decide) (by decide) (by decide) (by decide)
  refine ⟨by cbv, ?_, by decide⟩
  rw [evaluate_comparedText rfl (show Number.isExact 9223372036854775808 by decide), oneFloat]
  rfl

end PathQuery
