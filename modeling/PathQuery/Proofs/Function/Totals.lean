import Mathlib
import PathQuery.Function.Builtin
import PathQuery.Proofs.Json.NumberValue

/-!
Sums and averages. A sum of integers is exact as long as its partial sums have a mantissa, which
fewer than `2 ^ 32` integers cannot exceed; so it does not depend on their order, and partial sums
may leave the range of 64 bits. Where a sum or an average is a float, the number that is given keeps
its value, unless that is `2 ^ 63`.
-/

namespace PathQuery

/-! ### Decimal sums of integers -/

namespace Decimal96

theorem mantissaBound_eq : mantissaBound = 2 ^ 96 :=
  Nat.one_shiftLeft 96

theorem ofNumber_int {n : ℤ} (h : Number.isExact n) : ofNumber (.int n) = some ⟨n, 0⟩ := by
  have bounds := Number.admitted_int.1 h
  rw [ofNumber, mantissaBound_eq, if_pos (by omega)]

/-- Whole numbers are added exactly below the bound of the mantissa. -/
theorem add_whole {m n : ℤ} (h : (m + n).natAbs < 2 ^ 96) :
    add ⟨m, 0⟩ ⟨n, 0⟩ = some ⟨m + n, 0⟩ := by
  by_cases hm : m = 0
  · simp [add, hm]
  by_cases hn : n = 0
  · simp [add, hm, hn]
  have whole (k : ℕ) : Binary64.divHalfEven k (Nat.pow 10 0) = k := by
    simp [Binary64.divHalfEven, Nat.mod_one]
  have signed : (if m + n < 0 then -((m + n).natAbs : ℤ) else (m + n).natAbs) = m + n := by
    split <;> omega
  calc add ⟨m, 0⟩ ⟨n, 0⟩ = fit (m + n) 0 := by simp [add, hm, hn]
    _ = some ⟨m + n, 0⟩ := by
      rw [fit, fitDropping, if_neg (Nat.not_lt_zero 0), whole, mantissaBound_eq, if_pos h, signed]

/-- The integer comes first, and a float is left for the rest. -/
theorem toJson?_eq (d : Decimal96) :
    d.toJson? = match d.toInt?.filter (Number.fitsInt64 ·) with
      | some n => some (.number (.int n))
      | none => d.toBinary64.map fun x => Json.ofBinary64 (some x) := by
  rw [toJson?]
  generalize d.toInt? = whole
  generalize d.toBinary64 = x
  cases whole with
  | none => rfl
  | some n =>
      rw [Option.filter_some]
      dsimp only
      split <;> rfl

theorem toInt?_whole (n : ℤ) : toInt? ⟨n, 0⟩ = some n := by
  simp [toInt?]

end Decimal96

namespace Number

/-- One more integer of 64 bits moves the sum by less than `2 ^ 64`, so a sum that starts with room
for all of them stays exact. -/
theorem foldlM_add_int (ns : List ℤ) (h : ∀ n ∈ ns, isExact n) (start : ℤ)
    (room : start.natAbs + ns.length * (2 ^ 64 - 1) < 2 ^ 96) :
    (ns.map Number.int).foldlM (fun acc n => do acc.add (← Decimal96.ofNumber n))
      (⟨start, 0⟩ : Decimal96) = some ⟨start + ns.sum, 0⟩ := by
  induction ns generalizing start with
  | nil => simp
  | cons n rest ih =>
      rw [List.forall_mem_cons] at h
      have bounds := admitted_int.1 h.1
      rw [List.length_cons] at room
      have next : (start + n).natAbs + rest.length * (2 ^ 64 - 1) < 2 ^ 96 := by omega
      have step : (Decimal96.ofNumber (.int n)).bind (Decimal96.add ⟨start, 0⟩) =
          some ⟨start + n, 0⟩ := by
        rw [Decimal96.ofNumber_int h.1, Option.bind_some, Decimal96.add_whole (by omega)]
      calc _ = ((Decimal96.ofNumber (.int n)).bind (Decimal96.add ⟨start, 0⟩)).bind fun acc =>
            (rest.map Number.int).foldlM (fun acc n => do acc.add (← Decimal96.ofNumber n)) acc :=
            List.foldlM_cons
        _ = some ⟨start + n + rest.sum, 0⟩ := by rw [step, Option.bind_some, ih h.2 _ next]
        _ = some ⟨start + (n :: rest).sum, 0⟩ := by rw [List.sum_cons, Int.add_assoc]

theorem decimalSum_int {ns : List ℤ} (short : ns.length < 2 ^ 32) (h : ∀ n ∈ ns, isExact n) :
    decimalSum (ns.map .int) = some ⟨ns.sum, 0⟩ := by
  have room : (0 : ℤ).natAbs + ns.length * (2 ^ 64 - 1) < 2 ^ 96 := by
    rw [Int.natAbs_zero]
    omega
  rw [decimalSum, Decimal96.zero, foldlM_add_int ns h 0 room, Int.zero_add]

/-- The sum of integers that is an integer of 64 bits. -/
theorem sum_int {ns : List ℤ} (short : ns.length < 2 ^ 32) (h : ∀ n ∈ ns, isExact n)
    (fits : fitsInt64 ns.sum) : sum (ns.map .int) = .number (.int ns.sum) := by
  rw [sum, decimalSum_int short h, Option.bind_some, Decimal96.toJson?, Decimal96.toInt?_whole]
  dsimp only
  rw [if_pos fits]

/-! ### Integers and floats that totals come to -/

/-- The integer that a sum is given as. -/
def exactTotal? (ns : List Number) : Option ℤ :=
  ((decimalSum ns).bind Decimal96.toInt?).filter (fitsInt64 ·)

/-- The float that a sum comes to otherwise, if it is not beyond all of them: that of the decimal
sum, or else the sum of floats. -/
def floatTotal? (ns : List Number) : Option Binary64 :=
  ((decimalSum ns).bind Decimal96.toBinary64).or (floatSum ns)

/-- The float that an average comes to. -/
def floatMean? (ns : List Number) : Option Binary64 := do
  (← floatSum ns).div (← Binary64.ofInt ns.length)

theorem sum_eq (ns : List Number) :
    sum ns = match exactTotal? ns with
      | some n => .number (.int n)
      | none => Json.ofBinary64 (floatTotal? ns) := by
  rw [sum, exactTotal?, floatTotal?]
  cases decimalSum ns with
  | none => simp only [Option.bind_none, Option.filter_none, Option.none_or]
  | some d =>
      rw [Option.bind_some, Option.bind_some, Option.bind_some, Decimal96.toJson?_eq]
      cases d.toInt?.filter (fitsInt64 ·) with
      | some n => rfl
      | none =>
          cases d.toBinary64 with
          | none => simp only [Option.map_none, Option.none_or]
          | some x => simp only [Option.map_some, Option.some_or]

theorem average_eq {ns : List Number} (h : ns ≠ []) :
    average ns = Json.ofBinary64 (floatMean? ns) := by
  rw [average, if_neg (by simpa using h)]
  rfl

end Number

/-! ### Calls -/

theorem Call.numbers_of_items {c : Call} {ns : List Number}
    (h : c.input.items = ns.map .number) : c.numbers = .ok ns := by
  rw [numbers, h]
  clear h
  induction ns with
  | nil => rfl
  | cons n rest ih =>
      rw [List.map_cons, List.mapM_cons, ih]
      rfl

namespace Builtin

open Number

variable {c : Call} {ns : List Number}

theorem run_sum (items : c.input.items = ns.map .number) :
    sum.run c = .ok (.single (Number.sum ns)) := by
  rw [run, Call.sum, Call.numbers_of_items items]
  rfl

theorem run_average (items : c.input.items = ns.map .number) :
    avg.run c = .ok (.single (Number.average ns)) := by
  rw [run, Call.average, Call.numbers_of_items items]
  rfl

/-- The sum of fewer than `2 ^ 32` integers of 64 bits, with a sign or without, is exact when it is
itself an integer of 64 bits with a sign; and it is the same in every order of the items. -/
theorem sum_of_integers {ks : List ℤ} (items : c.input.items = ks.map fun k => .number (.int k))
    (short : ks.length < 2 ^ 32) (ranged : ∀ k ∈ ks, isExact k) (fits : fitsInt64 ks.sum) :
    sum.run c = .ok (.single (.number (.int ks.sum))) ∧
      ∀ d : Call, d.input.items.Perm c.input.items → sum.run d = sum.run c := by
  -- any order of the items is the items of a permuted list of integers
  have ordered {e : Call} {ms : List ℤ} (he : e.input.items = ms.map fun k => .number (.int k))
      (same : ms.Perm ks) : sum.run e = .ok (.single (.number (.int ks.sum))) := by
    have numbers : e.input.items = (ms.map Number.int).map .number := by rw [he, List.map_map]; rfl
    have total := sum_int (same.length_eq.trans_lt short) (fun k hk => ranged k (same.subset hk))
      (same.sum_eq ▸ fits)
    rw [run_sum numbers, total, same.sum_eq]
  refine ⟨ordered items (.refl ks), fun d permuted => ?_⟩
  rw [items] at permuted
  obtain ⟨ms, hm⟩ : ∃ ms : List ℤ, d.input.items = ms.map fun k => .number (.int k) := by
    have integers : d.input.items ∈ Set.range (List.map fun k : ℤ => Json.number (.int k)) := by
      rw [Set.range_list_map]
      intro x hx
      obtain ⟨k, -, hk⟩ := List.mem_map.1 (permuted.subset hx)
      exact ⟨k, hk⟩
    obtain ⟨ms, hm⟩ := integers
    exact ⟨ms, hm.symm⟩
  have injective : Function.Injective fun k : ℤ => Json.number (.int k) := fun k l h => by
    cases h
    rfl
  rw [hm, List.map_perm_map_iff injective] at permuted
  rw [ordered hm permuted, ordered items (.refl ks)]

/-- Partial sums leave the range of 64 bits, even without a sign, and the sum comes back to the end
of it. -/
theorem sum_of_integers_back_in_range :
    let ks : List ℤ := [9223372036854775807, 18446744073709551615, -9223372036854775808,
      -9223372036854775808, 1]
    let c : Call := ⟨"sum", [], .single (.array (ks.map fun k => .number (.int k)))⟩
    let d : Call := ⟨"sum", [], .many (ks.reverse.map fun k => .number (.int k))⟩
    c.input.items = (ks.map fun k => .number (.int k)) ∧ ks.length < 2 ^ 32 ∧
      (∀ k ∈ ks, isExact k) ∧ fitsInt64 ks.sum ∧ d.input.items.Perm c.input.items ∧
      sum.run c = .ok (.single (.number (.int 9223372036854775807))) ∧ sum.run d = sum.run c := by
  intro ks c d
  have items : c.input.items = ks.map fun k => .number (.int k) := rfl
  have short : ks.length < 2 ^ 32 := by decide
  have ranged : ∀ k ∈ ks, isExact k := by decide
  have fits : fitsInt64 ks.sum := by decide
  have permuted : d.input.items.Perm c.input.items := by
    rw [items]
    exact (List.reverse_perm ks).map fun k => Json.number (.int k)
  obtain ⟨total, anyOrder⟩ := sum_of_integers items short ranged fits
  exact ⟨items, short, ranged, fits, permuted, total, anyOrder d permuted⟩

/-! ### Floats that are given as numbers -/

/-- How a sum or an average comes to a float. -/
inductive ComesTo (ns : List Number) : Builtin → Binary64 → Prop
  | sum {x : Binary64} : exactTotal? ns = none → floatTotal? ns = some x → ComesTo ns .sum x
  | average {x : Binary64} : ns ≠ [] → floatMean? ns = some x → ComesTo ns .avg x

theorem ComesTo.run_eq {f : Builtin} {x : Binary64} (h : ComesTo ns f x)
    (items : c.input.items = ns.map .number) :
    f.run c = .ok (.single (.number (ofBinary64 x))) := by
  cases h with
  | sum inexact total => rw [run_sum items, sum_eq, inexact, total, Json.ofBinary64]
  | average some mean => rw [run_average items, average_eq some, mean, Json.ofBinary64]

/-- A float is given as a number, which has its value just when that is not `2 ^ 63`, also where the
float is a sum or an average. A whole number of 64 bits is given as an integer, and `2 ^ 63` as the
integer below it. -/
theorem float_total_kept (x : Binary64) :
    ∃ r, Json.ofBinary64 (some x) = .number r ∧ (r.value = x.value ↔ x.value ≠ 2 ^ 63) ∧
      (∀ k : ℤ, x.value = k → fitsInt64 k → r = .int k) ∧
      (x.value = 2 ^ 63 → r = .int (2 ^ 63 - 1)) ∧
      ∀ (f : Builtin) (c : Call) (ns : List Number), c.input.items = ns.map .number →
        ComesTo ns f x → f.run c = .ok (.single (.number r)) :=
  ⟨ofBinary64 x, rfl, value_ofBinary64_eq_iff, fun _ => ofBinary64_of_fits, ofBinary64_of_top,
    fun _ _ _ items comes => comes.run_eq items⟩

/-- The average is the least integer of 64 bits, the sum is rounded to a float beyond them. -/
theorem float_total_kept_ends :
    let least : Binary64 := ⟨true, 1 <<< 52, 1085, by decide, by decide, by decide⟩
    let beyond : Binary64 := ⟨false, 1 <<< 52, 1086, by decide, by decide, by decide⟩
    let c : Call := ⟨"avg", [], .single (.array [.number (.int (-2 ^ 63))])⟩
    let d : Call := ⟨"sum", [], .many [.number (.int (2 ^ 64 - 1))]⟩
    ComesTo [.int (-2 ^ 63)] avg least ∧ least.value = (-2 ^ 63 : ℤ) ∧ fitsInt64 (-2 ^ 63) ∧
      (∃ r, Json.ofBinary64 (some least) = .number r ∧ r = .int (-2 ^ 63) ∧
        avg.run c = .ok (.single (.number r)) ∧ r.value = least.value) ∧
      ComesTo [.int (2 ^ 64 - 1)] sum beyond ∧ beyond.value = (2 ^ 64 : ℤ) ∧
      ∃ r, Json.ofBinary64 (some beyond) = .number r ∧
        sum.run d = .ok (.single (.number r)) ∧ r.value = beyond.value := by
  intro least beyond c d
  have mean : ComesTo [.int (-2 ^ 63)] avg least := .average nofun (by decide +kernel)
  have total : ComesTo [.int (2 ^ 64 - 1)] sum beyond :=
    .sum (by decide +kernel) (by decide +kernel)
  have low : least.value = (-2 ^ 63 : ℤ) := Binary64.value_eq_intCast.2 (by decide +kernel)
  have high : beyond.value = (2 ^ 64 : ℤ) := Binary64.value_eq_intCast.2 (by decide +kernel)
  have fits : fitsInt64 (-2 ^ 63) := by decide
  obtain ⟨r, hr, kept, whole, -, averages⟩ := float_total_kept least
  obtain ⟨r', hr', kept', -, -, sums⟩ := float_total_kept beyond
  refine ⟨mean, low, fits, ⟨r, hr, whole _ low fits, averages avg c _ rfl mean, kept.2 ?_⟩, total,
    high, r', hr', sums sum d _ rfl total, kept'.2 ?_⟩
  · rw [low]
    norm_num
  · rw [high]
    norm_num

/-- The average and the sum of one number, the least integer that needs a 64-bit word without a
sign, are given as the integer below it. -/
theorem top_float_not_kept :
    let top : Binary64 := ⟨false, 1 <<< 52, 1085, by decide, by decide, by decide⟩
    let c : Call := ⟨"avg", [], .single (.array [.number (.int (2 ^ 63))])⟩
    ComesTo [.int (2 ^ 63)] avg top ∧ ComesTo [.int (2 ^ 63)] sum top ∧ top.value = 2 ^ 63 ∧
      ofBinary64 top = .int (2 ^ 63 - 1) ∧ (ofBinary64 top).value ≠ top.value ∧
      avg.run c = .ok (.single (.number (.int (2 ^ 63 - 1)))) ∧
      sum.run c = .ok (.single (.number (.int (2 ^ 63 - 1)))) := by
  intro top c
  have mean : ComesTo [.int (2 ^ 63)] avg top := .average nofun (by decide +kernel)
  have total : ComesTo [.int (2 ^ 63)] sum top := .sum (by decide +kernel) (by decide +kernel)
  have value : top.value = 2 ^ 63 := by
    have whole : top.value = (2 ^ 63 : ℤ) := Binary64.value_eq_intCast.2 (by decide +kernel)
    rw [whole]
    norm_num
  have given := ofBinary64_of_top value
  refine ⟨mean, total, value, given, fun same => value_ofBinary64_eq_iff.1 same value, ?_, ?_⟩
  · rw [mean.run_eq rfl, given]
  · rw [total.run_eq rfl, given]

end Builtin

end PathQuery
