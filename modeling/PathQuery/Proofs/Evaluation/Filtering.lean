import PathQuery.Proofs.Evaluation.Agreement
import PathQuery.Proofs.Evaluation.Equations

/-!
Filters. A filter keeps the items for which its condition holds, provided that the condition is
decided for all of them. So it gives a part of the items in their order and the filter with the
negated condition gives the rest, and a filter with two conditions does what two filters in a row
do: the second condition is tested only where the first one holds.
-/

namespace PathQuery

open Outcome (Agree)

namespace Outcome

/-- Whether a condition was found to hold; it was not where testing it failed. -/
def holds : Outcome Bool → Bool
  | .ok b => b
  | .error _ => false

variable {α : Type} {f : α → Outcome Bool}

/-- The induction carries along what has been kept so far, the last element first. -/
theorem filterAuxM_eq_ok_iff {xs kept ys : List α} :
    xs.filterAuxM f kept = .ok ys ↔ (∀ x ∈ xs, f x = .ok (f x).holds) ∧
      ys = (xs.filter fun x => (f x).holds).reverse ++ kept := by
  induction xs generalizing kept with
  | nil =>
      show Except.ok kept = Except.ok ys ↔ _
      simp [eq_comm]
  | cons x xs ih =>
      rw [List.forall_mem_cons]
      show (f x >>= fun b => xs.filterAuxM f (cond b (x :: kept) kept)) = .ok ys ↔ _
      cases hx : f x with
      | error h => exact ⟨nofun, fun h => nomatch h.1.1⟩
      | ok b =>
          show xs.filterAuxM f (cond b (x :: kept) kept) = .ok ys ↔ _
          rw [ih]
          cases b with
          | true => simp [hx, holds]
          | false => simp [hx, holds]

theorem filterM_eq_ok_iff {xs ys : List α} :
    xs.filterM f = .ok ys ↔
      (∀ x ∈ xs, f x = .ok (f x).holds) ∧ ys = xs.filter fun x => (f x).holds := by
  constructor
  · intro h
    obtain ⟨kept, hk, h⟩ := eq_ok_of_bind h
    cases h
    obtain ⟨decided, rfl⟩ := filterAuxM_eq_ok_iff.1 hk
    exact ⟨decided, by simp⟩
  · rintro ⟨decided, rfl⟩
    have collected : xs.filterAuxM f [] = .ok ((xs.filter fun x => (f x).holds).reverse ++ []) :=
      filterAuxM_eq_ok_iff.2 ⟨decided, rfl⟩
    rw [List.filterM, collected]
    simp

end Outcome

/-- The call `.filter(c)`. -/
def filtering (c : Node) (position : Nat) : Step :=
  ⟨.call "filter" [c], position⟩

namespace Scope

variable {s : Scope} {c d : Node} {item : Json}

/-- Whether the condition holds for an item. -/
def holdsFor (s : Scope) (c : Node) (item : Json) : Bool :=
  (s.test c (.single item)).holds

/-- Testing the condition on the item does not fail. -/
def Decides (s : Scope) (c : Node) (item : Json) : Prop :=
  s.test c (.single item) = .ok (s.holdsFor c item)

theorem evalSteps_filtering (filter : s.functions.find? "filter" = Registry.standard.find? "filter")
    (hc : c.isCondition = true) (position : Nat) {input set : ValueSet} :
    s.evalSteps [filtering c position] input = .ok set ↔
      (∀ item ∈ input.items, s.Decides c item) ∧
        set = .many (input.items.filter (s.holdsFor c)) := by
  rw [filtering, evalSteps_singleton, evalStep, Registry.invoke_of_standard filter,
    evalArguments_eq_map]
  show (if c.isCondition then do
    return .many (← input.items.filterM fun item => s.test c (.single item))
    else Outcome.mismatch (.filterCondition c)) = .ok set ↔ _
  rw [if_pos hc]
  constructor
  · intro h
    obtain ⟨kept, hk, h⟩ := Outcome.eq_ok_of_bind h
    cases h
    obtain ⟨decided, rfl⟩ := Outcome.filterM_eq_ok_iff.1 hk
    exact ⟨decided, rfl⟩
  · rintro ⟨decided, rfl⟩
    rw [Outcome.filterM_eq_ok_iff.2 ⟨decided, rfl⟩]
    rfl

theorem test_not (s : Scope) (c : Node) (set : ValueSet) :
    s.test (.not c) set = do return !(← s.test c set) := by
  rw [test]

theorem decides_and : s.Decides (.condition .and c d) item ↔
    s.Decides c item ∧ (s.holdsFor c item = true → s.Decides d item) := by
  unfold Decides holdsFor
  rw [test_and]
  cases s.test c (.single item) with
  | error h => exact ⟨nofun, fun h => nomatch h.1⟩
  | ok b =>
      cases b with
      | false => exact ⟨fun _ => ⟨rfl, nofun⟩, fun _ => rfl⟩
      | true => exact ⟨fun h => ⟨rfl, fun _ => h⟩, fun h => h.2 rfl⟩

theorem holdsFor_and : s.holdsFor (.condition .and c d) item =
    (s.holdsFor c item && s.holdsFor d item) := by
  unfold holdsFor
  rw [test_and]
  cases s.test c (.single item) with
  | error h => rfl
  | ok b => cases b <;> rfl

theorem decides_not : s.Decides (.not c) item ↔ s.Decides c item := by
  unfold Decides holdsFor
  rw [test_not]
  cases s.test c (.single item) with
  | error h => exact ⟨nofun, nofun⟩
  | ok b => exact ⟨fun _ => rfl, fun _ => rfl⟩

theorem holdsFor_not (h : s.Decides c item) : s.holdsFor (.not c) item = !s.holdsFor c item := by
  unfold holdsFor
  rw [test_not, h]
  rfl

variable (filter : s.functions.find? "filter" = Registry.standard.find? "filter")

include filter

/-- The second filter tests the items that the first one keeps, and so does the conjunction. -/
theorem evalSteps_filtering_and (hc : c.isCondition = true) (hd : d.isCondition = true)
    (i j k : Nat) (input : ValueSet) :
    Agree (s.evalSteps [filtering (.condition .and c d) i] input)
      (s.evalSteps [filtering c j, filtering d k] input) := by
  have inTurn : s.evalSteps [filtering c j, filtering d k] input =
      (s.evalSteps [filtering c j] input >>= s.evalSteps [filtering d k]) :=
    s.evalSteps_append [filtering c j] [filtering d k] input
  have kept : input.items.filter (s.holdsFor (.condition .and c d)) =
      (input.items.filter (s.holdsFor c)).filter (s.holdsFor d) := by
    rw [List.filter_filter]
    exact List.filter_congr fun item _ => by rw [holdsFor_and, Bool.and_comm]
  apply Agree.of_eq_ok_iff
  intro set
  rw [inTurn, evalSteps_filtering filter rfl, kept]
  constructor
  · rintro ⟨decided, rfl⟩
    have first : ∀ item ∈ input.items, s.Decides c item :=
      fun item hi => (decides_and.1 (decided item hi)).1
    rw [(evalSteps_filtering filter hc j).2 ⟨first, rfl⟩]
    refine (evalSteps_filtering filter hd k).2 ⟨fun item hi => ?_, by rw [ValueSet.items_many]⟩
    rw [ValueSet.items_many, List.mem_filter] at hi
    exact (decides_and.1 (decided item hi.1)).2 hi.2
  · intro h
    obtain ⟨middle, hm, h⟩ := Outcome.eq_ok_of_bind h
    obtain ⟨first, rfl⟩ := (evalSteps_filtering filter hc j).1 hm
    obtain ⟨second, rfl⟩ := (evalSteps_filtering filter hd k).1 h
    rw [ValueSet.items_many] at second ⊢
    exact ⟨fun item hi => decides_and.2
      ⟨first item hi, fun holds => second item (List.mem_filter.2 ⟨hi, holds⟩)⟩, rfl⟩

/-- The negated condition is decided where the condition is, and the other way round. -/
theorem evalSteps_filtering_not (i : Nat) {input set : ValueSet} :
    s.evalSteps [filtering (.not c) i] input = .ok set ↔
      (∀ item ∈ input.items, s.Decides c item) ∧
        set = .many (input.items.filter fun item => !s.holdsFor c item) := by
  rw [evalSteps_filtering filter rfl]
  simp only [decides_not]
  refine and_congr_right fun decided => ?_
  rw [List.filter_congr fun item hi => holdsFor_not (decided item hi)]

end Scope

/-- Filtering by two conditions at once is filtering by the one and then by the other. A filter and
the one with the negated condition succeed on the same sets, those on whose items the condition is
decided; then the one keeps the items for which it holds and the other keeps the rest, both in the
order of the input. -/
theorem Engine.filters_compose_and_split (e : Engine)
    (filter : e.functions.find? "filter" = Registry.standard.find? "filter") (base : Json)
    (input : ValueSet) {c d : Node} (hc : c.isCondition = true) (hd : d.isCondition = true)
    (i j k l : Nat) :
    Agree (e.evalPath [filtering (.condition .and c d) i] base (some input))
        (e.evalPath [filtering c j, filtering d k] base (some input)) ∧
      ((∃ kept, e.evalPath [filtering c j] base (some input) = .ok kept) ↔
        ∃ dropped, e.evalPath [filtering (.not c) l] base (some input) = .ok dropped) ∧
      ∀ kept dropped, e.evalPath [filtering c j] base (some input) = .ok kept →
        e.evalPath [filtering (.not c) l] base (some input) = .ok dropped →
          kept.values.Sublist input.items ∧ dropped.values.Sublist input.items ∧
          ∃ keep : Json → Bool,
            (∀ item ∈ input.items, e.test c base (.single item) = .ok (keep item)) ∧
            kept = .many (input.items.filter keep) ∧
            dropped = .many (input.items.filter fun item => !keep item) := by
  refine ⟨Scope.evalSteps_filtering_and filter hc hd i j k input, ?_, fun kept dropped hk hr => ?_⟩
  · constructor
    · rintro ⟨kept, hk⟩
      obtain ⟨decided, -⟩ := (Scope.evalSteps_filtering filter hc j).1 hk
      exact ⟨_, (Scope.evalSteps_filtering_not filter l).2 ⟨decided, rfl⟩⟩
    · rintro ⟨dropped, hr⟩
      obtain ⟨decided, -⟩ := (Scope.evalSteps_filtering_not filter l).1 hr
      exact ⟨_, (Scope.evalSteps_filtering filter hc j).2 ⟨decided, rfl⟩⟩
  · obtain ⟨decided, rfl⟩ := (Scope.evalSteps_filtering filter hc j).1 hk
    obtain ⟨-, rfl⟩ := (Scope.evalSteps_filtering_not filter l).1 hr
    exact ⟨List.filter_sublist, List.filter_sublist, _, decided, rfl, rfl⟩

/-- On a definite array of three objects, one of which has no member `a`: it is skipped, and the
comparison does not hold. -/
theorem Engine.filters_compose_and_split_skipped :
    let e := ofPolicy ⟨[], .plain .skip, .standard⟩
    let a : Json := .object [("a", .null)]
    let ab : Json := .object [("a", .null), ("b", .bool true)]
    let b : Json := .object [("b", .bool true)]
    let input : ValueSet := .single (.array [a, ab, b])
    let c : Node := .comparison .eq (.path [⟨.current, 9⟩, ⟨.property "a", 10⟩]) (.literal .null)
    let d : Node :=
      .not (.comparison .eq (.path [⟨.current, 24⟩, ⟨.property "b", 25⟩]) (.literal (.bool true)))
    e.functions.find? "filter" = Registry.standard.find? "filter" ∧
      c.isCondition = true ∧ d.isCondition = true ∧
      e.evalPath [filtering (.condition .and c d) 2] .null (some input) = .ok (.many [a]) ∧
      e.evalPath [filtering c 2, filtering d 3] .null (some input) = .ok (.many [a]) ∧
      ∃ keep : Json → Bool,
        (∀ item ∈ input.items, e.test c .null (.single item) = .ok (keep item)) ∧
        [a, ab] = input.items.filter keep ∧ [b] = input.items.filter fun item => !keep item := by
  intro e a ab b input c d
  have together : e.evalPath [filtering (.condition .and c d) 2] .null (some input) =
      .ok (.many [a]) := rfl
  obtain ⟨composed, -, split⟩ := filters_compose_and_split e rfl .null input
    (show c.isCondition = true from rfl) (show d.isCondition = true from rfl) 2 2 3 2
  obtain ⟨-, -, keep, tested, kept, dropped⟩ := split (.many [a, ab]) (.many [b]) rfl rfl
  exact ⟨rfl, rfl, rfl, together, (composed.eq_ok_iff _).1 together, keep, tested,
    congrArg ValueSet.values kept, congrArg ValueSet.values dropped⟩

end PathQuery
