import PathQuery.Proofs.Evaluation.Agreement
import PathQuery.Proofs.Evaluation.Equations

/-!
Paths that act on each value by itself. A path is evaluated step by step on the whole set of values;
as long as it calls no function, this gives what one gets by following each value to the end of the
path before turning to the next. So a set in two parts gives the values of the first part and then
those of the second.
-/

namespace PathQuery

/-- Steps that select from each value, which are all path steps but calls. -/
def Node.isSelector : Node → Bool
  | property _ | index _ | slice _ | wildcard | multiKey _ | omission _ => true
  | _ => false

theorem Node.isCondition_of_isSelector {n : Node} (h : n.isSelector = true) :
    n.isCondition = false := by
  cases n with
  | property _ | index _ | slice _ | wildcard | multiKey _ | omission _ => rfl
  | _ => cases h

/-- Selectors have no steps inside. -/
theorem Node.forall_withInnerSteps_of_isSelector {Q : Node → Prop} {path : List Step}
    (selectors : ∀ n ∈ path.map Located.node, n.isSelector = true)
    (h : ∀ n ∈ path.map Located.node, Q n) : ∀ s ∈ Node.withInnerSteps path, Q s.node := by
  rw [forall_withInnerSteps]
  intro step hs
  have selector := selectors _ (List.mem_map_of_mem hs)
  refine ⟨h _ (List.mem_map_of_mem hs), ?_⟩
  cases hn : step.node with
  | property _ | index _ | slice _ | wildcard | multiKey _ | omission _ => exact nofun
  | _ =>
      rw [hn] at selector
      cases selector

open Outcome (Agree collect)

namespace Scope

variable {s : Scope}

theorem evalStep_of_isSelector {n : Node} (h : n.isSelector = true) (position : Nat)
    (set : ValueSet) : s.evalStep n position set = s.applyStep ⟨n, position⟩ set := by
  cases n with
  | property _ | index _ | slice _ | wildcard | multiKey _ | omission _ => rw [evalStep]
  | _ => cases h

theorem applyStep_eq_collect (step : Step) (set : ValueSet) : s.applyStep step set = do
    return ⟨← collect (s.select step) set.values, set.definite && !fansOut step.node⟩ := by
  simp only [applyStep, collect, bind_assoc, pure_bind]

/-- What a path of such steps selects from one value, each value on the way being followed to the
end before the next. -/
def follow (s : Scope) : List Step → Json → Outcome (List Json)
  | [], value => .ok [value]
  | step :: rest, value => do collect (follow s rest) (← s.select step value)

/-- The values are followed one by one; they stay definite behind steps that do not fan out. -/
def followAll (s : Scope) (steps : List Step) (set : ValueSet) : Outcome ValueSet := do
  return ⟨← collect (s.follow steps) set.values,
    set.definite && steps.all fun step => !fansOut step.node⟩

theorem followAll_many (steps : List Step) (values : List Json) :
    s.followAll steps (.many values) = do return .many (← collect (s.follow steps) values) :=
  rfl

/-- The induction is on the steps: one step on all values, followed by the rest of the path on each
value that it selects. -/
theorem evalSteps_agree_followAll {steps : List Step}
    (selectors : ∀ step ∈ steps, step.node.isSelector = true) (set : ValueSet) :
    Agree (s.evalSteps steps set) (s.followAll steps set) := by
  induction steps generalizing set with
  | nil =>
      obtain ⟨values, definite⟩ := set
      apply Agree.of_eq
      rw [evalSteps, followAll, show s.follow [] = fun value => .ok [value] from rfl,
        Outcome.collect_single, List.all_nil, Bool.and_true]
      rfl
  | cons step rest ih =>
      rw [List.forall_mem_cons] at selectors
      calc
        s.evalSteps (step :: rest) set
        _ = (do s.evalSteps rest (← s.applyStep step set)) := by
            rw [evalSteps, evalStep_of_isSelector selectors.1]
        Agree _ (do s.followAll rest (← s.applyStep step set)) :=
            (Agree.refl _).bind fun set' => ih selectors.2 set'
        _ = (do
              let found ← (do collect (s.follow rest) (← collect (s.select step) set.values))
              return ⟨found, (set.definite && !fansOut step.node) &&
                rest.all fun step => !fansOut step.node⟩) := by
            simp only [applyStep_eq_collect, followAll, bind_assoc, pure_bind]
        Agree _ (do
              let found ← collect (s.follow (step :: rest)) set.values
              return ⟨found, (set.definite && !fansOut step.node) &&
                rest.all fun step => !fansOut step.node⟩) :=
            (Outcome.collect_collect set.values).bind fun _ => .refl _
        _ = s.followAll (step :: rest) set := by
            simp only [followAll, List.all_cons, Bool.and_assoc]

/-- The values that a path gives do not depend on whether the set is definite. -/
theorem values_evalSteps_eq_ok_iff {steps : List Step}
    (selectors : ∀ step ∈ steps, step.node.isSelector = true) {set : ValueSet}
    {values : List Json} :
    (s.evalSteps steps set).map ValueSet.values = .ok values ↔
      collect (s.follow steps) set.values = .ok values := by
  rw [((evalSteps_agree_followAll selectors set).map ValueSet.values).eq_ok_iff, followAll]
  cases collect (s.follow steps) set.values with
  | ok found => exact Iff.rfl
  | error h => exact ⟨nofun, nofun⟩

end Scope

/-- Behind a set in two parts a path without calls gives values just when it does behind each part,
and these are the values of the first part followed by those of the second. Nothing depends on which
of the sets are definite. -/
theorem Engine.evalPath_values_append (e : Engine) (base : Json) {steps : List Step}
    (selectors : ∀ step ∈ steps, step.node.isSelector = true) (xs ys zs : List Json)
    (definite definite₁ definite₂ : Bool) :
    (e.evalPath steps base (some ⟨xs ++ ys, definite⟩)).map ValueSet.values = .ok zs ↔
      ∃ as bs, (e.evalPath steps base (some ⟨xs, definite₁⟩)).map ValueSet.values = .ok as ∧
        (e.evalPath steps base (some ⟨ys, definite₂⟩)).map ValueSet.values = .ok bs ∧
          zs = as ++ bs := by
  simp only [evalPath, Option.getD_some, Scope.values_evalSteps_eq_ok_iff selectors]
  exact Outcome.collect_append_eq_ok_iff

/-- Members of one object and of one object and a number, with a key group that names an alias, a
member found under another name and a miss that an alternate query answers. -/
theorem Engine.evalPath_values_append_group :
    let p : Policy := ⟨[⟨"u", ⟨[⟨.root, 0⟩, ⟨.property "a", 2⟩]⟩⟩],
      .infer ["b"] [⟨[⟨.root, 0⟩, ⟨.property "d", 2⟩, ⟨.wildcard, 4⟩]⟩] .skip, .standard⟩
    let base : Json := .object [("a", .bool true), ("d", .array [.null, .bool false])]
    let steps : List Step := [⟨.wildcard, 1⟩, ⟨.multiKey ["u", "c"], 3⟩]
    let first : Json := .array [.object [("c", .string "x")]]
    let second : Json := .object [("k", .object [("b", .string "y")]), ("l", .string "z")]
    (∀ step ∈ steps, step.node.isSelector = true) ∧
      ((ofPolicy p).evalPath steps base (some (.many [first]))).map ValueSet.values =
        .ok [.bool true, .string "x"] ∧
      ((ofPolicy p).evalPath steps base (some (.many [second]))).map ValueSet.values =
        .ok [.bool true, .string "y", .bool true, .null, .bool false] ∧
      ((ofPolicy p).evalPath steps base (some (.many ([first] ++ [second])))).map
          ValueSet.values =
        .ok ([.bool true, .string "x"] ++
          [.bool true, .string "y", .bool true, .null, .bool false]) := by
  intro p base steps first second
  have selectors : ∀ step ∈ steps, step.node.isSelector = true := by decide
  refine ⟨selectors, rfl, rfl, ?_⟩
  exact (evalPath_values_append _ base selectors [first] [second] _ false false false).2
    ⟨_, _, rfl, rfl, rfl⟩

end PathQuery
