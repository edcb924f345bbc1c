import Mathlib.Data.List.Forall2
import PathQuery.Evaluation.Evaluator

/-!
One evaluation approximating another. `Outcome.Below lost x y` says that `y` is what `x` is, unless
`x` halted for a reason in `lost`; with every error lost it says that a success of `x` is one of
`y`, with the finding `circular` lost it says that `y` was merely given more levels.

The relation passes through every construct of the evaluator. Two evaluations that start with
related parts, which are the look-up of a member, the recovery from a miss and the paths entered for
aliases, stay related on all queries: the main statement is `Scope.Below.evalSteps`.
-/

namespace PathQuery

/-- `y` is `x`, unless `x` halted for one of the reasons in `lost`. -/
def Outcome.Below {α : Type} (lost : Halt → Prop) (x y : Outcome α) : Prop :=
  x = y ∨ ∃ h, lost h ∧ x = .error h

namespace Outcome.Below

variable {α β : Type} {lost : Halt → Prop}

theorem refl (x : Outcome α) : Below lost x x :=
  .inl rfl

theorem of_lost {h : Halt} (hl : lost h) (y : Outcome α) : Below lost (.error h) y :=
  .inr ⟨h, hl, rfl⟩

/-- A result is kept, as is an error that cannot be lost. -/
theorem eq_of_ok {x y : Outcome α} {a : α} (h : Below lost x y) (hx : x = .ok a) : y = .ok a := by
  rcases h with rfl | ⟨e, -, he⟩
  · exact hx
  · rw [hx] at he
    cases he

theorem bind {x y : Outcome α} {f g : α → Outcome β} (h : Below lost x y)
    (hf : ∀ a, Below lost (f a) (g a)) : Below lost (x >>= f) (y >>= g) := by
  rcases h with rfl | ⟨e, he, rfl⟩
  · cases x with
    | ok a => exact hf a
    | error e => exact refl _
  · exact of_lost he _

theorem mapM {f g : α → Outcome β} (hf : ∀ a, Below lost (f a) (g a)) (xs : List α) :
    Below lost (xs.mapM f) (xs.mapM g) := by
  induction xs with
  | nil => exact refl _
  | cons x xs ih =>
      rw [List.mapM_cons, List.mapM_cons]
      exact (hf x).bind fun _ => ih.bind fun _ => refl _

theorem filterAuxM {f g : α → Outcome Bool} (hf : ∀ a, Below lost (f a) (g a)) (xs kept : List α) :
    Below lost (xs.filterAuxM f kept) (xs.filterAuxM g kept) := by
  induction xs generalizing kept with
  | nil => exact refl _
  | cons x xs ih => exact (hf x).bind fun b => ih (cond b (x :: kept) kept)

theorem filterM {f g : α → Outcome Bool} (hf : ∀ a, Below lost (f a) (g a)) (xs : List α) :
    Below lost (xs.filterM f) (xs.filterM g) :=
  (filterAuxM hf xs []).bind fun _ => refl _

end Outcome.Below

open Outcome (Below)

/-! ### Functions -/

/-- Arguments written alike, whose meanings are related. -/
structure Argument.Below (lost : Halt → Prop) (a b : Argument) : Prop where
  node : a.node = b.node
  evaluate : ∀ set, Outcome.Below lost (a.evaluate set) (b.evaluate set)
  holds : ∀ set, Outcome.Below lost (a.holds set) (b.holds set)
  operand : ∀ set, Outcome.Below lost (a.operand set) (b.operand set)

namespace Call

variable {lost : Halt → Prop} {name : String} {args args' : List Argument} {input : ValueSet}

theorem scalarArgument_below (h : List.Forall₂ (Argument.Below lost) args args') :
    Below lost (scalarArgument ⟨name, args, input⟩) (scalarArgument ⟨name, args', input⟩) := by
  cases h with
  | nil => exact .refl _
  | @cons a b _ _ hab _ =>
      change Below lost (a.operand input >>= _) (b.operand input >>= _)
      refine (hab.operand input).bind fun found => ?_
      rw [hab.node]
      exact .refl _

theorem map_below (h : List.Forall₂ (Argument.Below lost) args args') :
    Below lost (map ⟨name, args, input⟩) (map ⟨name, args', input⟩) := by
  refine Outcome.Below.bind (.mapM (fun item => ?_) _) fun _ => .refl _
  cases h with
  | nil => exact .refl _
  | cons hab _ => exact hab.evaluate (.single item)

theorem filter_below (h : List.Forall₂ (Argument.Below lost) args args') :
    Below lost (filter ⟨name, args, input⟩) (filter ⟨name, args', input⟩) := by
  cases h with
  | nil => exact .refl _
  | @cons a b _ _ hab _ =>
      change Below lost
        (if a.node.isCondition then _ else Outcome.mismatch (.filterCondition a.node))
        (if b.node.isCondition then _ else Outcome.mismatch (.filterCondition b.node))
      rw [hab.node]
      split
      · exact (Outcome.Below.filterM (fun item => hab.holds (.single item)) _).bind
          fun _ => .refl _
      · exact .refl _

end Call

/-- Only `map`, `filter`, `matches` and `contains` look at their argument. -/
theorem Builtin.run_below {lost : Halt → Prop} {name : String} {args args' : List Argument}
    {input : ValueSet} (h : List.Forall₂ (Argument.Below lost) args args') (b : Builtin) :
    Below lost (b.run ⟨name, args, input⟩) (b.run ⟨name, args', input⟩) := by
  cases b with
  | map => exact Call.map_below h
  | filter => exact Call.filter_below h
  | matchesRegex => exact (Call.scalarArgument_below h).bind fun _ => .refl _
  | contains => exact (Call.scalarArgument_below h).bind fun _ => .refl _
  | _ => exact .refl _

theorem Registry.invoke_below {lost : Halt → Prop} {name : String} {args args' : List Argument}
    {input : ValueSet} (h : List.Forall₂ (Argument.Below lost) args args') (r : Registry) :
    Below lost (r.invoke ⟨name, args, input⟩) (r.invoke ⟨name, args', input⟩) := by
  unfold Registry.invoke
  dsimp only
  rw [h.length_eq]
  split
  · exact .refl _
  · split
    · exact .refl _
    · exact Builtin.run_below h _

/-! ### Steps and conditions -/

namespace Scope

/-- The parts of two evaluations in which they may differ are related. -/
structure Below (lost : Halt → Prop) (s t : Scope) : Prop where
  functions : s.functions = t.functions
  base : s.base = t.base
  target : ∀ name, s.policy.target? name = t.policy.target? name
  member : ∀ step name value,
    Outcome.Below lost (s.member step name value) (t.member step name value)
  recover : ∀ miss, Outcome.Below lost (s.recover miss) (t.recover miss)
  enter : ∀ {name target}, t.policy.target? name = some target →
    Outcome.Below lost (s.enter s.strict target.steps) (t.enter t.strict target.steps)

namespace Below

variable {lost : Halt → Prop} {s t : Scope}

theorem groupMember (h : Below lost s t) (step : Step) (value : Json) (name : String) :
    Outcome.Below lost (s.groupMember step value name) (t.groupMember step value name) := by
  unfold Scope.groupMember
  rw [h.target]
  split
  · rename_i ht
    exact (h.enter ht).bind fun _ => .refl _
  · exact h.member step name value

theorem select (h : Below lost s t) (step : Step) (value : Json) :
    Outcome.Below lost (s.select step value) (t.select step value) := by
  unfold Scope.select
  split
  · exact h.member _ _ _
  · exact (Outcome.Below.mapM (h.groupMember step _) _).bind fun _ => .refl _
  · split
    · exact .refl _
    · exact h.recover _
  · exact .refl _
  · exact .refl _
  · exact .refl _
  · exact h.recover _

theorem applyStep (h : Below lost s t) (step : Step) (set : ValueSet) :
    Outcome.Below lost (s.applyStep step set) (t.applyStep step set) :=
  (Outcome.Below.mapM (h.select step) _).bind fun _ => .refl _

mutual

theorem evalSteps (h : Below lost s t) (steps : List (Located Node)) (set : ValueSet) :
    Outcome.Below lost (s.evalSteps steps set) (t.evalSteps steps set) := by
  match steps with
  | [] => exact .refl _
  | ⟨node, position⟩ :: rest =>
      unfold Scope.evalSteps
      exact (evalStep h node position set).bind fun _ => evalSteps h rest _

theorem evalStep (h : Below lost s t) (node : Node) (position : Nat) (set : ValueSet) :
    Outcome.Below lost (s.evalStep node position set) (t.evalStep node position set) := by
  unfold Scope.evalStep
  match node with
  | .root => rw [h.base]; exact .refl _
  | .current => exact .refl _
  | .call name args =>
      -- the function evaluates its arguments itself, on sets of its choice
      rw [h.functions]
      exact Registry.invoke_below (evalArguments h name args) _
  | .comparison _ _ _ => exact .refl _
  | .condition _ _ _ => exact .refl _
  | .not _ => exact .refl _
  | .literal _ => exact .refl _
  | .path _ => exact .refl _
  | .property _ => exact h.applyStep _ _
  | .index _ => exact h.applyStep _ _
  | .slice _ => exact h.applyStep _ _
  | .wildcard => exact h.applyStep _ _
  | .multiKey _ => exact h.applyStep _ _
  | .omission _ => exact h.applyStep _ _

theorem evalArguments (h : Below lost s t) (name : String) (args : List Node) :
    List.Forall₂ (Argument.Below lost) (s.evalArguments name args) (t.evalArguments name args) := by
  match args with
  | [] => exact .nil
  | arg :: rest =>
      unfold Scope.evalArguments
      refine .cons ⟨rfl, fun current => ?_, test h arg, operand h arg⟩ (evalArguments h name rest)
      dsimp only
      -- a condition is an argument by its truth value
      split
      · exact (test h arg current).bind fun _ => .refl _
      · exact evalNested h name arg current

theorem evalNested (h : Below lost s t) (name : String) (arg : Node) (current : ValueSet) :
    Outcome.Below lost (s.evalNested name arg current) (t.evalNested name arg current) := by
  unfold Scope.evalNested
  match arg with
  | .path steps => exact evalSteps h steps current
  | .literal _ | .current | .root | .call _ _ | .comparison _ _ _ | .condition _ _ _ | .not _
  | .property _ | .index _ | .slice _ | .wildcard | .multiKey _ | .omission _ => exact .refl _

theorem test (h : Below lost s t) (node : Node) (current : ValueSet) :
    Outcome.Below lost (s.test node current) (t.test node current) := by
  unfold Scope.test
  match node with
  | .comparison op left right =>
      exact (operand h left current).bind fun _ => (operand h right current).bind fun _ => .refl _
  | .condition op left right =>
      -- the right side counts only where the left one leaves the answer open
      refine (test h left current).bind fun _ => ?_
      split
      · exact .refl _
      · exact .refl _
      · exact test h right current
  | .not inner => exact (test h inner current).bind fun _ => .refl _
  | .literal _ | .current | .root | .call _ _ | .path _ | .property _ | .index _ | .slice _
  | .wildcard | .multiKey _ | .omission _ => exact .refl _

theorem operand (h : Below lost s t) (node : Node) (current : ValueSet) :
    Outcome.Below lost (s.operand node current) (t.operand node current) := by
  unfold Scope.operand
  match node with
  | .path steps => exact (evalSteps h steps current).bind fun _ => .refl _
  | .literal _ | .current | .root | .call _ _ | .comparison _ _ _ | .condition _ _ _ | .not _
  | .property _ | .index _ | .slice _ | .wildcard | .multiKey _ | .omission _ => exact .refl _

end

end Below

end Scope

end PathQuery
