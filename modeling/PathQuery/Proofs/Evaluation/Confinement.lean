import PathQuery.Proofs.Evaluation.Errors

/-!
What an evaluation can halt with, on any tree. Every error but a miss may come out of a tree whose
nodes are out of place, so a set of halts that is to hold whatever an evaluation halts with contains
these. For the rest it is enough that it holds what recovery and the aliases named in key groups
halt with: the main statement is `Scope.Confined.evalSteps`, by the recursion of the evaluator.
-/

namespace PathQuery

namespace Scope

/-- The halts in `P` are closed under the evaluation of trees whose key groups name members and
aliases in `named`. -/
structure Confined (s : Scope) (named : String → Prop) (P : Halt → Prop) : Prop where
  fatal : ∀ halt : Halt, halt.Fatal → halt ≠ .circular → P halt
  recover : ∀ m : Miss, Outcome.HaltsIn P (s.recover m)
  enter : ∀ {name : String} {target : Query}, named name → s.policy.target? name = some target →
    Outcome.HaltsIn P (s.enter s.strict target.steps)

namespace Confined

variable {s : Scope} {named : String → Prop} {P : Halt → Prop}

theorem mismatch (h : s.Confined named P) {α : Type} (m : Mismatch) :
    Outcome.HaltsIn P (.mismatch m : Outcome α) :=
  .error (h.fatal _ nofun nofun)

theorem ordinary (h : s.Confined named P) (halt : Halt) (ho : halt.Ordinary) : P halt := by
  cases ho with
  | mismatch _ | unknownFunction _ | arity _ _ _ _ | disorder _ => exact h.fatal _ nofun nofun

theorem applyStep (h : s.Confined named P) {step : Step}
    (hg : ∀ name ∈ step.node.groupNames, named name) (set : ValueSet) :
    Outcome.HaltsIn P (s.applyStep step set) :=
  applyStep_haltsIn (fun _ _ => h.recover _) (fun name hn _ ht => h.enter (hg name hn) ht) set

mutual

theorem evalSteps (h : s.Confined named P) (steps : List (Located Node))
    (hg : ∀ step ∈ Node.withInnerSteps steps, ∀ name ∈ step.node.groupNames, named name)
    (set : ValueSet) : Outcome.HaltsIn P (s.evalSteps steps set) := by
  match steps with
  | [] =>
      rw [Scope.evalSteps]
      exact .ok _
  | ⟨node, position⟩ :: rest =>
      rw [Node.withInnerSteps, List.forall_mem_cons, List.forall_mem_append] at hg
      obtain ⟨here, inside, behind⟩ := hg
      rw [Scope.evalSteps]
      exact (evalStep h node here inside position set).bind fun set' _ =>
        evalSteps h rest behind set'

theorem evalStep (h : s.Confined named P) (node : Node)
    (here : ∀ name ∈ node.groupNames, named name)
    (hg : ∀ step ∈ node.innerSteps, ∀ name ∈ step.node.groupNames, named name)
    (position : Nat) (set : ValueSet) : Outcome.HaltsIn P (s.evalStep node position set) := by
  match node with
  | .root | .current =>
      rw [Scope.evalStep]
      exact .ok _
  | .call name args =>
      rw [Scope.evalStep]
      exact Registry.invoke_haltsIn h.ordinary (evalArguments h name args hg) _
  | .comparison _ _ _ | .condition _ _ _ | .not _ | .literal _ | .path _ =>
      rw [Scope.evalStep]
      exact h.mismatch _
  | .property _ | .index _ | .slice _ | .wildcard | .multiKey _ | .omission _ =>
      rw [Scope.evalStep]
      exact h.applyStep here set

theorem evalArguments (h : s.Confined named P) (name : String) (args : List Node)
    (hg : ∀ step ∈ Node.innerStepsOfAll args, ∀ name ∈ step.node.groupNames, named name) :
    ∀ a ∈ s.evalArguments name args, a.HaltsIn P := by
  match args with
  | [] =>
      rw [Scope.evalArguments]
      exact nofun
  | arg :: rest =>
      rw [Node.innerStepsOfAll, List.forall_mem_append] at hg
      rw [Scope.evalArguments, List.forall_mem_cons]
      refine ⟨⟨fun set => ?_, fun _ => test h arg hg.1, operand h arg hg.1⟩,
        evalArguments h name rest hg.2⟩
      dsimp only
      split
      · exact (test h arg hg.1 set).bind fun _ _ => .ok _
      · exact evalNested h name arg hg.1 set

theorem evalNested (h : s.Confined named P) (name : String) (arg : Node)
    (hg : ∀ step ∈ arg.innerSteps, ∀ name ∈ step.node.groupNames, named name) (set : ValueSet) :
    Outcome.HaltsIn P (s.evalNested name arg set) := by
  match arg with
  | .path steps =>
      rw [Scope.evalNested]
      exact evalSteps h steps hg set
  | .literal _ | .current =>
      rw [Scope.evalNested]
      exact .ok _
  | .root | .call _ _ | .comparison _ _ _ | .condition _ _ _ | .not _ | .property _ | .index _
  | .slice _ | .wildcard | .multiKey _ | .omission _ =>
      unfold Scope.evalNested
      exact h.mismatch _

theorem test (h : s.Confined named P) (node : Node)
    (hg : ∀ step ∈ node.innerSteps, ∀ name ∈ step.node.groupNames, named name) (set : ValueSet) :
    Outcome.HaltsIn P (s.test node set) := by
  match node with
  | .comparison op left right =>
      rw [Node.innerSteps, List.forall_mem_append] at hg
      rw [Scope.test]
      refine (operand h left hg.1 set).bind fun _ _ => ?_
      refine (operand h right hg.2 set).bind fun _ _ => ?_
      exact compareOperands_haltsIn (fun _ hm => h.ordinary _ (.ofValues hm)) _ _ _
  | .condition op left right =>
      rw [Node.innerSteps, List.forall_mem_append] at hg
      rw [Scope.test]
      refine (test h left hg.1 set).bind fun _ _ => ?_
      split
      · exact .ok _
      · exact .ok _
      · exact test h right hg.2 set
  | .not inner =>
      rw [Scope.test]
      exact (test h inner hg set).bind fun _ _ => .ok _
  | .root | .current | .call _ _ | .literal _ | .path _ | .property _ | .index _ | .slice _
  | .wildcard | .multiKey _ | .omission _ =>
      unfold Scope.test
      exact h.mismatch _

theorem operand (h : s.Confined named P) (node : Node)
    (hg : ∀ step ∈ node.innerSteps, ∀ name ∈ step.node.groupNames, named name) (set : ValueSet) :
    Outcome.HaltsIn P (s.operand node set) := by
  match node with
  | .path steps =>
      rw [Scope.operand]
      exact (evalSteps h steps hg set).bind fun _ _ => scalarOf_haltsIn h.ordinary _ _
  | .literal _ =>
      rw [Scope.operand]
      exact .ok _
  | .current =>
      rw [Scope.operand]
      exact scalarOf_haltsIn h.ordinary _ _
  | .root | .call _ _ | .comparison _ _ _ | .condition _ _ _ | .not _ | .property _ | .index _
  | .slice _ | .wildcard | .multiKey _ | .omission _ =>
      unfold Scope.operand
      exact h.mismatch _

end

end Confined

end Scope

theorem Engine.evalQuery_confined {P : Halt → Prop} (e : Engine) {document : Json}
    (h : (e.scope document).Confined (fun _ => True) P) (q : Query) :
    Outcome.HaltsIn P (e.evalQuery q document) := by
  refine (h.evalSteps _ (fun _ _ _ _ => trivial) _).bind fun set _ => ?_
  split
  · exact (h.test _ (fun _ _ _ _ => trivial) set).bind fun _ _ => .ok _
  · exact .ok _

end PathQuery
