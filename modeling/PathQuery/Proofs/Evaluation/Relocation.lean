import PathQuery.Proofs.Function.Relocation

/-!
The evaluation never looks at a position. Moving the positions in a query and in the paths of the
policy moves those in the error that the evaluation fails with, and changes nothing else.
-/

namespace PathQuery

open Outcome (Moved)

variable {f : Nat → Nat}

/-! ### Paths of the policy -/

def Fallback.relocate (f : Nat → Nat) : Fallback → Fallback
  | .plain last => .plain last
  | .infer keys queries last => .infer keys (queries.map (Query.relocate f)) last

/-- The policy with the positions in its paths moved. -/
def Policy.relocate (f : Nat → Nat) (p : Policy) : Policy where
  aliases := p.aliases.map fun a => ⟨a.name, a.target.relocate f⟩
  fallback := p.fallback.relocate f
  fuzzy := p.fuzzy

theorem Policy.target?_relocate (f : Nat → Nat) (p : Policy) (name : String) :
    (p.relocate f).target? name = (p.target? name).map (Query.relocate f) := by
  simp only [Policy.target?, Policy.relocate, List.find?_map, Option.map_map]
  rfl

/-! ### Steps that do not resolve -/

def Miss.relocate (f : Nat → Nat) (m : Miss) : Miss :=
  { m with step := m.step.relocate f }

theorem Miss.notFound_relocate (m : Miss) : (m.relocate f).notFound = m.notFound.relocate f := by
  obtain ⟨step, key, value⟩ := m
  cases key <;> rfl

namespace Scope

/-- Evaluations of which the second has the positions in the paths of the policy moved. -/
structure Moved (f : Nat → Nat) (s t : Scope) : Prop where
  policy : t.policy = s.policy.relocate f
  functions : t.functions = s.functions
  base : t.base = s.base
  strict : t.strict = s.strict
  enter : ∀ strict steps,
    Outcome.Moved f (s.enter strict steps) (t.enter strict (steps.map (Step.relocate f)))

namespace Moved

variable {s t : Scope}

theorem fallback (h : s.Moved f t) : t.fallback = s.fallback.relocate f := by
  unfold Scope.fallback
  rw [h.strict, h.policy]
  split
  · rfl
  · rfl

theorem lastResort (m : Miss) (last : LastResort) :
    Outcome.Moved f (lastResort m last) (lastResort (m.relocate f) last) := by
  cases last with
  | substitute value => exact .ok _
  | skip => exact .ok _
  | fail =>
      unfold Scope.lastResort
      rw [m.notFound_relocate]
      exact .error _

/-- A miss is passed over wherever it is. -/
theorem alternateQuery? (h : s.Moved f t) (queries : List Query) :
    Outcome.Moved f (s.alternateQuery? queries)
      (t.alternateQuery? (queries.map (Query.relocate f))) := by
  induction queries with
  | nil => exact .ok _
  | cons q rest ih =>
      have first : Outcome.Moved f (s.enter true q.steps) (t.enter true (q.relocate f).steps) :=
        h.enter true q.steps
      rw [List.map_cons]
      unfold Scope.alternateQuery?
      generalize s.enter true q.steps = x, t.enter true (q.relocate f).steps = y at first
      cases first with
      | ok set =>
          dsimp only
          split
          · exact ih
          · exact .ok _
      | error halt =>
          cases halt with
          | circular | disorder _ => exact .error _
          | error e =>
              cases e with
              | pathNotFound _ _ => exact ih
              | _ => exact .error _

theorem recover (h : s.Moved f t) (m : Miss) :
    Outcome.Moved f (s.recover m) (t.recover (m.relocate f)) := by
  unfold Scope.recover
  rw [h.fallback]
  cases s.fallback with
  | plain last => exact lastResort m last
  | infer keys queries last =>
      have member : t.alternateMember? (m.relocate f) keys = s.alternateMember? m keys := by
        unfold alternateMember?
        rw [h.policy]
        rfl
      dsimp only [Fallback.relocate]
      rw [member]
      split
      · exact .ok _
      · refine (h.alternateQuery? queries).bind fun found => ?_
        cases found with
        | some values => exact .ok _
        | none => exact lastResort m last

/-! ### Path steps -/

theorem member (h : s.Moved f t) (step : Step) (name : String) (value : Json) :
    Outcome.Moved f (s.member step name value) (t.member (step.relocate f) name value) := by
  unfold Scope.member
  rw [h.policy]
  dsimp only [Policy.relocate]
  split
  · exact .ok _
  · exact h.recover ⟨step, some name, value⟩

theorem groupMember (h : s.Moved f t) (step : Step) (value : Json) (name : String) :
    Outcome.Moved f (s.groupMember step value name)
      (t.groupMember (step.relocate f) value name) := by
  unfold Scope.groupMember
  rw [h.policy, Policy.target?_relocate, h.strict]
  cases s.policy.target? name with
  | some target => exact (h.enter s.strict target.steps).bind fun _ => .ok _
  | none => exact h.member step name value

theorem select (h : s.Moved f t) (step : Step) (value : Json) :
    Outcome.Moved f (s.select step value) (t.select (step.relocate f) value) := by
  obtain ⟨node, position⟩ := step
  cases node with
  | property name => exact h.member ⟨.property name, position⟩ name value
  | multiKey names =>
      exact (Outcome.Moved.mapM (h.groupMember ⟨.multiKey names, position⟩ value) names).bind
        fun _ => .ok _
  | wildcard => exact .ok _
  | index i =>
      cases value with
      | array items =>
          unfold Scope.select
          dsimp only [Step.relocate, Node.relocate]
          split
          · exact .ok _
          · exact h.recover ⟨⟨.index i, position⟩, none, .array items⟩
      | _ => exact h.recover ⟨⟨.index i, position⟩, none, _⟩
  | slice bounds =>
      cases value with
      | array items => exact .ok _
      | _ => exact h.recover ⟨⟨.slice bounds, position⟩, none, _⟩
  | omission names =>
      cases value with
      | object members => exact .ok _
      | _ => exact h.recover ⟨⟨.omission names, position⟩, none, _⟩
  | _ => exact h.recover ⟨⟨_, position⟩, none, value⟩

theorem applyStep (h : s.Moved f t) (step : Step) (set : ValueSet) :
    Outcome.Moved f (s.applyStep step set) (t.applyStep (step.relocate f) set) := by
  have fans : fansOut (step.relocate f).node = fansOut step.node := by
    obtain ⟨node, position⟩ := step
    cases node <;> rfl
  unfold Scope.applyStep
  rw [fans]
  exact (Outcome.Moved.mapM (h.select step) set.values).bind fun _ => .ok _

/-! ### Trees -/

mutual

/-- The induction is on the steps. -/
theorem evalSteps (h : s.Moved f t) (steps : List (Located Node)) (set : ValueSet) :
    Outcome.Moved f (s.evalSteps steps set)
      (t.evalSteps (Node.relocateSteps f steps) set) := by
  match steps with
  | [] => exact .ok set
  | ⟨node, position⟩ :: rest =>
      rw [Node.relocateSteps, Scope.evalSteps, Scope.evalSteps]
      exact (evalStep h node position set).bind (evalSteps h rest)

theorem evalStep (h : s.Moved f t) (node : Node) (position : Nat) (set : ValueSet) :
    Outcome.Moved f (s.evalStep node position set)
      (t.evalStep (node.relocate f) (f position) set) := by
  match node with
  | .root =>
      rw [Node.relocate, Scope.evalStep, Scope.evalStep, h.base]
      exact .ok _
  | .current =>
      rw [Node.relocate, Scope.evalStep, Scope.evalStep]
      exact .ok set
  | .call name args =>
      rw [Node.relocate, Scope.evalStep, Scope.evalStep, h.functions]
      exact Registry.invoke_moved (evalArguments h name args) _
  | .comparison _ _ _ | .condition _ _ _ | .not _ | .literal _ | .path _ =>
      rw [Node.relocate, Scope.evalStep, Scope.evalStep]
      exact .error _
  | .property _ | .index _ | .slice _ | .wildcard | .multiKey _ | .omission _ =>
      rw [Node.relocate, Scope.evalStep, Scope.evalStep]
      exact h.applyStep _ set

theorem evalArguments (h : s.Moved f t) (name : String) (args : List Node) :
    List.Forall₂ (Argument.Moved f) (s.evalArguments name args)
      (t.evalArguments name (Node.relocateAll f args)) := by
  match args with
  | [] => exact .nil
  | arg :: rest =>
      rw [Node.relocateAll, Scope.evalArguments, Scope.evalArguments]
      refine .cons ⟨rfl, fun set => ?_, test h arg, operand h arg⟩ (evalArguments h name rest)
      dsimp only
      rw [Node.isCondition_relocate]
      split
      · exact (test h arg set).bind fun _ => .ok _
      · exact evalNested h name arg set

theorem evalNested (h : s.Moved f t) (name : String) (arg : Node) (set : ValueSet) :
    Outcome.Moved f (s.evalNested name arg set) (t.evalNested name (arg.relocate f) set) := by
  match arg with
  | .path steps =>
      rw [Node.relocate, Scope.evalNested, Scope.evalNested]
      exact evalSteps h steps set
  | .literal _ | .current =>
      rw [Node.relocate, Scope.evalNested, Scope.evalNested]
      exact .ok _
  | .root | .call _ _ | .comparison _ _ _ | .condition _ _ _ | .not _ | .property _ | .index _
  | .slice _ | .wildcard | .multiKey _ | .omission _ =>
      rw [Node.relocate]
      unfold Scope.evalNested
      exact .error _

theorem test (h : s.Moved f t) (node : Node) (set : ValueSet) :
    Outcome.Moved f (s.test node set) (t.test (node.relocate f) set) := by
  match node with
  | .comparison op left right =>
      rw [Node.relocate, Scope.test, Scope.test]
      exact (operand h left set).bind fun _ => (operand h right set).bind fun _ =>
        compareOperands_moved op _ _
  | .condition op left right =>
      rw [Node.relocate, Scope.test, Scope.test]
      refine (test h left set).bind fun _ => ?_
      split
      · exact .ok _
      · exact .ok _
      · exact test h right set
  | .not inner =>
      rw [Node.relocate, Scope.test, Scope.test]
      exact (test h inner set).bind fun _ => .ok _
  | .root | .current | .call _ _ | .literal _ | .path _ | .property _ | .index _ | .slice _
  | .wildcard | .multiKey _ | .omission _ =>
      rw [Node.relocate]
      unfold Scope.test
      exact .error _

theorem operand (h : s.Moved f t) (node : Node) (set : ValueSet) :
    Outcome.Moved f (s.operand node set) (t.operand (node.relocate f) set) := by
  match node with
  | .path steps =>
      rw [Node.relocate, Scope.operand, Scope.operand]
      refine (evalSteps h steps set).bind fun _ => ?_
      rw [← Node.relocate]
      exact scalarOf_moved _ _
  | .literal _ =>
      rw [Node.relocate, Scope.operand, Scope.operand]
      exact .ok _
  | .current =>
      rw [Node.relocate, Scope.operand, Scope.operand]
      exact scalarOf_moved .current set
  | .root | .call _ _ | .comparison _ _ _ | .condition _ _ _ | .not _ | .property _ | .index _
  | .slice _ | .wildcard | .multiKey _ | .omission _ =>
      rw [Node.relocate]
      unfold Scope.operand
      exact .error _

end

end Moved

end Scope

/-! ### Queries -/

/-- The induction is on the levels. -/
theorem enterPath_moved (p : Policy) (functions : Registry) (base : Json) (level : Nat)
    (strict : Bool) (steps : List Step) :
    Outcome.Moved f (enterPath p functions base level strict steps)
      (enterPath (p.relocate f) functions base level strict (steps.map (Step.relocate f))) := by
  induction level generalizing strict steps with
  | zero => exact .error _
  | succ level ih =>
      have scopes : Scope.Moved f (scopeAt p functions base level strict)
          (scopeAt (p.relocate f) functions base level strict) := ⟨rfl, rfl, rfl, rfl, ih⟩
      have moved := scopes.evalSteps steps (.single base)
      rwa [Node.relocateSteps_eq_map] at moved

namespace Policy

theorem stepTarget?_relocate (p : Policy) (n : Node) :
    (p.relocate f).stepTarget? (n.relocate f) = (p.stepTarget? n).map (Query.relocate f) := by
  cases n with
  | property name => exact p.target?_relocate f name
  | _ => rfl

theorem stepsAt_relocate (target : Query) (position : Nat) :
    (target.relocate f).stepsAt (f position) =
      (target.stepsAt position).map (Step.relocate f) := by
  simp only [Query.stepsAt, Query.relocate, List.map_map]
  rfl

/-- Once the nodes of a path are, the path is. -/
theorem expandSteps_relocate (p : Policy) (before : List Step) {steps : List Step}
    (h : ∀ s ∈ steps, (p.relocate f).expandNode (s.node.relocate f) =
      (p.expandNode s.node).relocate f) :
    (p.relocate f).expandSteps (before.map (Step.relocate f)) (steps.map (Step.relocate f)) =
      (p.expandSteps before steps).map (Step.relocate f) := by
  induction steps generalizing before with
  | nil => simp only [List.map_nil, expandSteps]
  | cons s rest ih =>
      rw [List.forall_mem_cons] at h
      rw [List.map_cons]
      cases ht : p.stepTarget? s.node with
      | some target =>
          have moved : (p.relocate f).stepTarget? (s.relocate f).node =
              some (target.relocate f) := by
            rw [Step.relocate, stepTarget?_relocate, ht, Option.map_some]
          rw [expandSteps_cons_alias rest ht, expandSteps_cons_alias _ moved, Step.relocate,
            stepsAt_relocate, ih _ h.2]
      | none =>
          have moved : (p.relocate f).stepTarget? (s.relocate f).node = none := by
            rw [Step.relocate, stepTarget?_relocate, ht, Option.map_none]
          have step : (p.relocate f).expandStep (s.relocate f) =
              (p.expandStep s).relocate f := by
            simp only [expandStep, Step.relocate, h.1]
          rw [expandSteps_cons_plain rest ht, expandSteps_cons_plain _ moved, step,
            ← ih _ h.2, List.map_append, List.map_singleton]

theorem expandNode_relocate (p : Policy) (n : Node) :
    (p.relocate f).expandNode (n.relocate f) = (p.expandNode n).relocate f := by
  induction n using Node.induction with
  | leaf n h => cases n <;> first | rfl | cases h
  | path steps ih =>
      simp only [Node.relocate, expandNode, Node.relocateSteps_eq_map]
      exact congrArg _ (p.expandSteps_relocate [] ih)
  | call name args ih =>
      simp only [Node.relocate, expandNode, expandNodes_eq_map, Node.relocateAll_eq_map,
        List.map_map]
      exact congrArg _ (List.map_congr_left ih)
  | comparison op left right hl hr => simp only [Node.relocate, expandNode, hl, hr]
  | condition op left right hl hr => simp only [Node.relocate, expandNode, hl, hr]
  | not inner ih => simp only [Node.relocate, expandNode, ih]

theorem expand_relocate (p : Policy) (q : Query) :
    (p.relocate f).expand (q.relocate f) = (p.expand q).relocate f :=
  congrArg Query.mk (p.expandSteps_relocate [] fun s _ => p.expandNode_relocate s.node)

end Policy

theorem Engine.splitCondition_relocate (steps : List Step) :
    splitCondition (steps.map (Step.relocate f)) =
      ((splitCondition steps).1.map (Step.relocate f),
        (splitCondition steps).2.map (Node.relocate f)) := by
  unfold splitCondition
  rw [List.getLast?_map]
  cases steps.getLast? with
  | none => rfl
  | some last =>
      simp only [Option.map_some, Step.relocate, Node.isCondition_relocate]
      split
      · rw [← List.map_dropLast]
        rfl
      · rfl

/-- Moving the positions in a query and in the paths of the policy moves those in the error. -/
theorem Engine.evalQuery_moved (p : Policy) (functions : Registry) (strict : Bool) (q : Query)
    (document : Json) :
    Outcome.Moved f ((Engine.mk p functions strict).evalQuery q document)
      ((Engine.mk (p.relocate f) functions strict).evalQuery (q.relocate f) document) := by
  have levels : (p.relocate f).levels = p.levels := by
    simp only [Policy.levels, Policy.relocate, List.length_map]
  have scopes : Scope.Moved f ((Engine.mk p functions strict).scope document)
      ((Engine.mk (p.relocate f) functions strict).scope document) := by
    refine ⟨rfl, rfl, rfl, rfl, fun strict steps => ?_⟩
    dsimp only [scope]
    rw [levels]
    exact enterPath_moved p functions document p.levels strict steps
  unfold evalQuery
  dsimp only
  rw [Policy.expand_relocate, Query.relocate, splitCondition_relocate,
    ← Node.relocateSteps_eq_map]
  refine (scopes.evalSteps _ _).bind fun set => ?_
  cases (splitCondition (p.expand q).steps).2 with
  | none => exact .ok _
  | some node => exact (scopes.test node set).bind fun _ => .ok _

end PathQuery
