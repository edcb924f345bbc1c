import PathQuery.Proofs.Evaluation.Nesting

/-!
Evaluations that never end. Calls whose nesting is bounded give what the evaluation gives, or they
nest too deep; by induction on the bound, since one call more is one more level at most. So an
evaluation that is found `circular` nests beyond every bound, and conversely.
-/

namespace PathQuery

namespace Calls

variable {p : Policy} {functions : Registry} {base : Json} {c : Calls}

/-- The calls give what the evaluation gives, unless they nest too deep. -/
structure Below (p : Policy) (functions : Registry) (base : Json) (c : Calls) : Prop where
  path : ∀ strict steps set, Outcome.Below (· = .circular) (c.path strict steps set)
    ((scopeAt p functions base p.levels strict).evalSteps steps set)
  test : ∀ strict node set, Outcome.Below (· = .circular) (c.test strict node set)
    ((scopeAt p functions base p.levels strict).test node set)
  operand : ∀ strict node set, Outcome.Below (· = .circular) (c.operand strict node set)
    ((scopeAt p functions base p.levels strict).operand node set)

namespace Below

variable (h : Below p functions base c)

include h

theorem nested (strict : Bool) (name : String) (arg : Node) (set : ValueSet) :
    Outcome.Below (· = .circular) (c.nested strict name arg set)
      ((scopeAt p functions base p.levels strict).evalNested name arg set) := by
  unfold Calls.nested Scope.evalNested
  cases arg with
  | path steps => exact h.path strict steps set
  | literal _ | current | root | call _ _ | comparison _ _ _ | condition _ _ _ | not _
  | property _ | index _ | slice _ | wildcard | multiKey _ | omission _ => exact .refl _

theorem argument (strict : Bool) (name : String) (args : List Node) :
    List.Forall₂ (Argument.Below (· = .circular)) (args.map (c.argument strict name))
      ((scopeAt p functions base p.levels strict).evalArguments name args) := by
  induction args with
  | nil =>
      rw [Scope.evalArguments]
      exact .nil
  | cons arg rest ih =>
      rw [List.map_cons, Scope.evalArguments]
      refine .cons ⟨rfl, fun set => ?_, h.test strict arg, h.operand strict arg⟩ ih
      dsimp only [Calls.argument]
      split
      · exact (h.test strict arg set).bind fun _ => .refl _
      · exact h.nested strict name arg set

/-- A path of the policy takes one level less, which makes no difference. -/
theorem scope (strict : Bool) : Scope.Below (· = .circular) (c.scope p functions base strict)
    (scopeAt p functions base p.levels strict) := by
  have enter (strict : Bool) (steps : List Step) : Outcome.Below (· = .circular)
      (c.path strict steps (.single base)) (enterPath p functions base p.levels strict steps) := by
    rw [enterPath_eq_evalPath]
    exact h.path strict steps (.single base)
  exact .of_enter circular_fatal rfl rfl rfl rfl (fun _ => enter strict _)
    fun _ q _ => enter true q.steps

theorem step (strict : Bool) (node : Node) (position : Nat) (set : ValueSet) :
    Outcome.Below (· = .circular)
      (c.step (c.scope p functions base strict) ⟨node, position⟩ set)
      ((scopeAt p functions base p.levels strict).evalStep node position set) := by
  unfold Scope.evalStep
  cases node with
  | call name args => exact Registry.invoke_below (h.argument strict name args) functions
  | property _ | index _ | slice _ | wildcard | multiKey _ | omission _ =>
      exact (h.scope strict).applyStep _ set
  | root | current | comparison _ _ _ | condition _ _ _ | not _ | literal _ | path _ =>
      exact .refl _

/-- One call more keeps to the evaluation. -/
theorem once : Below p functions base (Calls.once p functions base c) where
  path strict steps set := by
    induction steps generalizing set with
    | nil =>
        rw [Scope.evalSteps]
        exact .refl _
    | cons step rest ih =>
        rw [Scope.evalSteps]
        exact (h.step strict step.node step.position set).bind ih
  test strict node set := by
    unfold Scope.test
    cases node with
    | comparison op left right =>
        exact (h.operand strict left set).bind fun _ =>
          (h.operand strict right set).bind fun _ => .refl _
    | condition op left right =>
        -- the right side counts only where the left one leaves the answer open
        refine (h.test strict left set).bind fun holds => ?_
        cases op with
        | and =>
            cases holds with
            | false => exact .refl _
            | true => exact h.test strict right set
        | or =>
            cases holds with
            | false => exact h.test strict right set
            | true => exact .refl _
    | not inner => exact (h.test strict inner set).bind fun _ => .refl _
    | literal _ | current | root | call _ _ | path _ | property _ | index _ | slice _
    | wildcard | multiKey _ | omission _ => exact .refl _
  operand strict node set := by
    unfold Scope.operand
    cases node with
    | path steps => exact (h.path strict steps set).bind fun _ => .refl _
    | literal _ | current | root | call _ _ | comparison _ _ _ | condition _ _ _ | not _
    | property _ | index _ | slice _ | wildcard | multiKey _ | omission _ => exact .refl _

end Below

/-- The induction is on the bound. -/
theorem within_below (n : Nat) : Below p functions base (within p functions base n) := by
  induction n with
  | zero =>
      have lost {α : Type} (x : Outcome α) : Outcome.Below (· = .circular) (.error .circular) x :=
        .inr ⟨_, rfl, rfl⟩
      exact ⟨fun _ _ _ => lost _, fun _ _ _ => lost _, fun _ _ _ => lost _⟩
  | succ n ih => exact ih.once

end Calls

namespace Engine

variable (e : Engine) (q : Query) (document : Json)

theorem evalQueryWithin_below (n : Nat) : Outcome.Below (· = .circular)
    (e.evalQueryWithin n q document) (e.evalQuery q document) := by
  have calls : Calls.Below e.policy e.functions document _ := Calls.within_below n
  rw [evalQueryWithin, evalQuery]
  generalize splitCondition (e.policy.expand q).steps = parts
  obtain ⟨path, condition⟩ := parts
  refine (calls.path e.strict path (.single document)).bind fun set => ?_
  cases condition with
  | none => exact .refl _
  | some node => exact (calls.test e.strict node set).bind fun _ => .refl _

/-- An evaluation is circular just when no bound on the nesting of its calls is enough. -/
theorem evalQuery_circular_iff : e.evalQuery q document = .error .circular ↔
    ∀ n, e.evalQueryWithin n q document = .error .circular := by
  constructor
  · intro circular n
    rcases e.evalQueryWithin_below q document n with same | ⟨_, rfl, circular'⟩
    · exact same.trans circular
    · exact circular'
  · intro beyond
    rcases e.evalQuery_within q document (Nat.le_refl _) with same | ⟨_, rfl, circular⟩
    · exact same.trans (beyond _)
    · exact circular

end Engine

end PathQuery
