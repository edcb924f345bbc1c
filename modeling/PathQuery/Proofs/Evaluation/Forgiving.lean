import Mathlib
import PathQuery.Config.Validation
import PathQuery.Proofs.Evaluation.Confinement

/-!
Fallbacks that forgive. One that ends with a value or with nothing answers every miss, so under it
no query fails for want of a step. Misses are still raised, since alternate queries are evaluated
without a fallback; the search through the alternates passes them over. Where paths of the policy
are entered the argument goes by the levels of the evaluation.
-/

namespace PathQuery

open Outcome (HaltsIn)

theorem Outcome.HaltsIn.ne_pathNotFound {α : Type} {x : Outcome α} (h : HaltsIn Halt.Fatal x)
    (node : Node) (position : Nat) : x ≠ .fail (.pathNotFound node position) :=
  fun failed => h _ failed node position rfl

section

variable {p : Policy} (forgives : p.fallback.last ≠ .fail) {functions : Registry} {base : Json}

include forgives

/-- The miss itself is forgiven, and of the errors of alternate queries those that are not passed
over are fatal. -/
theorem scopeAt_confined {level : Nat}
    (enter : ∀ steps, HaltsIn Halt.Fatal (enterPath p functions base level false steps)) :
    (scopeAt p functions base level false).Confined (fun _ => True) Halt.Fatal where
  fatal _ fatal _ := fatal
  recover m := by
    refine Scope.recover_haltsIn_of_last ?_ fun _ _ _ _ _ fatal => fatal
    show HaltsIn _ (Scope.lastResort m p.fallback.last)
    cases hl : p.fallback.last with
    | substitute _ | skip => exact .ok _
    | fail => exact absurd hl forgives
  enter _ _ := enter _

theorem enterPath_forgiving (level : Nat) (steps : List Step) :
    HaltsIn Halt.Fatal (enterPath p functions base level false steps) := by
  induction level generalizing steps with
  | zero => exact .error (circular_fatal _ rfl)
  | succ level ih => exact (scopeAt_confined forgives ih).evalSteps steps (fun _ _ _ _ => trivial) _

end

/-- Under a fallback that forgives, no evaluation fails for want of a step: no query on any
document, and none of the parts that queries are evaluated by, on any current values. -/
theorem Engine.pathNotFound_impossible (e : Engine) (lenient : e.strict = false)
    (forgives : e.policy.fallback.last ≠ .fail) (document : Json) (node : Node) (position : Nat) :
    (∀ q, e.evalQuery q document ≠ .fail (.pathNotFound node position)) ∧
    (∀ steps current, e.evalPath steps document current ≠ .fail (.pathNotFound node position)) ∧
    (∀ condition set, e.test condition document set ≠ .fail (.pathNotFound node position)) ∧
    (∀ n set, e.operand n document set ≠ .fail (.pathNotFound node position)) ∧
    ∀ name args set, e.invoke name args document set ≠ .fail (.pathNotFound node position) := by
  have confined : (e.scope document).Confined (fun _ => True) Halt.Fatal := by
    have levels : (scopeAt e.policy e.functions document e.policy.levels false).Confined
        (fun _ => True) Halt.Fatal := scopeAt_confined forgives (enterPath_forgiving forgives _)
    rwa [← lenient] at levels
  refine ⟨fun q => ?_, fun steps current => ?_, fun condition set => ?_, fun n set => ?_,
    fun name args set => ?_⟩
  · exact (e.evalQuery_confined confined q).ne_pathNotFound _ _
  · have path := confined.evalSteps steps (fun _ _ _ _ => trivial) (current.getD (.single document))
    exact path.ne_pathNotFound _ _
  · exact (confined.test condition (fun _ _ _ _ => trivial) set).ne_pathNotFound _ _
  · exact (confined.operand n (fun _ _ _ _ => trivial) set).ne_pathNotFound _ _
  · have args := confined.evalArguments name args fun _ _ _ _ => trivial
    have invoked := Registry.invoke_haltsIn confined.ordinary (c := ⟨name, _, set⟩) args e.functions
    exact invoked.ne_pathNotFound _ _

set_option maxRecDepth 1000 in
/-- In the argument the alias is evaluated; its path misses, and so does the alternate. -/
theorem pathNotFound_impossible_alias_in_argument :
    ∃ p, Config.validate ⟨[⟨"u", "$.a.b"⟩],
        ⟨.infer, none, some ⟨[], ["$.c"], some ⟨.skip, none⟩⟩⟩, .standard⟩ = .ok p ∧
      (Engine.ofPolicy p).strict = false ∧ p.fallback.last ≠ .fail ∧
      ∃ q alternate, Query.parse "$.map(${u})" = .ok q ∧ Query.parse "$.c" = .ok alternate ∧
        (Engine.mk p .standard true).evalQuery alternate (.object []) =
          .fail (.pathNotFound (.property "c") 2) ∧
        ∀ node position, (Engine.ofPolicy p).evalQuery q (.object []) ≠
          .fail (.pathNotFound node position) := by
  have validated : Config.validate ⟨[⟨"u", "$.a.b"⟩],
      ⟨.infer, none, some ⟨[], ["$.c"], some ⟨.skip, none⟩⟩⟩, .standard⟩ =
        .ok ⟨[⟨"u", ⟨[⟨.root, 0⟩, ⟨.property "a", 2⟩, ⟨.property "b", 4⟩]⟩⟩],
          .infer [] [⟨[⟨.root, 0⟩, ⟨.property "c", 2⟩]⟩] .skip, .standard⟩ := by cbv
  have group : Query.parse "$.map(${u})" =
      .ok ⟨[⟨.root, 0⟩, ⟨.call "map" [.path [⟨.root, 6⟩, ⟨.multiKey ["u"], 7⟩]], 2⟩]⟩ := by cbv
  have alternate : Query.parse "$.c" = .ok ⟨[⟨.root, 0⟩, ⟨.property "c", 2⟩]⟩ := by cbv
  have skips : Fallback.last (.infer [] [⟨[⟨.root, 0⟩, ⟨.property "c", 2⟩]⟩] .skip) ≠ .fail := by
    simp [Fallback.last]
  refine ⟨_, validated, rfl, skips, _, _, group, alternate, rfl, fun node position => ?_⟩
  exact (Engine.pathNotFound_impossible _ rfl skips _ node position).1 _

end PathQuery
