import PathQuery.Proofs.Evaluation.Conservative
import PathQuery.Proofs.Evaluation.Definite
import PathQuery.Proofs.Evaluation.Depth

/-!
Strict evaluations. Alternate queries are walked strictly, so that a miss in one of them ends it
and asks no alternate again. A strict evaluation does not look at the fallback of the policy at all:
it is the one of an engine whose fallback is to fail. This holds on every level, and so behind key
groups, in arguments and in conditions; whatever is evaluated on behalf of a strict evaluation is
strict itself.
-/

namespace PathQuery

/-! ### Evaluations that fail at a miss -/

/-- Evaluations that fail at a miss are the same if the aliases, the fuzzy settings and the paths
entered for aliases are. -/
theorem Scope.Below.of_fallback_error {s t : Scope} (functions : s.functions = t.functions)
    (base : s.base = t.base) (aliases : s.policy.aliases = t.policy.aliases)
    (fuzzy : s.policy.fuzzy = t.policy.fuzzy) (hs : s.fallback = .error) (ht : t.fallback = .error)
    (enter : ∀ steps, s.enter s.strict steps = t.enter t.strict steps) :
    Scope.Below (fun _ => False) s t where
  functions := functions
  base := base
  target name := by simp [Policy.target?, aliases]
  member step name value := by
    unfold Scope.member
    rw [fuzzy, recover_eq_fail hs, recover_eq_fail ht]
    exact .refl _
  recover m := by
    rw [recover_eq_fail hs, recover_eq_fail ht]
    exact .refl _
  enter _ := .inl (enter _)

section

variable (p p' : Policy) {functions : Registry} (aliases : p.aliases = p'.aliases)
  (fuzzy : p.fuzzy = p'.fuzzy) {strict strict' : Bool}
  (hp : strict = true ∨ p.fallback = .error) (hp' : strict' = true ∨ p'.fallback = .error)

include aliases fuzzy hp hp'

/-- The induction is on the levels: one level below, aliases are entered in the same mode. -/
theorem Policy.enterPath_eq_of_error (base : Json) (level : Nat) (steps : List Step) :
    enterPath p functions base level strict steps =
      enterPath p' functions base level strict' steps := by
  induction level generalizing steps with
  | zero => rfl
  | succ level ih =>
      have scopes : Scope.Below (fun _ => False) (scopeAt p functions base level strict)
          (scopeAt p' functions base level strict') :=
        .of_fallback_error rfl rfl aliases fuzzy (Scope.fallback_eq_error hp)
          (Scope.fallback_eq_error hp') ih
      exact (scopes.evalSteps steps _).eq

theorem Policy.evalPath_eq_of_error (steps : List Step) (base : Json) (current : Option ValueSet) :
    (Engine.mk p functions strict).evalPath steps base current =
      (Engine.mk p' functions strict').evalPath steps base current := by
  have levels : p.levels = p'.levels := by simp [Policy.levels, aliases]
  have scopes : Scope.Below (fun _ => False) ((Engine.mk p functions strict).scope base)
      ((Engine.mk p' functions strict').scope base) := by
    refine .of_fallback_error rfl rfl aliases fuzzy (Scope.fallback_eq_error hp)
      (Scope.fallback_eq_error hp') fun steps => ?_
    show enterPath p functions base p.levels strict steps =
      enterPath p' functions base p'.levels strict' steps
    rw [levels]
    exact p.enterPath_eq_of_error p' aliases fuzzy hp hp' base _ steps
  exact (scopes.evalSteps steps _).eq

end

/-! ### What a strict evaluation leads to -/

/-- On behalf of a strict evaluation all others are strict. -/
theorem Spawns.strict {p : Policy} {functions : Registry} {document : Json} {job job' : Job}
    (h : Spawns p functions document job job') (hj : job.strict = true) : job'.strict = true := by
  cases h with
  | alternate _ _ => cases hj
  | nestedPath _ _ _ | nestedCondition _ _ _ | nestedOperand _ _ | aliasInGroup _ _ _
  | leftOperand | rightOperand | leftCondition | rightCondition | negated | operandPath => exact hj

theorem strict_of_spawned {p : Policy} {functions : Registry} {document : Json} {job job' : Job}
    (h : Relation.ReflTransGen (Spawns p functions document) job job') (hj : job.strict = true) :
    job'.strict = true := by
  induction h with
  | refl => exact hj
  | tail _ spawned ih => exact spawned.strict ih

/-- A strict evaluation of a path is the same under every fallback, and the same as one that is not
strict and has the fallback to fail. So is the walk of a path on behalf of a miss, at each level;
and all that is evaluated on behalf of a strict evaluation fails at a miss. -/
theorem strict_ignores_fallback (aliases : List Alias) (fuzzy : FuzzyConfig)
    (fallback fallback' : Fallback) (functions : Registry) (base : Json) :
    (∀ steps current,
      (Engine.mk ⟨aliases, fallback, fuzzy⟩ functions true).evalPath steps base current =
        (Engine.mk ⟨aliases, fallback', fuzzy⟩ functions true).evalPath steps base current ∧
      (Engine.mk ⟨aliases, fallback, fuzzy⟩ functions true).evalPath steps base current =
        (Engine.mk ⟨aliases, .error, fuzzy⟩ functions false).evalPath steps base current) ∧
    (∀ level strict steps,
      (scopeAt ⟨aliases, fallback, fuzzy⟩ functions base level strict).enter true steps =
        (scopeAt ⟨aliases, .error, fuzzy⟩ functions base level false).enter false steps) ∧
    (∀ job job' : Job, job.strict = true →
      Relation.ReflTransGen (Spawns ⟨aliases, fallback, fuzzy⟩ functions base) job job' →
        ∀ m, (scopeAt ⟨aliases, fallback, fuzzy⟩ functions base job'.level job'.strict).recover m =
          .fail m.notFound) := by
  let p : Policy := ⟨aliases, fallback, fuzzy⟩
  let failing : Policy := ⟨aliases, .error, fuzzy⟩
  refine ⟨fun steps current => ⟨?_, ?_⟩, fun level _ steps => ?_, fun job job' hj reached m => ?_⟩
  · exact p.evalPath_eq_of_error ⟨aliases, fallback', fuzzy⟩ rfl rfl (.inl rfl) (.inl rfl) _ _ _
  · exact p.evalPath_eq_of_error failing rfl rfl (.inl rfl) (.inr rfl) _ _ _
  · exact p.enterPath_eq_of_error failing rfl rfl (.inl rfl) (.inr rfl) base level steps
  · exact Scope.recover_eq_fail (Scope.fallback_eq_error (.inl (strict_of_spawned reached hj))) m

/-- The path of an alias in a key group misses. The alternate query of the policy would answer, but
not on behalf of a strict evaluation, which fails as under another fallback. -/
theorem strict_ignores_fallback_in_group :
    let aliases : List Alias := [⟨"u", ⟨[⟨.root, 0⟩, ⟨.property "n", 2⟩]⟩⟩]
    let infer : Fallback := .infer [] [⟨[⟨.root, 0⟩, ⟨.property "m", 2⟩]⟩] .skip
    let document : Json := .object [("m", .bool true)]
    let steps : List Step := [⟨.root, 0⟩, ⟨.call "filter" [.comparison .eq
      (.path [⟨.current, 9⟩, ⟨.multiKey ["u"], 10⟩]) (.literal (.bool true))], 2⟩]
    (Engine.mk ⟨aliases, infer, .standard⟩ .standard false).evalPath steps document none =
        .ok (.many [document]) ∧
      (Engine.mk ⟨aliases, infer, .standard⟩ .standard true).evalPath steps document none =
        .fail (.pathNotFound (.property "n") 2) ∧
      (Engine.mk ⟨aliases, infer, .standard⟩ .standard true).evalPath steps document none =
        (Engine.mk ⟨aliases, .plain .skip, .standard⟩ .standard true).evalPath steps document
          none := by
  intro aliases infer document steps
  obtain ⟨ignored, -, -⟩ :=
    strict_ignores_fallback aliases .standard infer (.plain .skip) .standard document
  exact ⟨rfl, rfl, (ignored steps none).1⟩

end PathQuery
