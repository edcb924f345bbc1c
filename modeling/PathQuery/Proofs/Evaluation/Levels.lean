import PathQuery.Proofs.Evaluation.Approximation

/-!
Levels of evaluation. The evaluation at a level enters paths of the policy one level below; with
more levels it gives the same outcome, unless it was found `circular` with fewer. This is where the
error that an alternate query is forgiven counts: it is a definite outcome, and more levels do not
change it either.
-/

namespace PathQuery

/-- The evaluation with `level` levels to go. -/
def scopeAt (p : Policy) (functions : Registry) (base : Json) (level : Nat) (strict : Bool) :
    Scope :=
  ⟨p, functions, base, strict, enterPath p functions base level⟩

/-- Halts that the search through alternate queries does not pass over. -/
def Halt.Fatal (h : Halt) : Prop :=
  ∀ node position, h ≠ .error (.pathNotFound node position)

namespace Scope

variable {lost : Halt → Prop} {s t : Scope}

theorem alternateQuery?_below (fatal : ∀ h, lost h → h.Fatal) {queries : List Query}
    (enter : ∀ q ∈ queries, Outcome.Below lost (s.enter true q.steps) (t.enter true q.steps)) :
    Outcome.Below lost (s.alternateQuery? queries) (t.alternateQuery? queries) := by
  induction queries with
  | nil => exact .refl _
  | cons q rest ih =>
      have ih := ih fun q' hq => enter q' (by simp [hq])
      unfold alternateQuery?
      rcases enter q (by simp) with same | ⟨h, hl, he⟩
      · rw [same]
        split
        · split
          · exact ih
          · exact .refl _
        · exact ih
        · exact .refl _
      · rw [he]
        split
        · rename_i heq
          cases heq
        · rename_i heq
          cases heq
          exact absurd rfl (fatal _ hl _ _)
        · rename_i heq
          cases heq
          exact .of_lost hl _

/-- Evaluations that differ only in the paths they enter. -/
theorem Below.of_enter (fatal : ∀ h, lost h → h.Fatal) (policy : s.policy = t.policy)
    (functions : s.functions = t.functions) (base : s.base = t.base) (strict : s.strict = t.strict)
    (enter : ∀ {name target}, t.policy.target? name = some target →
      Outcome.Below lost (s.enter s.strict target.steps) (t.enter t.strict target.steps))
    (alternate : ∀ {keys queries last}, t.fallback = .infer keys queries last →
      ∀ q ∈ queries, Outcome.Below lost (s.enter true q.steps) (t.enter true q.steps)) :
    Scope.Below lost s t := by
  have fallback : s.fallback = t.fallback := by simp [Scope.fallback, policy, strict]
  have recover (m : Miss) : Outcome.Below lost (s.recover m) (t.recover m) := by
    have members (keys : List String) : s.alternateMember? m keys = t.alternateMember? m keys := by
      simp [alternateMember?, policy]
    unfold Scope.recover
    rw [fallback]
    split
    · exact .refl _
    · rename_i infer
      rw [members]
      split
      · exact .refl _
      · exact (alternateQuery?_below fatal (alternate infer)).bind fun found => .refl _
  exact {
    functions := functions
    base := base
    target := fun name => by rw [policy]
    member := fun step name value => by
      unfold Scope.member
      rw [policy]
      cases value with
      | object members =>
          dsimp only
          split
          · exact .refl _
          · exact recover _
      | _ => exact recover _
    recover := recover
    enter := enter }

end Scope

variable {p : Policy} {functions : Registry} {base : Json}

theorem circular_fatal (h : Halt) (hc : h = .circular) : h.Fatal := by
  intro node position he
  rw [hc] at he
  cases he

/-- An outcome other than `circular` is the outcome with any more levels. -/
theorem enterPath_mono {level level' : Nat} (hl : level ≤ level') (strict : Bool)
    (steps : List Step) :
    Outcome.Below (· = .circular) (enterPath p functions base level strict steps)
      (enterPath p functions base level' strict steps) := by
  induction level generalizing level' strict steps with
  | zero => exact .inr ⟨.circular, rfl, rfl⟩
  | succ level ih =>
      obtain ⟨level', rfl⟩ : ∃ n, level' = n + 1 := ⟨level' - 1, by omega⟩
      have scopes : Scope.Below (· = .circular) (scopeAt p functions base level strict)
          (scopeAt p functions base level' strict) :=
        .of_enter circular_fatal rfl rfl rfl rfl (fun _ => ih (by omega) _ _)
          fun _ _ _ => ih (by omega) _ _
      exact scopes.evalSteps steps _

end PathQuery
