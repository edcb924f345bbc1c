import PathQuery.Proofs.Evaluation.Levels

/-!
Levels that suffice. From level to level, an alias that was found circular may get an outcome, and
one that has an outcome keeps it. So after as many levels as there are aliases nothing new happens
in strict evaluations, and after as many again nothing new in the others, whose alternate queries
are strict. So `Policy.levels` decides: what is found circular there is circular at every level,
which is what it means for aliases to lead into themselves.
-/

namespace PathQuery

variable {p : Policy} {functions : Registry} {base : Json}

theorem Outcome.Below.eq {α : Type} {x y : Outcome α} (h : Below (fun _ => False) x y) : x = y := by
  rcases h with rfl | ⟨_, ⟨⟩, -⟩
  rfl

theorem Policy.mem_of_target? {name : String} {target : Query} (h : p.target? name = some target) :
    ∃ a ∈ p.aliases, a.target = target := by
  obtain ⟨a, ha, rfl⟩ := Option.map_eq_some_iff.1 h
  exact ⟨a, List.mem_of_find?_eq_some ha, rfl⟩

/-- A level only shows in the paths of the policy one level below. -/
theorem enterPath_succ_congr {level level' : Nat} (strict : Bool)
    (aliases : ∀ a ∈ p.aliases, enterPath p functions base level strict a.target.steps =
      enterPath p functions base level' strict a.target.steps)
    (alternates : strict = false → ∀ steps, enterPath p functions base level true steps =
      enterPath p functions base level' true steps) (steps : List Step) :
    enterPath p functions base (level + 1) strict steps =
      enterPath p functions base (level' + 1) strict steps := by
  have scopes : Scope.Below (fun _ => False) (scopeAt p functions base level strict)
      (scopeAt p functions base level' strict) := by
    refine .of_enter nofun rfl rfl rfl rfl (fun ht => ?_) fun infer q _ => ?_
    · obtain ⟨a, ha, rfl⟩ := Policy.mem_of_target? ht
      exact .inl (aliases a ha)
    · -- a strict scope has no alternate queries
      have plain : strict = false := by
        cases strict with
        | false => rfl
        | true => cases infer
      exact .inl (alternates plain q.steps)
  exact (scopes.evalSteps steps _).eq

/-! ### Counting outcomes -/

def Outcome.isCircular {α : Type} : Outcome α → Bool
  | .error .circular => true
  | _ => false

theorem Outcome.eq_circular_of_isCircular {α : Type} {x : Outcome α} (h : x.isCircular = true) :
    x = .error .circular := by
  unfold isCircular at h
  split at h
  · rfl
  · cases h

/-- No alias gets another outcome at the next level. -/
def Settled (p : Policy) (functions : Registry) (base : Json) (strict : Bool) (level : Nat) :
    Prop :=
  ∀ a ∈ p.aliases, enterPath p functions base level strict a.target.steps =
    enterPath p functions base (level + 1) strict a.target.steps

/-- How many aliases have an outcome. -/
def resolved (p : Policy) (functions : Registry) (base : Json) (strict : Bool) (level : Nat) :
    Nat :=
  p.aliases.countP fun a => !(enterPath p functions base level strict a.target.steps).isCircular

theorem enterPath_eq_of_not_circular {level level' : Nat} (hl : level ≤ level') {strict : Bool}
    {steps : List Step} (h : (enterPath p functions base level strict steps).isCircular = false) :
    enterPath p functions base level strict steps =
      enterPath p functions base level' strict steps := by
  rcases enterPath_mono hl strict steps with same | ⟨_, rfl, he⟩
  · exact same
  · rw [he] at h
    cases h

theorem countP_lt {α : Type} {f g : α → Bool} {xs : List α} (h : ∀ x ∈ xs, f x → g x) {x : α}
    (hx : x ∈ xs) (hf : f x = false) (hg : g x = true) : xs.countP f < xs.countP g := by
  obtain ⟨before, after, rfl⟩ := List.append_of_mem hx
  have front : before.countP f ≤ before.countP g :=
    List.countP_mono_left fun y hy => h y (by simp [hy])
  have back : after.countP f ≤ after.countP g :=
    List.countP_mono_left fun y hy => h y (by simp [hy])
  rw [List.countP_append, List.countP_append, List.countP_cons_of_pos hg,
    List.countP_cons_of_neg (by simp [hf])]
  omega

/-- At a level that does not settle the aliases, one more of them gets an outcome. -/
theorem resolved_lt {strict : Bool} {level : Nat}
    (h : ¬ Settled p functions base strict level) :
    resolved p functions base strict level < resolved p functions base strict (level + 1) := by
  simp only [Settled, not_forall] at h
  obtain ⟨a, ha, changed⟩ := h
  refine countP_lt (fun b _ hb => ?_) ha ?_ ?_
  · rw [Bool.not_eq_true'] at hb
    rw [← enterPath_eq_of_not_circular (Nat.le_succ level) hb, hb]
    rfl
  · -- an outcome would be kept
    rw [Bool.not_eq_false']
    by_contra hc
    exact changed (enterPath_eq_of_not_circular (Nat.le_succ level) (by simpa using hc))
  · rw [Bool.not_eq_true']
    by_contra hc
    -- what is circular at the next level is so at this one
    rcases enterPath_mono (Nat.le_succ level) strict a.target.steps with same | ⟨_, rfl, he⟩
    · exact changed same
    · exact changed (he.trans (Outcome.eq_circular_of_isCircular (by simpa using hc)).symm)

section

variable {strict : Bool} (first : Nat)
  (alternates : ∀ level, first ≤ level → strict = false → ∀ steps,
    enterPath p functions base level true steps = enterPath p functions base (level + 1) true steps)

include alternates

theorem Settled.succ {level : Nat} (hl : first ≤ level)
    (h : Settled p functions base strict level) : Settled p functions base strict (level + 1) :=
  fun a _ => enterPath_succ_congr strict h (alternates level hl) a.target.steps

/-- Each level settles the aliases or adds to those with an outcome. -/
theorem settled_or_le_resolved (n : Nat) : Settled p functions base strict (first + n) ∨
    n ≤ resolved p functions base strict (first + n) := by
  induction n with
  | zero => exact .inr (Nat.zero_le _)
  | succ n ih =>
      by_cases settled : Settled p functions base strict (first + n)
      · exact .inl (settled.succ first alternates (Nat.le_add_right _ _))
      · have more := resolved_lt settled
        rcases ih with h | h
        · exact absurd h settled
        · right
          show n + 1 ≤ resolved p functions base strict (first + n + 1)
          omega

/-- With as many levels as there are aliases, either they are settled or all have an outcome. -/
theorem settled_length : Settled p functions base strict (first + p.aliases.length) := by
  rcases settled_or_le_resolved first alternates p.aliases.length with h | h
  · exact h
  · have all : resolved p functions base strict (first + p.aliases.length) = p.aliases.length :=
      Nat.le_antisymm List.countP_le_length h
    rw [resolved, List.countP_eq_length] at all
    exact fun a ha => enterPath_eq_of_not_circular (Nat.le_succ _) (by simpa using all a ha)

/-- Once the aliases are settled, no path has another outcome. -/
theorem enterPath_succ_eq {level : Nat} (hl : first + p.aliases.length < level)
    (steps : List Step) : enterPath p functions base level strict steps =
      enterPath p functions base (level + 1) strict steps := by
  obtain ⟨k, rfl⟩ : ∃ k, level = first + p.aliases.length + k + 1 :=
    ⟨level - (first + p.aliases.length + 1), by omega⟩
  have settled : Settled p functions base strict (first + p.aliases.length + k) := by
    clear hl
    induction k with
    | zero => exact settled_length first alternates
    | succ k ih =>
        have above : first ≤ first + p.aliases.length + k := by omega
        exact ih.succ first alternates above
  exact enterPath_succ_congr strict settled (alternates _ (by omega)) steps

end

/-- With the levels of the policy an evaluation has the outcome that it has with any more. -/
theorem enterPath_levels {level : Nat} (hl : p.levels ≤ level) (strict : Bool)
    (steps : List Step) : enterPath p functions base level strict steps =
      enterPath p functions base p.levels strict steps := by
  have inStrict {level : Nat} (hl : p.aliases.length < level) (steps : List Step) :
      enterPath p functions base level true steps =
        enterPath p functions base (level + 1) true steps :=
    enterPath_succ_eq 0 (fun _ _ h => by cases h) (by omega) steps
  have next {level : Nat} (hl : p.levels ≤ level) : enterPath p functions base level strict steps =
      enterPath p functions base (level + 1) strict steps := by
    rw [Policy.levels] at hl
    cases strict with
    | true => exact inStrict (by omega) steps
    | false =>
        exact enterPath_succ_eq (p.aliases.length + 1) (fun _ hl _ => inStrict hl) (by omega) steps
  obtain ⟨k, rfl⟩ := Nat.exists_eq_add_of_le hl
  clear hl
  induction k with
  | zero => rfl
  | succ k ih => rw [← ih, next (Nat.le_add_right p.levels k), Nat.add_assoc]

/-- A path of the policy is entered one level below the evaluation, which makes no difference. -/
theorem enterPath_eq_evalPath (p : Policy) (functions : Registry) (document : Json) (strict : Bool)
    (steps : List Step) : enterPath p functions document p.levels strict steps =
      (Engine.mk p functions strict).evalPath steps document none :=
  (enterPath_levels (Nat.le_succ _) strict steps).symm

/-- At any level an outcome other than `circular` is the outcome with the levels of the policy. -/
theorem enterPath_below_levels (level : Nat) (strict : Bool) (steps : List Step) :
    Outcome.Below (· = .circular) (enterPath p functions base level strict steps)
      (enterPath p functions base p.levels strict steps) := by
  rcases Nat.le_total level p.levels with below | above
  · exact enterPath_mono below strict steps
  · exact .inl (enterPath_levels above strict steps)

theorem scopeAt_below_levels (level : Nat) (strict : Bool) :
    Scope.Below (· = .circular) (scopeAt p functions base level strict)
      (scopeAt p functions base p.levels strict) :=
  .of_enter circular_fatal rfl rfl rfl rfl (fun _ => enterPath_below_levels level _ _)
    fun _ _ _ => enterPath_below_levels level _ _

end PathQuery
