import Mathlib.Data.Set.Finite.Basic
import Mathlib.Order.WellFoundedSet
import PathQuery.Proofs.Evaluation.Confinement
import PathQuery.Proofs.Evaluation.Nesting

/-!
Aliases that do not lead back to themselves. An alias refers to those that the key groups in its
path name; where this has no circle, every evaluation ends, and its calls nest no deeper than the
policy and the query allow. By induction along the references each alias ends when it is evaluated
strictly, and so every path does; then the alternate queries end, and with them the evaluations that
are not strict.
-/

namespace PathQuery

/-! ### References -/

namespace Policy

variable {p : Policy}

/-- A key group in the path of the first alias, at any depth, names the second. -/
def RefersTo (p : Policy) (name name' : String) : Prop :=
  (∃ target, p.target? name = some target ∧ ∃ step ∈ target.allSteps,
    name' ∈ step.node.groupNames) ∧ (p.target? name').isSome

/-- The aliases do not refer to each other in a circle. -/
def Acyclic (p : Policy) : Prop :=
  ∀ name, ¬ Relation.TransGen p.RefersTo name name

theorem mem_names_of_isSome {name : String} (h : (p.target? name).isSome) :
    name ∈ p.aliases.map Alias.name := by
  rw [target?, Option.isSome_map, List.find?_isSome] at h
  obtain ⟨a, ha, same⟩ := h
  exact List.mem_map.2 ⟨a, ha, by simpa using same⟩

/-- What holds of an alias if it holds of those it refers to holds of all. -/
theorem Acyclic.induction (h : p.Acyclic) {P : String → Prop}
    (step : ∀ name, (∀ name', p.RefersTo name name' → P name') → P name) (name : String) :
    P name := by
  have order : IsStrictOrder String fun name' name => Relation.TransGen p.RefersTo name name' := {
    irrefl := h
    trans := fun _ _ _ back forth => forth.trans back }
  have founded := (p.aliases.map Alias.name).finite_toSet.wellFoundedOn
    (r := fun name' name => Relation.TransGen p.RefersTo name name')
  have aliases (name : String) (hn : name ∈ p.aliases.map Alias.name) : P name :=
    founded.induction hn fun name _ ih => step name fun name' refers =>
      ih name' (mem_names_of_isSome refers.2) (.single refers)
  exact step name fun name' refers => aliases name' (mem_names_of_isSome refers.2)

/-- Ranks that go down along the references leave no circle. -/
theorem acyclic_of_rank (rank : String → Nat)
    (h : ∀ a ∈ p.aliases, ∀ step ∈ a.target.allSteps, ∀ name ∈ step.node.groupNames,
      (p.target? name).isSome → rank name < rank a.name) : p.Acyclic := by
  have down {name name' : String} (refers : p.RefersTo name name') : rank name' < rank name := by
    obtain ⟨⟨target, ht, step, hs, hn⟩, known⟩ := refers
    obtain ⟨a, found, rfl⟩ := Option.map_eq_some_iff.1 ht
    have same : a.name = name := by simpa using List.find?_some found
    rw [← same]
    exact h a (List.mem_of_find?_eq_some found) step hs name' hn known
  intro name circle
  have lower : rank name < rank name :=
    Relation.TransGen.trans_induction_on circle (motive := fun {a b} _ => rank b < rank a)
      down fun _ _ first second => second.trans first
  exact Nat.lt_irrefl _ lower

end Policy

/-! ### Evaluations that end -/

section

variable {p : Policy} (functions : Registry) (base : Json)

/-- The evaluation of a path of the policy is not found circular. -/
def Ends (p : Policy) (functions : Registry) (base : Json) (strict : Bool) (steps : List Step) :
    Prop :=
  enterPath p functions base p.levels strict steps ≠ .error .circular

/-- Where the aliases end that are named and the alternate queries that are asked, evaluation on
any tree ends. -/
theorem scopeAt_confined_of_ends {strict : Bool} {named : String → Prop}
    (aliases : ∀ {name target}, named name → p.target? name = some target →
      Ends p functions base strict target.steps)
    (alternates : strict = false → ∀ steps, Ends p functions base true steps) :
    (scopeAt p functions base p.levels strict).Confined named (· ≠ .circular) where
  fatal _ _ ends := ends
  recover _ := by
    refine Scope.recover_haltsIn nofun fun infer q _ h he _ => ?_
    rintro rfl
    exact alternates (Scope.policy_of_infer infer).2 q.steps he
  enter hn ht := by
    rintro h he rfl
    exact aliases hn ht he

theorem ends_of_groups {strict : Bool} {steps : List Step}
    (aliases : ∀ step ∈ Node.withInnerSteps steps, ∀ name ∈ step.node.groupNames,
      ∀ target, p.target? name = some target → Ends p functions base strict target.steps)
    (alternates : strict = false → ∀ steps, Ends p functions base true steps) :
    Ends p functions base strict steps := by
  have confined : (scopeAt p functions base p.levels strict).Confined
      (fun name => ∀ target, p.target? name = some target →
        Ends p functions base strict target.steps) (· ≠ .circular) :=
    scopeAt_confined_of_ends functions base (fun ends ht => ends _ ht) alternates
  unfold Ends
  rw [← enterPath_levels (Nat.le_succ _)]
  exact fun circular => confined.evalSteps steps aliases _ _ circular rfl

variable (acyclic : p.Acyclic)

include acyclic

/-- The induction is along the references. -/
theorem alias_ends {strict : Bool}
    (alternates : strict = false → ∀ steps, Ends p functions base true steps) (name : String) :
    ∀ target, p.target? name = some target → Ends p functions base strict target.steps := by
  induction name using acyclic.induction with
  | step name ih =>
      intro target ht
      refine ends_of_groups functions base (fun step hs name' hn target' ht' => ?_) alternates
      have known : (p.target? name').isSome := by rw [ht']; rfl
      exact ih name' ⟨⟨target, ht, step, hs, hn⟩, known⟩ target' ht'

theorem path_ends (strict : Bool) (steps : List Step) : Ends p functions base strict steps := by
  -- a strict evaluation has no alternate queries
  have noAlternates : true = false → ∀ steps, Ends p functions base true steps :=
    fun h => nomatch h
  have inStrict (steps : List Step) : Ends p functions base true steps :=
    ends_of_groups functions base
      (fun _ _ name _ => alias_ends functions base acyclic noAlternates name) noAlternates
  cases strict with
  | true => exact inStrict steps
  | false =>
      exact ends_of_groups functions base (fun _ _ name _ =>
        alias_ends functions base acyclic (fun _ => inStrict) name) fun _ => inStrict

theorem evalQuery_ends (strict : Bool) (q : Query) :
    (Engine.mk p functions strict).evalQuery q base ≠ .error .circular := by
  have confined : ((Engine.mk p functions strict).scope base).Confined (fun _ => True)
      (· ≠ .circular) :=
    scopeAt_confined_of_ends functions base
      (fun _ _ => path_ends functions base acyclic strict _)
      fun _ => path_ends functions base acyclic true
  exact fun circular => Engine.evalQuery_confined _ confined q _ circular rfl

end

/-- Where the aliases do not refer to each other in a circle, there is for each query a depth that
calls nest within on every document, whatever the fallback: the evaluation ends, and it is the one
whose calls may nest no deeper. -/
theorem acyclic_ends_within (p : Policy) (acyclic : p.Acyclic) (q : Query) (n : Nat)
    (enough : p.nesting q ≤ n) (functions : Registry) (strict : Bool) (document : Json) :
    (Engine.mk p functions strict).evalQueryWithin n q document ≠ .error .circular ∧
      (Engine.mk p functions strict).evalQueryWithin n q document =
        (Engine.mk p functions strict).evalQuery q document := by
  have ends := evalQuery_ends functions document acyclic strict q
  rcases (Engine.mk p functions strict).evalQuery_within q document enough with
    same | ⟨_, rfl, circular⟩
  · rw [← same]
    exact ⟨ends, rfl⟩
  · exact absurd circular ends

/-- Three aliases in a row, the last of which an alternate query follows: on every document sixty
calls that are open at a time are enough. -/
theorem acyclic_ends_within_chain :
    let p : Policy := ⟨[⟨"a", ⟨[⟨.root, 0⟩, ⟨.property "x", 2⟩]⟩⟩,
      ⟨"b", ⟨[⟨.root, 0⟩, ⟨.multiKey ["a"], 1⟩]⟩⟩,
      ⟨"c", ⟨[⟨.root, 0⟩, ⟨.call "map" [.path [⟨.root, 6⟩, ⟨.multiKey ["b"], 7⟩]], 2⟩]⟩⟩],
      .infer [] [⟨[⟨.root, 0⟩, ⟨.multiKey ["c"], 1⟩]⟩] .fail, .standard⟩
    let q : Query := ⟨[⟨.root, 0⟩, ⟨.property "y", 2⟩,
      ⟨.comparison .eq .current (.path [⟨.root, 7⟩, ⟨.multiKey ["c"], 8⟩]), 4⟩]⟩
    p.RefersTo "c" "b" ∧ p.RefersTo "b" "a" ∧ p.Acyclic ∧ p.nesting q ≤ 60 ∧
      ∀ functions strict document,
        (Engine.mk p functions strict).evalQueryWithin 60 q document ≠ .error .circular ∧
        (Engine.mk p functions strict).evalQueryWithin 60 q document =
          (Engine.mk p functions strict).evalQuery q document := by
  intro p q
  have inCall : p.RefersTo "c" "b" :=
    ⟨⟨_, rfl, ⟨.multiKey ["b"], 7⟩, by simp [Query.allSteps, Node.innerSteps], by decide⟩, rfl⟩
  have inPath : p.RefersTo "b" "a" :=
    ⟨⟨_, rfl, ⟨.multiKey ["a"], 1⟩, by simp [Query.allSteps], by decide⟩, rfl⟩
  have acyclic : p.Acyclic :=
    Policy.acyclic_of_rank (fun name => ["a", "b", "c"].idxOf name) (by decide)
  have enough : p.nesting q ≤ 60 := by decide
  exact ⟨inCall, inPath, acyclic, enough, acyclic_ends_within p acyclic q 60 enough⟩

end PathQuery
