import PathQuery.Proofs.Config.Compiled
import PathQuery.Proofs.Evaluation.Acyclic
import PathQuery.Proofs.Evaluation.Alternates
import PathQuery.Proofs.Evaluation.Relocation
import PathQuery.Proofs.Query.Likeness

/-!
An alias as a property and as a key of a group. As a property it is replaced by its path, whose
steps take its position; as a key it is walked from the base, at the positions of its path. The two
give the same values, or fail with one error but for its position.
-/

namespace PathQuery

open Outcome (Moved)

/-! ### What an error shows -/

theorem Mismatch.message_relocate (f : Nat → Nat) (m : Mismatch) :
    (m.relocate f).message = m.message := by
  cases m with
  | notCondition node | notOperand node | manyValues node _ | notScalar node _ | notStep node
  | notArgument _ node | emptyArgument _ node | filterCondition node =>
      unfold Mismatch.message
      dsimp only [Mismatch.relocate]
      rw [node.text_relocate]
  | _ => rfl

namespace QueryError

theorem code_relocate (f : Nat → Nat) (e : QueryError) : (e.relocate f).code = e.code := by
  cases e <;> rfl

theorem hint?_relocate (f : Nat → Nat) (e : QueryError) : (e.relocate f).hint? = e.hint? := by
  cases e <;> rfl

/-- The one position that the message shows is the one that the error reports. -/
theorem message_relocate (f : Nat → Nat) {e : QueryError} (h : e.position?.map f = e.position?) :
    (e.relocate f).message = e.message := by
  cases e with
  | syntaxError e =>
      obtain ⟨fault, position⟩ := e
      have fixed : f position = position := Option.some.inj h
      unfold message
      dsimp only [relocate, SyntaxError.text, SyntaxError.message, SyntaxError.relocate]
      rw [fault.message_relocate, fixed]
  | pathNotFound missing position =>
      have fixed : f position = position := Option.some.inj h
      unfold message
      dsimp only [relocate]
      rw [missing.text_relocate, fixed]
  | typeMismatch m =>
      unfold message
      dsimp only [relocate]
      rw [m.message_relocate]
  | unknownFunction _ | arity _ _ _ _ | invalidConfig _ => rfl

end QueryError

/-! ### Errors that differ in positions -/

variable (g : Nat → Nat)

theorem QueryError.relocate_relocate (f : Nat → Nat) (e : QueryError) :
    (e.relocate f).relocate g = e.relocate (g ∘ f) := by
  cases e with
  | syntaxError e =>
      obtain ⟨fault, position⟩ := e
      cases fault <;> rfl
  | pathNotFound missing position =>
      simp only [QueryError.relocate, missing.relocate_relocate, Function.comp_apply]
  | typeMismatch m =>
      cases m <;> simp only [QueryError.relocate, Mismatch.relocate, Node.relocate_relocate]
  | unknownFunction _ | arity _ _ _ _ | invalidConfig _ => rfl

/-- One error but for positions: what is shown of the two is the same wherever the positions that
they report are. -/
structure QueryError.SameUpToPosition (e e' : QueryError) : Prop where
  bare : e.relocate (fun _ => 0) = e'.relocate fun _ => 0
  code : e.code = e'.code
  hint : e.hint? = e'.hint?
  message : e.position? = e'.position? → e.message = e'.message

theorem QueryError.SameUpToPosition.of_bare {e e' : QueryError}
    (h : e.relocate (fun _ => 0) = e'.relocate fun _ => 0) : e.SameUpToPosition e' where
  bare := h
  code := by rw [← e.code_relocate fun _ => 0, h, code_relocate]
  hint := by rw [← e.hint?_relocate fun _ => 0, h, hint?_relocate]
  message same := by
    -- both are moved to the position that they report
    let there : Nat → Nat := fun _ => e.position?.getD 0
    have fixed {d : QueryError} (hd : d.position? = e.position?) :
        d.position?.map there = d.position? := by
      rw [hd]
      cases hp : e.position? with
      | none => rfl
      | some position => simp [there, hp]
    have moved : e.relocate there = e'.relocate there := by
      have again := congrArg (QueryError.relocate there) h
      rwa [relocate_relocate, relocate_relocate] at again
    rw [← message_relocate there (fixed rfl), moved, message_relocate there (fixed same.symm)]

/-- Both give related results, or fail with one error but for positions, or neither ends, or both
come to the same items that have no order. -/
inductive Outcome.SameUpToPosition {α β : Type} (R : α → β → Prop) : Outcome α → Outcome β → Prop
  | ok {a : α} {b : β} : R a b → SameUpToPosition R (.ok a) (.ok b)
  | fail {e e' : QueryError} : e.SameUpToPosition e' → SameUpToPosition R (.fail e) (.fail e')
  | circular : SameUpToPosition R (.error .circular) (.error .circular)
  | disorder (items : List Json) :
      SameUpToPosition R (.error (.disorder items)) (.error (.disorder items))

theorem Outcome.SameUpToPosition.bind {α β γ δ : Type} {R : α → β → Prop} {S : γ → δ → Prop}
    {x : Outcome α} {y : Outcome β} {k : α → Outcome γ} {l : β → Outcome δ}
    (h : SameUpToPosition R x y) (hk : ∀ a b, R a b → SameUpToPosition S (k a) (l b)) :
    SameUpToPosition S (x >>= k) (y >>= l) := by
  cases h with
  | ok hab => exact hk _ _ hab
  | fail he => exact .fail he
  | circular => exact .circular
  | disorder items => exact .disorder items

theorem Outcome.SameUpToPosition.circular_iff {α β : Type} {R : α → β → Prop} {x : Outcome α}
    {y : Outcome β} (h : SameUpToPosition R x y) :
    x = .error .circular ↔ y = .error .circular := by
  cases h with
  | ok _ | fail _ | disorder _ => exact ⟨nofun, nofun⟩
  | circular => exact ⟨fun _ => rfl, fun _ => rfl⟩

theorem Outcome.eq_error_of_map {α β : Type} {x : Outcome α} {g : α → β} {halt : Halt}
    (h : (do return g (← x)) = (.error halt : Outcome β)) : x = .error halt := by
  cases x with
  | ok a => cases h
  | error _ => exact congrArg _ (Except.error.inj h)

/-- Two computations that become the same when all positions are moved to one place. -/
theorem Outcome.Moved.sameUpToPosition {α : Type} {x y z : Outcome α}
    (hx : Moved (fun _ => 0) x z) (hy : Moved (fun _ => 0) y z) : SameUpToPosition Eq x y := by
  cases hx with
  | ok a =>
      cases hy with
      | ok a => exact .ok rfl
  | error halt =>
      generalize hm : halt.relocate (fun _ => 0) = moved at hy
      cases hy with
      | error halt' =>
          -- the place that an error is at is all that is moved
          cases halt with
          | circular =>
              cases halt' with
              | circular => exact .circular
              | error _ | disorder _ => cases hm
          | disorder items =>
              cases halt' with
              | disorder items' =>
                  cases hm
                  exact .disorder items
              | error _ | circular => cases hm
          | error e =>
              cases halt' with
              | error e' => exact .fail (.of_bare (Halt.error.inj hm))
              | circular | disorder _ => cases hm

/-! ### Position-blind evaluation -/

abbrev Policy.bare (p : Policy) : Policy :=
  p.relocate fun _ => 0

/-- Queries and policies that differ in positions have one answer but for positions. -/
theorem Engine.evalQuery_bare {p p' : Policy} (hp : p.bare = p'.bare) {q q' : Query}
    (hq : q.bare = q'.bare) (functions : Registry) (strict : Bool) (document : Json) :
    Outcome.SameUpToPosition Eq ((Engine.mk p functions strict).evalQuery q document)
      ((Engine.mk p' functions strict).evalQuery q' document) := by
  have moved := Engine.evalQuery_moved (f := fun _ => 0) p functions strict q document
  have moved' := Engine.evalQuery_moved (f := fun _ => 0) p' functions strict q' document
  rw [show p.relocate _ = p'.relocate _ from hp, show q.relocate _ = q'.relocate _ from hq] at moved
  exact moved.sameUpToPosition moved'

/-- So have the steps of a path, at the position of an alias or at their own. -/
theorem Engine.evalPath_stepsAt (p : Policy) (functions : Registry) (strict : Bool)
    (target : Query) (position : Nat) (document : Json) :
    Outcome.SameUpToPosition Eq
      ((Engine.mk p functions strict).evalPath (target.stepsAt position) document none)
      ((Engine.mk p functions strict).evalPath target.steps document none) := by
  have steps : (target.stepsAt position).map (Step.relocate fun _ => 0) =
      target.steps.map (Step.relocate fun _ => 0) := by
    simp only [Query.stepsAt, List.map_map]
    rfl
  have moved (steps : List Step) := enterPath_moved (f := fun _ => 0) p functions document
    (p.levels + 1) strict steps
  have spliced := moved (target.stepsAt position)
  rw [steps] at spliced
  exact spliced.sameUpToPosition (moved target.steps)

/-! ### The two forms -/

theorem Query.isPredicate_stepsAt {named : String → Prop} {target : Query}
    (h : target.IsPath named) (position : Nat) :
    (Query.mk (target.stepsAt position)).isPredicate = false := by
  obtain ⟨rootPosition, path, steps, formed⟩ := h
  rw [isPredicate_eq_false_iff, stepsAt, steps]
  intro last hl
  obtain ⟨s, hs, rfl⟩ := List.mem_map.1 (List.mem_of_getLast? hl)
  rcases List.mem_cons.1 hs with rfl | hs
  · rfl
  · exact (formed s hs).isCondition.1 rfl

/-- The query of a single property, which is an alias: the steps of its path are walked. -/
theorem Engine.evalQuery_alias (e : Engine) {named : String → Prop} (he : e.policy.Formed named)
    {name : String} {target : Query} (ht : e.policy.target? name = some target)
    (rootPosition position : Nat) (document : Json) :
    e.evalQuery ⟨[⟨.root, rootPosition⟩, ⟨.property name, position⟩]⟩ document = do
      return .ofValueSet (← e.evalPath (target.stepsAt position) document none) := by
  have expanded : e.policy.expand ⟨[⟨.root, rootPosition⟩, ⟨.property name, position⟩]⟩ =
      ⟨target.stepsAt position⟩ := by
    have named : e.policy.stepTarget? (Located.mk (.property name) position : Step).node =
        some target := ht
    rw [Policy.expand, Policy.expandSteps_cons_plain _ rfl, Policy.expandSteps_cons_alias _ named,
      Policy.expandSteps]
  have pathOnly := Query.isPredicate_stepsAt (he.target ht) position
  rw [← expanded] at pathOnly
  rw [evalQuery_path pathOnly, expanded]
  rfl

/-- Under a validated policy whose aliases do not refer to each other in a circle, an alias as a
property and the alias as the only key of a group give the same list of values on every document,
or fail with one error but for its position; both evaluations end. That is so since no evaluation
depends on positions, neither those of the query nor those of the policy. -/
theorem alias_property_or_key (c : Config) (p : Policy) (validated : c.validate = .ok p)
    (acyclic : p.Acyclic) (functions : Registry) (strict : Bool) :
    (∀ a ∈ p.aliases, ∀ (document : Json) (i j k l : Nat),
      let asProperty := (Engine.mk p functions strict).evalQuery
        ⟨[⟨.root, i⟩, ⟨.property a.name, j⟩]⟩ document
      let asKey := (Engine.mk p functions strict).evalQuery
        ⟨[⟨.root, k⟩, ⟨.multiKey [a.name], l⟩]⟩ document
      Outcome.SameUpToPosition (fun o o' => o.contents = o'.contents) asProperty asKey ∧
        asProperty ≠ .error .circular ∧ asKey ≠ .error .circular) ∧
    ∀ (p' : Policy) (q q' : Query), p.bare = p'.bare → q.bare = q'.bare → ∀ document,
      Outcome.SameUpToPosition Eq ((Engine.mk p functions strict).evalQuery q document)
        ((Engine.mk p' functions strict).evalQuery q' document) := by
  have formed := Config.formed_of_validate validated
  refine ⟨fun a ha document i j k l => ?_, fun p' q q' hp hq document =>
    Engine.evalQuery_bare hp hq functions strict document⟩
  intro asProperty asKey
  obtain ⟨target, ht⟩ : ∃ target, p.target? a.name = some target := by
    have known : (p.target? a.name).isSome := by
      rw [Policy.target?, Option.isSome_map, List.find?_isSome]
      exact ⟨a, ha, beq_self_eq_true _⟩
    exact Option.isSome_iff_exists.1 known
  let e : Engine := ⟨p, functions, strict⟩
  have property := e.evalQuery_alias formed ht i j document
  have key := e.evalQuery_groupKey ht k l document
  have walked : ((Engine.mk p functions strict).scope document).enter strict target.steps =
      (Engine.mk p functions strict).evalPath target.steps document none :=
    enterPath_eq_evalPath p functions document strict target.steps
  have ends : (Engine.mk p functions strict).evalPath target.steps document none ≠
      .error .circular := by
    rw [← walked]
    exact path_ends functions document acyclic strict target.steps
  rw [walked] at key
  have same : Outcome.SameUpToPosition (fun o o' => o.contents = o'.contents) asProperty asKey := by
    rw [show asProperty = _ from property, show asKey = _ from key]
    refine (Engine.evalPath_stepsAt p functions strict target j document).bind ?_
    rintro set _ rfl
    refine .ok ?_
    rw [Output.contents_ofValueSet, Output.contents_ofValueSet]
    rfl
  have keyEnds : asKey ≠ .error .circular := by
    rw [show asKey = _ from key]
    exact fun circular => ends (Outcome.eq_error_of_map circular)
  exact ⟨same, fun circular => keyEnds (same.circular_iff.1 circular), keyEnds⟩

set_option maxRecDepth 1000 in
/-- An alias that refers to another in a key group. Where it misses, the property is reported at the
position of the alias, the key at that of the step in the path of the alias. -/
theorem alias_property_or_key_nested :
    let group : Query := ⟨[⟨.root, 0⟩, ⟨.multiKey ["v"], 1⟩]⟩
    let property : Query := ⟨[⟨.root, 0⟩, ⟨.property "v", 2⟩]⟩
    ∃ p, Config.validate ⟨[⟨"u", "$.a"⟩, ⟨"v", "${u}.b"⟩], .standard, .standard⟩ = .ok p ∧
      p.Acyclic ∧
      (∀ document, Outcome.SameUpToPosition (fun o o' => o.contents = o'.contents)
        ((Engine.ofPolicy p).evalQuery property document)
        ((Engine.ofPolicy p).evalQuery group document)) ∧
      (Engine.ofPolicy p).evalQuery property (.object [("a", .object [])]) =
        .fail (.pathNotFound (.property "b") 2) ∧
      (Engine.ofPolicy p).evalQuery group (.object [("a", .object [])]) =
        .fail (.pathNotFound (.property "b") 5) := by
  intro group property
  let p : Policy := ⟨[⟨"u", ⟨[⟨.root, 0⟩, ⟨.property "a", 2⟩]⟩⟩,
    ⟨"v", ⟨[⟨.root, 0⟩, ⟨.multiKey ["u"], 1⟩, ⟨.property "b", 5⟩]⟩⟩], .error, .standard⟩
  have first : Query.parse "$.a" = .ok ⟨[⟨.root, 0⟩, ⟨.property "a", 2⟩]⟩ := by cbv
  have second : Query.parse "${u}.b" =
      .ok ⟨[⟨.root, 0⟩, ⟨.multiKey ["u"], 1⟩, ⟨.property "b", 5⟩]⟩ := by cbv
  have validated :
      Config.validate ⟨[⟨"u", "$.a"⟩, ⟨"v", "${u}.b"⟩], .standard, .standard⟩ = .ok p :=
    Config.validate_aliases (by decide) (by decide) (by decide)
      (.cons ⟨rfl, first, rfl⟩ (.cons ⟨rfl, second, rfl⟩ .nil)) .standard
  have acyclic : p.Acyclic :=
    Policy.acyclic_of_rank (fun name => ["u", "v"].idxOf name) (by decide)
  have same := alias_property_or_key _ _ validated acyclic .standard false
  refine ⟨_, validated, acyclic, fun document => ?_, rfl, rfl⟩
  exact (same.1 ⟨"v", _⟩ (.tail _ (.head _)) document 0 2 0 1).1

end PathQuery
