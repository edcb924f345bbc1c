import PathQuery.Proofs.Config.Compiled
import PathQuery.Proofs.Evaluation.Errors

/-!
Nodes stay in their places. The trees that the parser gives are formed, and so are the paths of a
validated configuration; expansion keeps them so. An evaluation of formed trees never meets a node
where its kind does not belong, whatever the level at which it enters the paths of the policy.
-/

namespace PathQuery

open Outcome (HaltsIn)

/-- No node out of place was met. -/
def Halt.Placed (h : Halt) : Prop :=
  ∀ m : Mismatch, h = .error (.typeMismatch m) → ¬ m.Misplaced

theorem Halt.Ordinary.placed {h : Halt} (ho : h.Ordinary) : h.Placed := by
  rintro m rfl
  cases ho with
  | mismatch placed => exact placed

variable {named : String → Prop} {p : Policy} {functions : Registry} {document : Json}

section

variable {P : Halt → Prop} (ordinary : ∀ h, h.Ordinary → P h)
  (notFound : ∀ missing position, P (.error (.pathNotFound missing position)))

include ordinary notFound

/-- What the paths of the policy halt with, the trees of an evaluation that enters them halt with
too. -/
theorem scopeAt_haltsIn (hp : p.Formed named) {level : Nat} (strict : Bool)
    (enter : ∀ strict (q : Query), q.IsPath named →
      HaltsIn P (enterPath p functions document level strict q.steps)) :
    (scopeAt p functions document level strict).HaltsIn .standard (fun _ => True) P where
  ordinary := ordinary
  recover _ _ := Scope.recover_haltsIn (notFound _ _)
    fun hf q hq h he _ => enter true q (hp.alternate (Scope.policy_of_infer hf).1 hq) h he
  enter ht := enter strict _ (hp.target ht)
  spliced ht := by
    rw [Policy.stepTarget?_standard] at ht
    cases ht

variable (circular : P .circular)

include circular

/-- The induction is on the levels. -/
theorem enterPath_haltsIn (hp : p.Formed named) (level : Nat) (strict : Bool) {q : Query}
    (hq : q.IsPath named) :
    HaltsIn P (enterPath p functions document level strict q.steps) := by
  induction level generalizing strict q with
  | zero => exact .error circular
  | succ level ih =>
      obtain ⟨position, path, he, formed⟩ := hq
      have scope := scopeAt_haltsIn ordinary notFound hp strict fun strict q hq => ih strict hq
      rw [he]
      exact scope.fromRoot position formed (fun _ _ => trivial) _

/-- A formed query halts in an ordinary way, at a miss or in a circle. -/
theorem Engine.formed_haltsIn (hp : p.Formed named) {q : Query} (hq : q.Formed named)
    (strict : Bool) : HaltsIn P ((Engine.mk p functions strict).evalQuery q document) := by
  have scope : ((Engine.mk p functions strict).scope document).HaltsIn p (fun _ => True) P :=
    (scopeAt_haltsIn ordinary notFound hp strict fun strict q hq =>
      enterPath_haltsIn ordinary notFound circular hp _ strict hq).of_standard hp
  exact Engine.evalQuery_haltsIn (e := ⟨p, functions, strict⟩) hp hq scope fun _ _ => trivial

end

/-- If the paths of the policy are evaluated without meeting a node out of place, then so are the
trees of an evaluation that enters them. -/
theorem scopeAt_placed (hp : p.Formed named) {level : Nat} (strict : Bool)
    (enter : ∀ strict (q : Query), q.IsPath named →
      HaltsIn Halt.Placed (enterPath p functions document level strict q.steps)) :
    (scopeAt p functions document level strict).HaltsIn .standard (fun _ => True)
      Halt.Placed :=
  scopeAt_haltsIn (fun _ ho => ho.placed) (by rintro _ _ _ ⟨⟩) hp strict enter

theorem enterPath_placed (hp : p.Formed named) (level : Nat) (strict : Bool) {q : Query}
    (hq : q.IsPath named) :
    HaltsIn Halt.Placed (enterPath p functions document level strict q.steps) :=
  enterPath_haltsIn (fun _ ho => ho.placed) (by rintro _ _ _ ⟨⟩) (by rintro _ ⟨⟩) hp level strict hq

theorem Query.Formed.head_root {q : Query} (h : q.Formed named) :
    q.steps.head?.map Located.node = some .root := by
  cases h
  rfl

/-- What the parser takes from any tokens is formed: it goes from the root through steps, with a
condition at most at its end, and every node below stands in its role. A query that was parsed keeps
this, and its root, when the aliases of a validated configuration are replaced, and no evaluation of
it fails for a node that is no step, no condition or no argument where one belongs. -/
theorem parsed_in_place :
    (∀ (s s' : TokenStream) (q : Query), Parser.query s = .ok q s' → q.Formed fun _ => True) ∧
    ∀ (text : String) (q : Query) (c : Config) (p : Policy), Query.parse text = .ok q →
      c.validate = .ok p →
        ((p.expand q).Formed fun name => Scanner.IsName name.toList) ∧
        (p.expand q).steps.head?.map Located.node = some .root ∧
        ∀ functions strict document m,
          (Engine.mk p functions strict).evalQuery q document = .mismatch m → ¬ m.Misplaced := by
  constructor
  · intro s s' q h
    obtain ⟨_, _, -, -, -, derived⟩ := Grammar.query_sound h
    exact derived.formed fun _ _ _ => trivial
  · intro text q c p parsed validated
    have hq := formed_of_parse parsed
    have hp := Config.formed_of_validate validated
    have expanded := hq.expand hp
    refine ⟨expanded, ?_, fun functions strict document m he => ?_⟩
    · exact expanded.head_root
    · have scope : ((Engine.mk p functions strict).scope document).HaltsIn p (fun _ => True)
          Halt.Placed :=
        (scopeAt_placed hp strict fun strict q hq => enterPath_placed hp _ strict hq).of_standard hp
      have placed := Engine.evalQuery_haltsIn (e := ⟨p, functions, strict⟩) hp hq scope
        fun _ _ => trivial
      exact placed _ he m rfl

set_option maxRecDepth 1000 in
/-- An omission in a condition behind an alias, under a configuration with an alternate query. -/
theorem filter_behind_alias_in_place :
    ∃ q p, Query.parse "u.filter(!{n} == @.m)" = .ok q ∧
      Config.validate ⟨[⟨"u", "$.us"⟩], ⟨.infer, none, some ⟨[], ["$.*"], none⟩⟩, .standard⟩ =
        .ok p ∧
      ((p.expand q).Formed fun name => Scanner.IsName name.toList) ∧
      (p.expand q).steps.head?.map Located.node = some .root ∧
      ∀ functions strict document m,
        (Engine.mk p functions strict).evalQuery q document = .mismatch m → ¬ m.Misplaced := by
  have parsed : Query.parse "u.filter(!{n} == @.m)" = .ok
      ⟨[⟨.root, 0⟩, ⟨.property "u", 0⟩, ⟨.call "filter"
        [.comparison .eq (.path [⟨.current, 9⟩, ⟨.omission ["n"], 9⟩])
          (.path [⟨.current, 17⟩, ⟨.property "m", 19⟩])], 2⟩]⟩ := by cbv
  have validated : Config.validate ⟨[⟨"u", "$.us"⟩],
      ⟨.infer, none, some ⟨[], ["$.*"], none⟩⟩, .standard⟩ = .ok
        ⟨[⟨"u", ⟨[⟨.root, 0⟩, ⟨.property "us", 2⟩]⟩⟩],
          .infer [] [⟨[⟨.root, 0⟩, ⟨.wildcard, 1⟩]⟩] .fail, .standard⟩ := by
    cbv
  exact ⟨_, _, parsed, validated, parsed_in_place.2 _ _ _ _ parsed validated⟩

end PathQuery
