import PathQuery.Command.Check
import PathQuery.Proofs.Config.Compiled
import PathQuery.Proofs.Evaluation.Depth
import PathQuery.Proofs.Evaluation.Equations

/-!
What alternate queries answer. A miss that no alternate key answers is given the values of the first
alternate that is not passed over, or the error it fails with. The alternates are walked as they are
compiled: aliases in their key groups are followed, but a step that is named like an alias is a
member. As a query an alternate has such steps replaced, so the two answers are the same where
nothing is to be replaced.
-/

namespace PathQuery

def Output.contents : Output → List Json
  | .value j => [j]
  | .values js => js
  | .bool b => [.bool b]

@[simp] theorem Output.contents_ofValueSet (set : ValueSet) :
    (Output.ofValueSet set).contents = set.values := by
  obtain ⟨values, definite⟩ := set
  unfold ofValueSet
  split
  · rename_i one
    dsimp only at one
    subst one
    split
    · rfl
    · rfl
  · rfl

/-- An answer that is passed over: there is nothing, or a step was not found. -/
def Outcome.PassedOver (x : Outcome (List Json)) : Prop :=
  x = .ok [] ∨ ∃ node position, x = .fail (.pathNotFound node position)

/-- What takes the place of a step where alternates are asked in turn. The first that is not passed
over decides, be it by its values or by an error. -/
inductive Inferred (answer : Query → Outcome (List Json)) (queries : List Query)
    (last : Outcome (List Json)) : Outcome (List Json) → Prop
  | answered {before after : List Query} {q : Query} : queries = before ++ q :: after →
      (∀ r ∈ before, (answer r).PassedOver) → ¬ (answer q).PassedOver →
        Inferred answer queries last (answer q)
  | exhausted : (∀ q ∈ queries, (answer q).PassedOver) → Inferred answer queries last last

namespace Inferred

variable {answer answer' : Query → Outcome (List Json)} {q : Query} {queries : List Query}
  {last x y : Outcome (List Json)}

theorem cons (passed : (answer q).PassedOver) (h : Inferred answer queries last x) :
    Inferred answer (q :: queries) last x := by
  cases h with
  | answered parts before decides =>
      rw [parts]
      exact .answered (List.cons_append ..).symm (List.forall_mem_cons.2 ⟨passed, before⟩) decides
  | exhausted all => exact .exhausted (List.forall_mem_cons.2 ⟨passed, all⟩)

theorem head (here : answer q = x) (decides : ¬ x.PassedOver) :
    Inferred answer (q :: queries) last x := by
  rw [← here] at decides ⊢
  exact .answered (List.nil_append _).symm (by simp) decides

theorem of_cons (h : Inferred answer (q :: queries) last x) :
    ((answer q).PassedOver ∧ Inferred answer queries last x) ∨
      (¬ (answer q).PassedOver ∧ x = answer q) := by
  cases h with
  | @answered before _ r parts passed decides =>
      cases before with
      | nil =>
          obtain ⟨rfl, -⟩ := List.cons.inj parts
          exact .inr ⟨decides, rfl⟩
      | cons s before =>
          obtain ⟨rfl, rest⟩ := List.cons.inj parts
          rw [List.forall_mem_cons] at passed
          exact .inl ⟨passed.1, .answered rest passed.2 decides⟩
  | exhausted all =>
      rw [List.forall_mem_cons] at all
      exact .inl ⟨all.1, .exhausted all.2⟩

/-- One outcome is inferred. -/
theorem unique (hx : Inferred answer queries last x) (hy : Inferred answer queries last y) :
    x = y := by
  induction queries with
  | nil =>
      have only {z : Outcome (List Json)} (hz : Inferred answer [] last z) : z = last := by
        cases hz with
        | answered parts => simp at parts
        | exhausted => rfl
      rw [only hx, only hy]
  | cons q rest ih =>
      rcases hx.of_cons with ⟨passed, hx⟩ | ⟨decides, rfl⟩
      · rcases hy.of_cons with ⟨-, hy⟩ | ⟨decides, -⟩
        · exact ih hx hy
        · exact absurd passed decides
      · rcases hy.of_cons with ⟨passed, -⟩ | ⟨-, rfl⟩
        · exact absurd passed decides
        · rfl

theorem congr (same : ∀ q ∈ queries, answer q = answer' q) (h : Inferred answer queries last x) :
    Inferred answer' queries last x := by
  cases h with
  | @answered before after q parts passed decides =>
      rw [parts, List.forall_mem_append, List.forall_mem_cons] at same
      obtain ⟨front, here, -⟩ := same
      rw [here] at decides ⊢
      refine .answered parts (fun r hr => ?_) decides
      rw [← front r hr]
      exact passed r hr
  | exhausted all =>
      refine .exhausted fun q hq => ?_
      rw [← same q hq]
      exact all q hq

end Inferred

/-! ### The search -/

namespace Scope

variable {s : Scope} {m : Miss}

/-- What an evaluation gets from an alternate by walking it. -/
def walked (s : Scope) (q : Query) : Outcome (List Json) :=
  ValueSet.values <$> s.enter true q.steps

theorem alternateQuery?_inferred (queries : List Query) (last : Outcome (List Json)) :
    Inferred s.walked queries last (do
      match ← s.alternateQuery? queries with
      | some values => return values
      | none => last) := by
  induction queries with
  | nil => exact .exhausted (by simp)
  | cons q rest ih =>
      unfold alternateQuery?
      split
      · rename_i set answered
        have answer : s.walked q = .ok set.values := by
          rw [walked, answered]
          rfl
        split
        · rename_i empty
          rw [List.isEmpty_iff] at empty
          exact ih.cons (.inl (by rw [answer, empty]))
        · rename_i some
          have decides : ¬ Outcome.PassedOver (.ok set.values) := by
            rintro (nothing | ⟨_, _, ⟨⟩⟩)
            exact some (List.isEmpty_iff.2 (Except.ok.inj nothing))
          exact .head answer decides
      · rename_i node position missed
        have answer : s.walked q = .fail (.pathNotFound node position) := by
          rw [walked, missed]
          rfl
        exact ih.cons (.inr ⟨node, position, answer⟩)
      · rename_i other fatal failed
        have answer : s.walked q = .error other := by
          rw [walked, failed]
          rfl
        have decides : ¬ Outcome.PassedOver (.error other) := by
          rintro (⟨⟨⟩⟩ | ⟨node, position, he⟩)
          exact fatal node position (Except.error.inj he)
        exact .head answer decides

theorem recover_inferred {keys : List String} {queries : List Query} {last : LastResort}
    (infer : s.fallback = .infer keys queries last) (past : s.alternateMember? m keys = none) :
    Inferred s.walked queries (lastResort m last) (s.recover m) := by
  unfold recover
  rw [infer]
  dsimp only
  rw [past]
  exact alternateQuery?_inferred queries (lastResort m last)

end Scope

/-! ### Validated policies -/

namespace Engine

/-- What an alternate gives as a query. -/
def ask (e : Engine) (document : Json) (q : Query) : Outcome (List Json) :=
  Output.contents <$> e.evalQuery q document

/-- What an alternate gives when its steps are walked as they are. -/
def walk (e : Engine) (document : Json) (q : Query) : Outcome (List Json) :=
  ValueSet.values <$> e.evalPath q.steps document none

theorem scope_walked (p : Policy) (functions : Registry) (strict : Bool) (document : Json) :
    ((Engine.mk p functions strict).scope document).walked =
      (Engine.mk p functions true).walk document := by
  funext q
  have same := enterPath_eq_evalPath p functions document true q.steps
  exact congrArg (ValueSet.values <$> ·) same

/-- A path asked as a query is walked with its aliases replaced. -/
theorem ask_eq_walk_expand {named : String → Prop} (e : Engine) (he : e.policy.Formed named)
    {q : Query} (hq : q.IsPath named) (document : Json) :
    e.ask document q = e.walk document (e.policy.expand q) := by
  obtain ⟨steps⟩ := q
  obtain ⟨position, path, rfl, formed⟩ := hq
  have noCondition : ∀ c ∈ (none : Option Node), c.Formed named .condition := nofun
  have asked := e.evalQuery_formed he position position formed noCondition document
  rw [Option.toList_none, List.map_nil, List.append_nil] at asked
  rw [ask, asked, walk, evalPath]
  show _ = ValueSet.values <$> (e.scope document).evalSteps
    (e.policy.expandSteps [] (⟨.root, position⟩ :: path)) (.single document)
  cases (e.scope document).evalSteps (e.policy.expandSteps [] (⟨.root, position⟩ :: path))
      (.single document) with
  | ok set => exact congrArg Except.ok (Output.contents_ofValueSet set)
  | error h => rfl

end Engine

/-- Under a validated configuration with alternate queries, a miss that the alternate keys do not
answer is answered by walking the alternates as they are compiled, at every level of the evaluation
that is not found circular. As a query an alternate is walked with its aliases replaced; so the
alternates mean what they mean as queries if none of their steps, at any depth, is an alias. -/
theorem alternates_walked (c : Config) (p : Policy) (validated : c.validate = .ok p)
    {keys : List String} {queries : List Query} {last : LastResort}
    (infer : p.fallback = .infer keys queries last) (functions : Registry) (document : Json) :
    let s := (Engine.mk p functions false).scope document
    let strict := Engine.mk p functions true
    (∀ m, s.alternateMember? m keys = none →
      Inferred (strict.walk document) queries (Scope.lastResort m last) (s.recover m)) ∧
    (∀ level m, Outcome.Below (· = .circular)
      ((scopeAt p functions document level false).recover m) (s.recover m)) ∧
    (∀ q ∈ queries, strict.ask document q = strict.walk document (p.expand q)) ∧
    ((∀ q ∈ queries, ∀ step ∈ q.allSteps, p.stepTarget? step.node = none) →
      ∀ m, s.alternateMember? m keys = none →
        Inferred (strict.ask document) queries (Scope.lastResort m last) (s.recover m)) := by
  intro s strict
  have formed := Config.formed_of_validate validated
  have walked (m : Miss) (past : s.alternateMember? m keys = none) :
      Inferred (strict.walk document) queries (Scope.lastResort m last) (s.recover m) := by
    have searched := Scope.recover_inferred (s := s) infer past
    rwa [Engine.scope_walked] at searched
  have asked (q : Query) (hq : q ∈ queries) :
      strict.ask document q = strict.walk document (p.expand q) :=
    strict.ask_eq_walk_expand formed (formed.alternate infer hq) document
  refine ⟨walked, fun level m => (scopeAt_below_levels level false).recover m, asked,
    fun plain m past => (walked m past).congr fun q hq => ?_⟩
  rw [asked q hq, Policy.expand_of_noAlias (plain q hq)]

/-- An alternate that follows an alias in a key group, behind one that misses. -/
theorem alternates_walked_alias_in_group :
    let document : Json := .object [("a", .null)]
    ∃ p keys queries last,
      Config.validate ⟨[⟨"u", "$.a"⟩], ⟨.infer, none, some ⟨[], ["$.b", "${u}"], none⟩⟩,
        .standard⟩ = .ok p ∧
      p.fallback = .infer keys queries last ∧
      (∀ q ∈ queries, ∀ step ∈ q.allSteps, p.stepTarget? step.node = none) ∧
      ∃ m, ((Engine.ofPolicy p).scope document).alternateMember? m keys = none ∧
        ((Engine.ofPolicy p).scope document).recover m = .ok [.null] ∧
        Inferred ((Engine.mk p .standard true).ask document) queries (Scope.lastResort m last)
          (((Engine.ofPolicy p).scope document).recover m) := by
  intro document
  have validated : Config.validate ⟨[⟨"u", "$.a"⟩],
      ⟨.infer, none, some ⟨[], ["$.b", "${u}"], none⟩⟩, .standard⟩ = .ok
        ⟨[⟨"u", ⟨[⟨.root, 0⟩, ⟨.property "a", 2⟩]⟩⟩],
          .infer [] [⟨[⟨.root, 0⟩, ⟨.property "b", 2⟩]⟩, ⟨[⟨.root, 0⟩, ⟨.multiKey ["u"], 1⟩]⟩]
            .fail, .standard⟩ := by cbv
  have answered := alternates_walked _ _ validated rfl .standard document
  refine ⟨_, _, _, _, validated, rfl, by decide, ⟨⟨.property "x", 2⟩, some "x", document⟩, rfl,
    rfl, ?_⟩
  exact answered.2.2.2 (by decide) _ rfl

theorem validate_name : Config.validate ⟨[⟨"u", "$.user.name"⟩],
    ⟨.infer, none, some ⟨[], ["$.u"], none⟩⟩, .standard⟩ = .ok
      ⟨[⟨"u", ⟨[⟨.root, 0⟩, ⟨.property "user", 2⟩, ⟨.property "name", 7⟩]⟩⟩],
        .infer [] [⟨[⟨.root, 0⟩, ⟨.property "u", 2⟩]⟩] .fail, .standard⟩ := by
  cbv

/-- As a query the alternate gives the name, but a miss is not answered by it. -/
theorem alias_alternate_not_replaced :
    ∃ p keys queries last,
      Config.validate ⟨[⟨"u", "$.user.name"⟩], ⟨.infer, none, some ⟨[], ["$.u"], none⟩⟩,
        .standard⟩ = .ok p ∧
      p.fallback = .infer keys queries last ∧
      ∃ document m, ((Engine.ofPolicy p).scope document).alternateMember? m keys = none ∧
        (∀ q ∈ queries, (Engine.mk p .standard true).ask document q = .ok [.string "Ann"]) ∧
        evaluate "$.x" document ⟨[⟨"u", "$.user.name"⟩],
          ⟨.infer, none, some ⟨[], ["$.u"], none⟩⟩, .standard⟩ =
            .fail (.pathNotFound (.property "x") 2) ∧
        ¬ Inferred ((Engine.mk p .standard true).ask document) queries (Scope.lastResort m last)
          (((Engine.ofPolicy p).scope document).recover m) := by
  let document : Json := .object [("user", .object [("name", .string "Ann")])]
  have parsed : Query.parse "$.x" = .ok ⟨[⟨.root, 0⟩, ⟨.property "x", 2⟩]⟩ := by cbv
  refine ⟨_, _, _, _, validate_name, rfl, document, ⟨⟨.property "x", 2⟩, some "x", document⟩, rfl,
    ?_, ?_, fun inferred => ?_⟩
  · rw [List.forall_mem_singleton]
    rfl
  · rw [evaluate_of_parse validate_name parsed]
    rfl
  · have decides : ¬ Outcome.PassedOver (.ok [.string "Ann"]) := by
      rintro (⟨⟨⟩⟩ | ⟨_, _, ⟨⟩⟩)
    have same := inferred.unique (.head rfl decides)
    cases same

end PathQuery
