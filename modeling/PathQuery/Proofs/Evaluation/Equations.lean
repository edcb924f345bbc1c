import PathQuery.Command.Check
import PathQuery.Proofs.Function.Yield
import PathQuery.Proofs.Query.Expansion

/-!
The evaluator in equations: arguments one by one, paths in two parts, and a formed query as its path
and its condition.
-/

namespace PathQuery

/-! ### Functions -/

@[simp] theorem ValueSet.items_array (xs : List Json) : (single (.array xs)).items = xs :=
  rfl

/-- Only a definite array is opened. -/
@[simp] theorem ValueSet.items_many (values : List Json) : (many values).items = values := by
  unfold items many
  split <;> rfl

/-- A name that stands for the standard function calls it. -/
theorem Registry.invoke_of_standard {r : Registry} {c : Call}
    (h : r.find? c.name = standard.find? c.name) : r.invoke c = standard.invoke c := by
  rw [invoke, invoke, h]

/-! ### Arguments and paths -/

namespace Scope

/-- An argument as written, with what it means in an evaluation. -/
def argument (s : Scope) (name : String) (arg : Node) : Argument where
  node := arg
  evaluate := fun current =>
    if arg.isCondition then do return .single (.bool (← s.test arg current))
    else s.evalNested name arg current
  holds := s.test arg
  operand := s.operand arg

theorem evalArguments_eq_map (s : Scope) (name : String) (args : List Node) :
    s.evalArguments name args = args.map (s.argument name) := by
  induction args with
  | nil => rw [evalArguments, List.map_nil]
  | cons arg rest ih =>
      rw [evalArguments, List.map_cons, ih]
      rfl

/-- A condition is no operand of its own. -/
theorem operand_of_isCondition (s : Scope) {n : Node} (h : n.isCondition = true) (set : ValueSet) :
    s.operand n set = .mismatch (.notOperand n) := by
  cases n with
  | comparison | condition | not => simp [operand]
  | _ => cases h

theorem evalSteps_append (s : Scope) (steps steps' : List Step) (set : ValueSet) :
    s.evalSteps (steps ++ steps') set = s.evalSteps steps set >>= s.evalSteps steps' := by
  induction steps generalizing set with
  | nil =>
      rw [List.nil_append, evalSteps]
      rfl
  | cons step rest ih =>
      rw [List.cons_append, evalSteps, evalSteps]
      cases s.evalStep step.node step.position set with
      | ok set' => exact ih set'
      | error h => rfl

theorem evalSteps_singleton (s : Scope) (step : Step) (set : ValueSet) :
    s.evalSteps [step] set = s.evalStep step.node step.position set :=
  bind_pure _

/-- A path from the root does not depend on the current values. -/
theorem evalSteps_root (s : Scope) (position : Nat) (steps : List Step) (set : ValueSet) :
    s.evalSteps (⟨.root, position⟩ :: steps) set = s.evalSteps steps (.single s.base) := by
  rw [evalSteps, evalStep]
  rfl

theorem test_and (s : Scope) (c d : Node) (set : ValueSet) :
    s.test (.condition .and c d) set = do
      if ← s.test c set then s.test d set else return false := by
  rw [test]
  cases s.test c set with
  | error h => rfl
  | ok b => cases b <;> rfl

theorem test_or (s : Scope) (c d : Node) (set : ValueSet) :
    s.test (.condition .or c d) set = (do
      if ← s.test c set then return true else s.test d set) := by
  rw [test]
  cases s.test c set with
  | error h => rfl
  | ok b => cases b <;> rfl

/-- A strict evaluation has no alternates, so it is the policy that has them. -/
theorem policy_of_infer {s : Scope} {keys : List String} {queries : List Query} {last : LastResort}
    (h : s.fallback = .infer keys queries last) :
    s.policy.fallback = .infer keys queries last ∧ s.strict = false := by
  unfold fallback at h
  split at h
  · cases h
  · rename_i hs
    exact ⟨h, by simpa using hs⟩

end Scope

/-- The path and the condition of a query are made of its steps. -/
theorem Engine.mem_of_splitCondition {steps path : List Step} {condition : Option Node}
    (hs : splitCondition steps = (path, condition)) :
    (∀ s ∈ path, s ∈ steps) ∧ ∀ c ∈ condition, ∃ s ∈ steps, s.node = c := by
  unfold splitCondition at hs
  split at hs
  · rename_i last hl
    split at hs
    · cases hs
      refine ⟨fun s hm => (List.dropLast_sublist _).subset hm, ?_⟩
      rintro c ⟨⟩
      exact ⟨last, List.mem_of_getLast? hl, rfl⟩
    · cases hs
      exact ⟨fun _ hm => hm, nofun⟩
  · cases hs
    exact ⟨fun _ hm => hm, nofun⟩

variable {named : String → Prop}

theorem Engine.splitCondition_concat {n : Node} (h : n.isCondition = true) (steps : List Step)
    (position : Nat) : splitCondition (steps ++ [⟨n, position⟩]) = (steps, some n) := by
  rw [splitCondition, List.getLast?_concat, List.dropLast_concat]
  simp [h]

theorem Engine.splitCondition_formed (rootPosition position : Nat) {path : List Step}
    {condition : Option Node} (hp : ∀ s ∈ path, s.node.Formed named .step)
    (hc : ∀ c ∈ condition, c.Formed named .condition) :
    splitCondition (⟨.root, rootPosition⟩ :: (path ++ condition.toList.map (⟨·, position⟩))) =
      (⟨.root, rootPosition⟩ :: path, condition) := by
  cases condition with
  | some c =>
      have last := (hc c rfl).isCondition.2 rfl
      rw [Option.toList_some, List.map_singleton, ← List.cons_append, splitCondition_concat last]
  | none =>
      rw [Option.toList_none, List.map_nil, List.append_nil]
      unfold splitCondition
      cases hl : (Located.mk Node.root rootPosition :: path).getLast? with
      | none => rfl
      | some s =>
          have plain : s.node.isCondition = false := by
            rcases List.mem_cons.1 (List.mem_of_getLast? hl) with rfl | hm
            · rfl
            · exact (hp s hm).isCondition.1 rfl
          simp [plain]

/-- The path of a query is evaluated from the document, and its condition on what that gives. -/
theorem Engine.evalQuery_formed (e : Engine) (he : e.policy.Formed named)
    (rootPosition position : Nat) {path : List Step} {condition : Option Node}
    (hp : ∀ s ∈ path, s.node.Formed named .step) (hc : ∀ c ∈ condition, c.Formed named .condition)
    (document : Json) :
    e.evalQuery ⟨⟨.root, rootPosition⟩ :: (path ++ condition.toList.map (⟨·, position⟩))⟩
        document = do
      let set ← (e.scope document).evalSteps
        (e.policy.expandSteps [] (⟨.root, rootPosition⟩ :: path)) (.single document)
      match condition with
      | some c => return .bool (← (e.scope document).test (e.policy.expandNode c) set)
      | none => return .ofValueSet set := by
  obtain ⟨position', path', expanded, formed⟩ := he.expandPath rootPosition hp
  have split := e.policy.expandSteps_append [] (⟨.root, rootPosition⟩ :: path)
    (fun c hm => (hc c hm).isCondition.2 rfl) position
  unfold evalQuery Policy.expand
  rw [← List.cons_append, split, expanded, List.cons_append, splitCondition_formed _ _ formed]
  · cases condition with
    | none => rfl
    | some c => rfl
  · intro c' hc'
    obtain ⟨c, hm, rfl⟩ := Option.map_eq_some_iff.1 hc'
    exact (hc c hm).expand he

/-! ### Queries without a condition -/

theorem Query.isPredicate_eq_false_iff {q : Query} :
    q.isPredicate = false ↔ ∀ s ∈ q.steps.getLast?, s.node.isCondition = false := by
  unfold isPredicate condition?
  cases q.steps.getLast? with
  | none => simp
  | some s => simp [Option.filter_some]

theorem Query.isPredicate_append {steps rest : List Step}
    (h : (Query.mk steps).isPredicate = false)
    (hr : ∀ step ∈ rest, step.node.isCondition = false) :
    (Query.mk (steps ++ rest)).isPredicate = false := by
  rw [isPredicate_eq_false_iff] at h ⊢
  intro last hl
  rw [List.getLast?_append] at hl
  cases behind : rest.getLast? with
  | none =>
      rw [behind] at hl
      exact h last hl
  | some step =>
      rw [behind] at hl
      cases hl
      exact hr last (List.mem_of_getLast? behind)

theorem Engine.splitCondition_of_not_isPredicate {q : Query} (h : q.isPredicate = false) :
    splitCondition q.steps = (q.steps, none) := by
  unfold splitCondition
  split
  · rename_i last hl
    simp [Query.isPredicate_eq_false_iff.1 h last hl]
  · rfl

theorem Output.ofValueSet_eq_value {set : ValueSet} {v : Json} (h : ofValueSet set = .value v) :
    set = .single v := by
  obtain ⟨values, definite⟩ := set
  unfold ofValueSet at h
  split at h
  · rename_i j single
    split at h
    · rename_i one
      cases h
      rw [show values = [v] from single, show definite = true from one, ValueSet.single]
    · cases h
  · cases h

namespace Engine

variable {e : Engine} {base : Json}

theorem evalPath_append {path : List Step} {current : Option ValueSet} {set : ValueSet}
    (value : e.evalPath path base current = .ok set) (rest : List Step) :
    e.evalPath (path ++ rest) base current = (e.scope base).evalSteps rest set := by
  rw [evalPath, Scope.evalSteps_append, show (e.scope base).evalSteps path _ = .ok set from value]
  rfl

theorem evalQuery_path {q : Query} (h : (e.policy.expand q).isPredicate = false) :
    e.evalQuery q base = do
      return .ofValueSet
        (← (e.scope base).evalSteps (e.policy.expand q).steps (.single base)) := by
  unfold evalQuery
  rw [splitCondition_of_not_isPredicate h]
  rfl

/-- The query of a key group with one key, which is an alias: its path is walked from the base. -/
theorem evalQuery_groupKey (e : Engine) {name : String} {target : Query}
    (ht : e.policy.target? name = some target) (rootPosition position : Nat) (base : Json) :
    e.evalQuery ⟨[⟨.root, rootPosition⟩, ⟨.multiKey [name], position⟩]⟩ base = do
      return .ofValueSet (.many (← (e.scope base).enter e.strict target.steps).values) := by
  have expanded : e.policy.expand ⟨[⟨.root, rootPosition⟩, ⟨.multiKey [name], position⟩]⟩ =
      ⟨[⟨.root, rootPosition⟩, ⟨.multiKey [name], position⟩]⟩ := rfl
  have grouped (value : Json) :
      (e.scope base).groupMember ⟨.multiKey [name], position⟩ value name = do
        return (← (e.scope base).enter e.strict target.steps).values := by
    unfold Scope.groupMember
    rw [show (e.scope base).policy.target? name = some target from ht]
    rfl
  rw [evalQuery_path rfl, expanded, Scope.evalSteps_root, Scope.evalSteps_singleton,
    Scope.evalStep]
  simp only [Scope.applyStep, ValueSet.single, List.mapM_cons, List.mapM_nil, Scope.select, grouped]
  cases (e.scope base).enter e.strict target.steps with
  | ok set =>
      show Except.ok (Output.ofValueSet ⟨[[set.values].flatten].flatten, false⟩) = _
      rw [List.flatten_singleton, List.flatten_singleton]
      rfl
  | error h => rfl

theorem isPredicate_eq (q : Query) : q.isPredicate = (splitCondition q.steps).2.isSome := by
  unfold Query.isPredicate Query.condition? splitCondition
  cases q.steps.getLast? with
  | none => rfl
  | some last => cases h : last.node.isCondition <;> simp [Option.filter_some, h]

/-- The value of a query is that of its path, there being no condition. -/
theorem path_of_evalQuery_value {q : Query} {v : Json}
    (h : e.evalQuery q base = .ok (.value v)) : (e.policy.expand q).isPredicate = false ∧
      (e.scope base).evalSteps (e.policy.expand q).steps (.single base) = .ok (.single v) := by
  have noCondition : (e.policy.expand q).isPredicate = false := by
    rw [isPredicate_eq]
    unfold evalQuery at h
    generalize splitCondition (e.policy.expand q).steps = split at h ⊢
    obtain ⟨path, condition⟩ := split
    cases condition with
    | none => rfl
    | some node =>
        -- with a condition the output is a truth value
        obtain ⟨set, -, h⟩ := Outcome.eq_ok_of_bind h
        obtain ⟨holds, -, h⟩ := Outcome.eq_ok_of_bind h
        cases h
  rw [evalQuery_path noCondition] at h
  obtain ⟨set, hs, h⟩ := Outcome.eq_ok_of_bind h
  rw [hs, Output.ofValueSet_eq_value (Except.ok.inj h)]
  exact ⟨noCondition, rfl⟩

/-- Steps behind a query go on from its value. -/
theorem evalQuery_append {path : List Step} {v : Json}
    (value : e.evalQuery ⟨path⟩ base = .ok (.value v)) {rest : List Step}
    (noAlias : ∀ s ∈ Node.withInnerSteps rest, e.policy.stepTarget? s.node = none)
    (noCondition : ∀ step ∈ rest, step.node.isCondition = false) :
    e.evalQuery ⟨path ++ rest⟩ base = do
      return .ofValueSet (← (e.scope base).evalSteps rest (.single v)) := by
  obtain ⟨pathOnly, value⟩ := path_of_evalQuery_value value
  have plain : ∀ step ∈ rest, e.policy.stepTarget? step.node = none :=
    fun step hs => noAlias step (Node.mem_withInnerSteps hs)
  have kept : rest.map e.policy.expandStep = rest :=
    (Policy.expandSteps_plain [] plain).symm.trans (Policy.expandSteps_of_noAlias [] rest noAlias)
  have expanded : e.policy.expand ⟨path ++ rest⟩ = ⟨(e.policy.expand ⟨path⟩).steps ++ rest⟩ := by
    rw [Policy.expand, e.policy.expandSteps_append_plain [] path plain, kept]
    rfl
  have pathOnly' : (e.policy.expand ⟨path ++ rest⟩).isPredicate = false := by
    rw [expanded]
    exact Query.isPredicate_append pathOnly noCondition
  rw [evalQuery_path pathOnly', expanded, Scope.evalSteps_append, value]
  rfl

end Engine

/-- A text that is read is evaluated as the query it is. -/
theorem evaluate_of_parse {text : String} {q : Query} {c : Config} {p : Policy}
    (hc : c.validate = .ok p) (hq : Query.parse text = .ok q) (document : Json) :
    evaluate text document c = (Engine.ofPolicy p).evalQuery q document := by
  unfold evaluate
  rw [hc, hq]

end PathQuery
