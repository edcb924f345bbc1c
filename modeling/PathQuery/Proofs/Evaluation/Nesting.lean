import PathQuery.Proofs.Evaluation.Depth
import PathQuery.Proofs.Evaluation.Equations

/-!
How deep the calls of the evaluator nest. Paths, conditions and operands call each other: a path
for the arguments of its calls, for the aliases of its key groups and for alternate queries, a
condition for its parts, an operand for its path. `Calls.within` is the evaluator with a bound on
this nesting; an evaluation that would nest deeper is found `circular`. The nesting that a tree
needs is its depth, and for each level of the evaluation that of the paths of the policy.
-/

namespace PathQuery

/-- The functions of the evaluator, on trees and current values. -/
structure Calls where
  path : (strict : Bool) → List Step → ValueSet → Outcome ValueSet
  test : (strict : Bool) → Node → ValueSet → Outcome Bool
  operand : (strict : Bool) → Node → ValueSet → Outcome (Option Json)

namespace Calls

/-- An argument that is no condition. -/
def nested (c : Calls) (strict : Bool) (name : String) (arg : Node) (current : ValueSet) :
    Outcome ValueSet :=
  match arg with
  | .literal value => .ok (.single value)
  | .current => .ok current
  | .path steps => c.path strict steps current
  | other => .mismatch (.notArgument name other)

/-- A function of the language evaluates its arguments by calls. -/
def argument (c : Calls) (strict : Bool) (name : String) (arg : Node) : Argument where
  node := arg
  evaluate := fun current =>
    if arg.isCondition then do return .single (.bool (← c.test strict arg current))
    else c.nested strict name arg current
  holds := c.test strict arg
  operand := c.operand strict arg

/-- Paths of the policy are evaluated by calls, from the base. -/
def scope (c : Calls) (p : Policy) (functions : Registry) (base : Json) (strict : Bool) : Scope :=
  ⟨p, functions, base, strict, fun strict steps => c.path strict steps (.single base)⟩

def step (c : Calls) (s : Scope) (step : Step) (set : ValueSet) : Outcome ValueSet :=
  match step.node with
  | .root => .ok (.single s.base)
  | .current => .ok set
  | .call name args => s.functions.invoke ⟨name, args.map (c.argument s.strict name), set⟩
  | .property _ | .index _ | .slice _ | .wildcard | .multiKey _ | .omission _ =>
    s.applyStep step set
  | other => .mismatch (.notStep other)

/-- One call of each function. The calls that it makes are those of `c`. -/
def once (p : Policy) (functions : Registry) (base : Json) (c : Calls) : Calls where
  path := fun strict steps current =>
    steps.foldlM (fun set step => c.step (c.scope p functions base strict) step set) current
  test := fun strict node current =>
    match node with
    | .comparison op left right => do
      compareOperands op (← c.operand strict left current) (← c.operand strict right current)
    | .condition op left right => do
      match op, ← c.test strict left current with
      | .and, false => return false
      | .or, true => return true
      | _, _ => c.test strict right current
    | .not inner => do return !(← c.test strict inner current)
    | other => .mismatch (.notCondition other)
  operand := fun strict node current =>
    match node with
    | .literal value => .ok (some value)
    | .current => scalarOf node current
    | .path steps => do scalarOf node (← c.path strict steps current)
    | other => .mismatch (.notOperand other)

/-- Calls that nest at most `n` deep, themselves included. -/
def within (p : Policy) (functions : Registry) (base : Json) : (n : Nat) → Calls
  | 0 => ⟨fun _ _ _ => .error .circular, fun _ _ _ => .error .circular,
      fun _ _ _ => .error .circular⟩
  | n + 1 => once p functions base (within p functions base n)

end Calls

/-- Evaluates a query as `evalQuery` does, by calls that nest at most `n` deep. -/
def Engine.evalQueryWithin (e : Engine) (n : Nat) (q : Query) (document : Json) :
    Outcome Output := do
  let calls := Calls.within e.policy e.functions document n
  let (path, condition) := splitCondition (e.policy.expand q).steps
  let set ← calls.path e.strict path (.single document)
  match condition with
  | some node => return .bool (← calls.test e.strict node set)
  | none => return .ofValueSet set

/-! ### Depth -/

mutual

/-- How deep calls nest for a node, other than for paths of the policy. -/
def Node.depth : Node → Nat
  | .call _ args => 1 + Node.depthOfAll args
  | .comparison _ left right | .condition _ left right => 1 + max left.depth right.depth
  | .not inner => 1 + inner.depth
  -- as an operand a path is called for on behalf of the operand
  | .path steps => 2 + Node.depthOfSteps steps
  | .root | .current | .property _ | .index _ | .slice _ | .wildcard | .multiKey _ | .omission _
  | .literal _ => 1

def Node.depthOfAll : List Node → Nat
  | [] => 0
  | n :: rest => max n.depth (Node.depthOfAll rest)

def Node.depthOfSteps : List Step → Nat
  | [] => 0
  | ⟨n, _⟩ :: rest => max n.depth (Node.depthOfSteps rest)

end

theorem Node.depth_pos (n : Node) : 0 < n.depth := by
  cases n with
  | call _ _ | comparison _ _ _ | condition _ _ _ | not _ | path _ =>
      rw [depth]
      omega
  | _ => exact Nat.one_pos

theorem Node.depth_le_depthOfAll {n : Node} {ns : List Node} (h : n ∈ ns) :
    n.depth ≤ Node.depthOfAll ns := by
  induction ns with
  | nil => cases h
  | cons m rest ih =>
      rw [depthOfAll]
      rcases List.mem_cons.1 h with rfl | h
      · exact Nat.le_max_left _ _
      · exact Nat.le_trans (ih h) (Nat.le_max_right _ _)

theorem Node.depthOfSteps_le {steps : List Step} {k : Nat} :
    Node.depthOfSteps steps ≤ k ↔ ∀ step ∈ steps, step.node.depth ≤ k := by
  induction steps with
  | nil => simp [depthOfSteps]
  | cons step rest ih =>
      rw [depthOfSteps, Nat.max_le, ih, List.forall_mem_cons]

namespace Policy

/-- The paths that an evaluation may enter. -/
def paths (p : Policy) : List Query :=
  p.aliases.map Alias.target ++
    match p.fallback with
    | .plain _ => []
    | .infer _ queries _ => queries

/-- The depth of the deepest of its paths. -/
def depth (p : Policy) : Nat :=
  Node.depthOfAll (p.paths.map fun q => .path q.steps)

/-- How deep calls nest for a query, whatever the document. -/
def nesting (p : Policy) (q : Query) : Nat :=
  (Node.path (p.expand q).steps).depth + p.levels * p.depth

variable {p : Policy}

theorem mem_paths_of_target? {name : String} {target : Query} (h : p.target? name = some target) :
    target ∈ p.paths := by
  obtain ⟨a, ha, rfl⟩ := mem_of_target? h
  exact List.mem_append_left _ (List.mem_map_of_mem ha)

theorem mem_paths_of_infer {keys : List String} {queries : List Query} {last : LastResort}
    (h : p.fallback = .infer keys queries last) {q : Query} (hq : q ∈ queries) : q ∈ p.paths := by
  unfold paths
  rw [h]
  exact List.mem_append_right _ hq

theorem depth_of_mem_paths {q : Query} (h : q ∈ p.paths) :
    2 + Node.depthOfSteps q.steps ≤ p.depth := by
  have le := Node.depth_le_depthOfAll (List.mem_map_of_mem (f := fun q => Node.path q.steps) h)
  rwa [Node.depth] at le

end Policy

/-! ### Enough nesting for a tree -/

/-- Calls that may nest `k` deep evaluate the paths of the policy as the evaluation at the level
does, unless its levels are spent. -/
def Calls.Enough (p : Policy) (functions : Registry) (base : Json) (level : Nat) (strict : Bool)
    (k : Nat) : Prop :=
  ∀ n, k ≤ n → Scope.Below (· = .circular) (scopeAt p functions base level strict)
    ((Calls.within p functions base n).scope p functions base strict)

namespace Calls.Enough

variable {p : Policy} {functions : Registry} {base : Json} {level k : Nat} {strict : Bool}

mutual

theorem evalSteps (enough : Enough p functions base level strict k) (steps : List (Located Node))
    (n : Nat) (h : Node.depthOfSteps steps + k ≤ n) (set : ValueSet) :
    Outcome.Below (· = .circular) ((scopeAt p functions base level strict).evalSteps steps set)
      ((within p functions base (n + 1)).path strict steps set) := by
  match steps with
  | [] =>
      rw [Scope.evalSteps]
      exact .refl _
  | ⟨node, position⟩ :: rest =>
      rw [Node.depthOfSteps] at h
      rw [Scope.evalSteps]
      exact (evalStep enough node position n (by omega) set).bind fun set' =>
        evalSteps enough rest n (by omega) set'

theorem evalStep (enough : Enough p functions base level strict k) (node : Node)
    (position n : Nat) (h : node.depth + k ≤ n) (set : ValueSet) :
    Outcome.Below (· = .circular)
      ((scopeAt p functions base level strict).evalStep node position set)
      ((within p functions base n).step
        ((within p functions base n).scope p functions base strict) ⟨node, position⟩ set) := by
  match node with
  | .call name args =>
      rw [Node.depth] at h
      rw [Scope.evalStep]
      exact Registry.invoke_below (evalArguments enough name args n (by omega)) _
  | .property _ | .index _ | .slice _ | .wildcard | .multiKey _ | .omission _ =>
      rw [Scope.evalStep]
      exact (enough n (by omega)).applyStep _ set
  | .root | .current | .comparison _ _ _ | .condition _ _ _ | .not _ | .literal _ | .path _ =>
      rw [Scope.evalStep]
      exact .refl _

theorem evalArguments (enough : Enough p functions base level strict k) (name : String)
    (args : List Node) (n : Nat) (h : Node.depthOfAll args + k ≤ n) :
    List.Forall₂ (Argument.Below (· = .circular))
      ((scopeAt p functions base level strict).evalArguments name args)
      (args.map ((within p functions base n).argument strict name)) := by
  match args with
  | [] =>
      rw [Scope.evalArguments]
      exact .nil
  | arg :: rest =>
      rw [Node.depthOfAll] at h
      rw [Scope.evalArguments]
      refine .cons ⟨rfl, fun current => ?_, test enough arg n (by omega),
        operand enough arg n (by omega)⟩ (evalArguments enough name rest n (by omega))
      unfold argument
      dsimp only
      split
      · exact (test enough arg n (by omega) current).bind fun _ => .refl _
      · exact evalNested enough name arg n (by omega) current

theorem evalNested (enough : Enough p functions base level strict k) (name : String) (arg : Node)
    (n : Nat) (h : arg.depth + k ≤ n) (set : ValueSet) :
    Outcome.Below (· = .circular)
      ((scopeAt p functions base level strict).evalNested name arg set)
      ((within p functions base n).nested strict name arg set) := by
  unfold Scope.evalNested nested
  match arg with
  | .path steps =>
      rw [Node.depth] at h
      obtain ⟨n, rfl⟩ : ∃ m, n = m + 1 := ⟨n - 1, by omega⟩
      exact evalSteps enough steps n (by omega) set
  | .literal _ | .current | .root | .call _ _ | .comparison _ _ _ | .condition _ _ _ | .not _
  | .property _ | .index _ | .slice _ | .wildcard | .multiKey _ | .omission _ => exact .refl _

theorem test (enough : Enough p functions base level strict k) (node : Node) (n : Nat)
    (h : node.depth + k ≤ n) (set : ValueSet) :
    Outcome.Below (· = .circular) ((scopeAt p functions base level strict).test node set)
      ((within p functions base n).test strict node set) := by
  -- the call itself takes one
  obtain ⟨n, rfl⟩ : ∃ m, n = m + 1 := ⟨n - 1, by have := node.depth_pos; omega⟩
  unfold Scope.test
  match node with
  | .comparison op left right =>
      rw [Node.depth] at h
      exact (operand enough left n (by omega) set).bind fun _ =>
        (operand enough right n (by omega) set).bind fun _ => .refl _
  | .condition op left right =>
      rw [Node.depth] at h
      have behind := test enough right n (by omega) set
      refine (test enough left n (by omega) set).bind fun holds => ?_
      cases op with
      | and =>
          cases holds with
          | false => exact .refl _
          | true => exact behind
      | or =>
          cases holds with
          | false => exact behind
          | true => exact .refl _
  | .not inner =>
      rw [Node.depth] at h
      exact (test enough inner n (by omega) set).bind fun _ => .refl _
  | .literal _ | .current | .root | .call _ _ | .path _ | .property _ | .index _ | .slice _
  | .wildcard | .multiKey _ | .omission _ => exact .refl _

theorem operand (enough : Enough p functions base level strict k) (node : Node) (n : Nat)
    (h : node.depth + k ≤ n) (set : ValueSet) :
    Outcome.Below (· = .circular) ((scopeAt p functions base level strict).operand node set)
      ((within p functions base n).operand strict node set) := by
  obtain ⟨n, rfl⟩ : ∃ m, n = m + 1 := ⟨n - 1, by have := node.depth_pos; omega⟩
  unfold Scope.operand
  match node with
  | .path steps =>
      rw [Node.depth] at h
      obtain ⟨n, rfl⟩ : ∃ m, n = m + 1 := ⟨n - 1, by omega⟩
      exact (evalSteps enough steps n (by omega) set).bind fun _ => .refl _
  | .literal _ | .current | .root | .call _ _ | .comparison _ _ _ | .condition _ _ _ | .not _
  | .property _ | .index _ | .slice _ | .wildcard | .multiKey _ | .omission _ => exact .refl _

end

end Calls.Enough

/-! ### Enough nesting for a policy -/

section

variable {p : Policy} {functions : Registry} {base : Json} {level : Nat} {strict : Bool}

theorem Calls.Enough.of_path {k : Nat} (h : ∀ strict, ∀ q ∈ p.paths, ∀ n, k ≤ n →
      Outcome.Below (· = .circular) (enterPath p functions base level strict q.steps)
        ((Calls.within p functions base n).path strict q.steps (.single base))) :
    Calls.Enough p functions base level strict k :=
  fun n hn => .of_enter circular_fatal rfl rfl rfl rfl
    (fun ht => h strict _ (Policy.mem_paths_of_target? ht) n hn)
    fun infer _ hq => h true _ (Policy.mem_paths_of_infer (Scope.policy_of_infer infer).1 hq) n hn

/-- Each level takes one path of the policy. -/
theorem enterPath_within (strict : Bool) {q : Query} (hq : q ∈ p.paths) (n : Nat)
    (h : level * p.depth ≤ n) :
    Outcome.Below (· = .circular) (enterPath p functions base level strict q.steps)
      ((Calls.within p functions base n).path strict q.steps (.single base)) := by
  induction level generalizing strict q n with
  | zero => exact .inr ⟨.circular, rfl, rfl⟩
  | succ level ih =>
      have enough : Calls.Enough p functions base level strict (level * p.depth) :=
        .of_path fun strict _ hq => ih strict hq
      have depth := Policy.depth_of_mem_paths hq
      rw [Nat.succ_mul] at h
      obtain ⟨n, rfl⟩ : ∃ m, n = m + 1 := ⟨n - 1, by omega⟩
      exact enough.evalSteps q.steps n (by omega) (.single base)

theorem Calls.enough : Calls.Enough p functions base level strict (level * p.depth) :=
  .of_path fun strict _ hq => enterPath_within strict hq

end

/-- The nesting of a query is enough for every evaluation of it that ends. -/
theorem Engine.evalQuery_within (e : Engine) (q : Query) (document : Json) {n : Nat}
    (h : e.policy.nesting q ≤ n) :
    Outcome.Below (· = .circular) (e.evalQuery q document) (e.evalQueryWithin n q document) := by
  rw [Policy.nesting, Node.depth] at h
  obtain ⟨n, rfl⟩ : ∃ m, n = m + 1 := ⟨n - 1, by omega⟩
  have deep := Node.depthOfSteps_le.1 (Nat.le_refl (Node.depthOfSteps (e.policy.expand q).steps))
  have enough : Calls.Enough e.policy e.functions document e.policy.levels e.strict
      (e.policy.levels * e.policy.depth) := Calls.enough
  unfold evalQuery evalQueryWithin
  cases hs : splitCondition (e.policy.expand q).steps with
  | mk path condition =>
      obtain ⟨inPath, inCondition⟩ := mem_of_splitCondition hs
      have pathDepth : Node.depthOfSteps path ≤ Node.depthOfSteps (e.policy.expand q).steps :=
        Node.depthOfSteps_le.2 fun step hm => deep step (inPath step hm)
      refine (enough.evalSteps path n (by omega) (.single document)).bind fun set => ?_
      cases condition with
      | none => exact .refl _
      | some c =>
          obtain ⟨step, hm, rfl⟩ := inCondition c rfl
          have conditionDepth := deep step hm
          exact (enough.test step.node (n + 1) (by omega) set).bind fun _ => .refl _

end PathQuery
