import PathQuery.AliasExpansion
import PathQuery.Function.Registry
import PathQuery.Lookup.Element

/-!
Evaluation of queries. Steps, conditions and operands are walked by recursion on the query. Where
the policy brings in a path of its own, an alias in a key group or an alternate query, the walk
calls `enter`, which is the evaluation itself with one level less to go.

An alias that is entered again while it is being evaluated, in the same mode, would be entered for
ever: its path starts at the same base. So twice the number of aliases and the one change of mode
bound the levels of any evaluation that ends.
-/

namespace PathQuery

/-- What an evaluation runs in. A strict evaluation fails where a step does not resolve, whatever
the policy says. -/
structure Scope where
  policy : Policy
  functions : Registry
  base : Json
  strict : Bool
  enter : (strict : Bool) → List Step → Outcome ValueSet

/-- A step that did not resolve for a value. Only a step that names a member has a key. -/
structure Miss where
  step : Step
  key : Option String
  value : Json

namespace Miss

/-- The member asked for, or else the step. -/
def notFound (m : Miss) : QueryError :=
  .pathNotFound ((m.key.map Node.property).getD m.step.node) m.step.position

end Miss

namespace Scope

def fallback (s : Scope) : Fallback :=
  if s.strict then .error else s.policy.fallback

/-! ## Steps that do not resolve -/

def lastResort (m : Miss) : LastResort → Outcome (List Json)
  | .substitute value => .ok [value]
  | .fail => .fail m.notFound
  | .skip => .ok []

/-- The first of the other names that the value has, for a step that names a member. -/
def alternateMember? (s : Scope) (m : Miss) (keys : List String) : Option Json :=
  match m.key, m.value with
  | some _, .object members => keys.findSome? fun key => Lookup.member? s.policy.fuzzy members key
  | _, _ => none

/-- The values of the first alternate query that gives any. One that fails for want of a step is
passed over. -/
def alternateQuery? (s : Scope) : List Query → Outcome (Option (List Json))
  | [] => .ok none
  | q :: rest =>
    match s.enter true q.steps with
    | .ok set => if set.values.isEmpty then alternateQuery? s rest else .ok (some set.values)
    | .error (.error (.pathNotFound _ _)) => alternateQuery? s rest
    | .error other => .error other

/-- The values that take the place of a step that did not resolve. -/
def recover (s : Scope) (m : Miss) : Outcome (List Json) :=
  match s.fallback with
  | .plain last => lastResort m last
  | .infer keys queries last =>
    match s.alternateMember? m keys with
    | some value => .ok [value]
    | none => do
      match ← s.alternateQuery? queries with
      | some values => return values
      | none => lastResort m last

/-! ## Path steps -/

def member (s : Scope) (step : Step) (name : String) (value : Json) : Outcome (List Json) :=
  let found := match value with
    | .object members => Lookup.member? s.policy.fuzzy members name
    | _ => none
  match found with
  | some v => .ok [v]
  | none => s.recover ⟨step, some name, value⟩

/-- One key of a group: the path of the alias of that name, or else the member. -/
def groupMember (s : Scope) (step : Step) (value : Json) (name : String) : Outcome (List Json) :=
  match s.policy.target? name with
  | some target => do return (← s.enter s.strict target.steps).values
  | none => s.member step name value

/-- What a path step selects from one value. -/
def select (s : Scope) (step : Step) (value : Json) : Outcome (List Json) :=
  match step.node, value with
  | .property name, value => s.member step name value
  | .multiKey names, value => do return (← names.mapM (s.groupMember step value)).flatten
  | .index i, .array items =>
    match Lookup.index? items i with
    | some v => .ok [v]
    | none => s.recover ⟨step, none, value⟩
  | .slice bounds, .array items => .ok (Lookup.slice items bounds)
  | .wildcard, value => .ok (Lookup.children value)
  | .omission names, .object members => .ok [Lookup.without members names]
  | _, value => s.recover ⟨step, none, value⟩

/-- Steps that may select several values of one. -/
def fansOut : Node → Bool
  | .wildcard | .slice _ | .multiKey _ => true
  | _ => false

def applyStep (s : Scope) (step : Step) (set : ValueSet) : Outcome ValueSet := do
  let selected ← set.values.mapM (s.select step)
  return ⟨selected.flatten, set.definite && !fansOut step.node⟩

/-! ## Queries -/

mutual

def evalSteps (s : Scope) : List (Located Node) → ValueSet → Outcome ValueSet
  | [], set => .ok set
  | ⟨node, position⟩ :: rest, set => do
    evalSteps s rest (← evalStep s node position set)

/-- One step of a path. -/
def evalStep (s : Scope) (node : Node) (position : Nat) (set : ValueSet) : Outcome ValueSet :=
  match node with
  | .root => .ok (.single s.base)
  | .current => .ok set
  | .call name args => s.functions.invoke ⟨name, evalArguments s name args, set⟩
  | .comparison op left right => .mismatch (.notStep (.comparison op left right))
  | .condition op left right => .mismatch (.notStep (.condition op left right))
  | .not inner => .mismatch (.notStep (.not inner))
  | .literal value => .mismatch (.notStep (.literal value))
  | .path steps => .mismatch (.notStep (.path steps))
  | .property name => s.applyStep ⟨.property name, position⟩ set
  | .index i => s.applyStep ⟨.index i, position⟩ set
  | .slice bounds => s.applyStep ⟨.slice bounds, position⟩ set
  | .wildcard => s.applyStep ⟨.wildcard, position⟩ set
  | .multiKey names => s.applyStep ⟨.multiKey names, position⟩ set
  | .omission names => s.applyStep ⟨.omission names, position⟩ set

def evalArguments (s : Scope) (name : String) : List Node → List Argument
  | [] => []
  | arg :: rest =>
    let evaluate (current : ValueSet) : Outcome ValueSet :=
      if arg.isCondition then do return .single (.bool (← test s arg current))
      else evalNested s name arg current
    ⟨arg, evaluate, test s arg, operand s arg⟩ :: evalArguments s name rest

/-- An argument that is no condition, as a nested query on the current values. -/
def evalNested (s : Scope) (name : String) (arg : Node) (current : ValueSet) :
    Outcome ValueSet :=
  match arg with
  | .literal value => .ok (.single value)
  | .current => .ok current
  | .path steps => evalSteps s steps current
  | other => .mismatch (.notArgument name other)

/-- Whether a condition holds for the current values. -/
def test (s : Scope) (node : Node) (current : ValueSet) : Outcome Bool :=
  match node with
  | .comparison op left right => do
    compareOperands op (← operand s left current) (← operand s right current)
  | .condition op left right => do
    match op, ← test s left current with
    | .and, false => return false
    | .or, true => return true
    | _, _ => test s right current
  | .not inner => do return !(← test s inner current)
  | other => .mismatch (.notCondition other)

/-- The scalar that an operand resolves to, if it resolves to anything. -/
def operand (s : Scope) (node : Node) (current : ValueSet) : Outcome (Option Json) :=
  match node with
  | .literal value => .ok (some value)
  | .current => scalarOf node current
  | .path steps => do scalarOf node (← evalSteps s steps current)
  | other => .mismatch (.notOperand other)

end

end Scope

/-! ## Levels -/

/-- Evaluates a path from the base, entering paths of the policy at most `level` deep. -/
def enterPath (policy : Policy) (functions : Registry) (base : Json) :
    (level : Nat) → (strict : Bool) → List Step → Outcome ValueSet
  | 0, _, _ => .error .circular
  | level + 1, strict, steps =>
    Scope.evalSteps ⟨policy, functions, base, strict, enterPath policy functions base level⟩ steps
      (.single base)

/-- Levels that suffice for every evaluation that ends. -/
def Policy.levels (p : Policy) : Nat :=
  2 * p.aliases.length + 2

/-- A policy with the functions that can be called. -/
structure Engine where
  policy : Policy
  functions : Registry
  strict : Bool

namespace Engine

def ofPolicy (policy : Policy) : Engine :=
  ⟨policy, .standard, false⟩

def scope (e : Engine) (base : Json) : Scope :=
  ⟨e.policy, e.functions, base, e.strict, enterPath e.policy e.functions base e.policy.levels⟩

/-- Evaluates a path; without current values it starts from the base. -/
def evalPath (e : Engine) (steps : List Step) (base : Json) (current : Option ValueSet) :
    Outcome ValueSet :=
  (e.scope base).evalSteps steps (current.getD (.single base))

def test (e : Engine) (node : Node) (base : Json) (current : ValueSet) : Outcome Bool :=
  (e.scope base).test node current

def operand (e : Engine) (node : Node) (base : Json) (current : ValueSet) :
    Outcome (Option Json) :=
  (e.scope base).operand node current

def invoke (e : Engine) (name : String) (args : List Node) (base : Json) (input : ValueSet) :
    Outcome ValueSet :=
  e.functions.invoke ⟨name, (e.scope base).evalArguments name args, input⟩

/-- The path of a query, and the condition that ends it. -/
def splitCondition (steps : List Step) : List Step × Option Node :=
  match steps.getLast? with
  | some last => if last.node.isCondition then (steps.dropLast, some last.node) else (steps, none)
  | none => (steps, none)

/-- Evaluates a query on a document, its aliases being replaced first. -/
def evalQuery (e : Engine) (q : Query) (document : Json) : Outcome Output := do
  let (path, condition) := splitCondition (e.policy.expand q).steps
  let set ← e.evalPath path document none
  match condition with
  | some node => return .bool (← e.test node document set)
  | none => return .ofValueSet set

end Engine

end PathQuery
