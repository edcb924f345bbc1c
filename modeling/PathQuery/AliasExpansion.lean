import PathQuery.Policy

/-!
Replacing aliases by the paths they stand for. Targets begin at the root, so the steps before an
alias are dropped, and the steps behind it go on from the target. Steps of a target take the
position of the alias.
-/

namespace PathQuery.Policy

/-- The target of the alias that a step names. -/
def stepTarget? (p : Policy) : Node → Option Query
  | .property name => p.target? name
  | _ => none

mutual

def expandNode (p : Policy) : Node → Node
  | .path steps => .path (expandSteps p [] steps)
  | .call name args => .call name (expandNodes p args)
  | .comparison op left right => .comparison op (expandNode p left) (expandNode p right)
  | .condition op left right => .condition op (expandNode p left) (expandNode p right)
  | .not inner => .not (expandNode p inner)
  | .root => .root
  | .current => .current
  | .property name => .property name
  | .index i => .index i
  | .slice s => .slice s
  | .wildcard => .wildcard
  | .multiKey keys => .multiKey keys
  | .omission keys => .omission keys
  | .literal value => .literal value

def expandNodes (p : Policy) : List Node → List Node
  | [] => []
  | node :: rest => expandNode p node :: expandNodes p rest

/-- Steps already expanded are in `before`. -/
def expandSteps (p : Policy) (before : List Step) : List (Located Node) → List Step
  | [] => before
  | ⟨node, position⟩ :: rest =>
    match p.stepTarget? node with
    | some target =>
      expandSteps p (target.steps.map fun s => ⟨s.node, position⟩) rest
    | none => expandSteps p (before ++ [⟨expandNode p node, position⟩]) rest

end

def expand (p : Policy) (q : Query) : Query :=
  ⟨expandSteps p [] q.steps⟩

end PathQuery.Policy
