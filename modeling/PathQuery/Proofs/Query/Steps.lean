import PathQuery.Query.Node

/-!
The steps of a query at every depth: those of its path, and those in the arguments of calls and on
both sides of comparisons.
-/

namespace PathQuery

/-- Nodes that hold no other nodes. -/
def Node.isLeaf : Node → Bool
  | .path _ | .call _ _ | .comparison .. | .condition .. | .not _ => false
  | _ => true

/-- Induction on trees: what holds of a node if it holds of the nodes in it holds of all. -/
@[elab_as_elim]
theorem Node.induction {motive : Node → Prop} (leaf : ∀ n, n.isLeaf → motive n)
    (path : ∀ steps : List Step, (∀ s ∈ steps, motive s.node) → motive (.path steps))
    (call : ∀ name args, (∀ arg ∈ args, motive arg) → motive (.call name args))
    (comparison : ∀ op left right, motive left → motive right →
      motive (.comparison op left right))
    (condition : ∀ op left right, motive left → motive right → motive (.condition op left right))
    (not : ∀ inner, motive inner → motive (.not inner)) (n : Node) : motive n := by
  refine @Node.rec motive (fun args => ∀ arg ∈ args, motive arg)
    (fun steps => ∀ s ∈ steps, motive s.node) (fun s => motive s.node) ?root ?current ?property
    ?index ?slice ?wildcard ?multiKey ?omission call comparison condition not ?literal path
    ?noArgs ?moreArgs ?noSteps ?moreSteps ?step n
  case noArgs | noSteps => exact nofun
  case moreArgs | moreSteps =>
    intro first rest here others
    exact List.forall_mem_cons.2 ⟨here, others⟩
  case step => exact fun _ _ here => here
  all_goals
    intros
    exact leaf _ rfl

mutual

/-- The steps inside a node, at any depth. -/
def Node.innerSteps : Node → List Step
  | .call _ args => Node.innerStepsOfAll args
  | .comparison _ left right | .condition _ left right => left.innerSteps ++ right.innerSteps
  | .not inner => inner.innerSteps
  | .path steps => Node.withInnerSteps steps
  | .root | .current | .property _ | .index _ | .slice _ | .wildcard | .multiKey _ | .omission _
  | .literal _ => []

def Node.innerStepsOfAll : List Node → List Step
  | [] => []
  | n :: rest => n.innerSteps ++ Node.innerStepsOfAll rest

def Node.withInnerSteps : List Step → List Step
  | [] => []
  | ⟨n, position⟩ :: rest => ⟨n, position⟩ :: (n.innerSteps ++ Node.withInnerSteps rest)

end

@[simp] theorem Node.innerStepsOfAll_eq_flatMap (ns : List Node) :
    Node.innerStepsOfAll ns = ns.flatMap Node.innerSteps := by
  induction ns with
  | nil => rfl
  | cons n rest ih => rw [Node.innerStepsOfAll, List.flatMap_cons, ih]

@[simp] theorem Node.withInnerSteps_eq_flatMap (steps : List Step) :
    Node.withInnerSteps steps = steps.flatMap fun s => s :: s.node.innerSteps := by
  induction steps with
  | nil => rfl
  | cons s rest ih =>
      rw [Node.withInnerSteps, List.flatMap_cons, ih]
      rfl

theorem Node.mem_withInnerSteps {steps : List Step} {s : Step} (h : s ∈ steps) :
    s ∈ Node.withInnerSteps steps := by
  rw [withInnerSteps_eq_flatMap]
  exact List.mem_flatMap_of_mem h List.mem_cons_self

theorem Node.mem_withInnerSteps_of_inner {steps : List Step} {s t : Step} (h : s ∈ steps)
    (ht : t ∈ s.node.innerSteps) : t ∈ Node.withInnerSteps steps := by
  rw [withInnerSteps_eq_flatMap]
  exact List.mem_flatMap_of_mem h (List.mem_cons_of_mem _ ht)

/-- The names in the key group that a node is. -/
def Node.groupNames : Node → List String
  | .multiKey names => names
  | _ => []

/-- The steps of a query, at any depth. -/
def Query.allSteps (q : Query) : List Step :=
  Node.withInnerSteps q.steps

variable {Q : Node → Prop}

/-- What holds of all steps of a path holds of each step and inside it. -/
theorem Node.forall_withInnerSteps {steps : List Step} :
    (∀ s ∈ Node.withInnerSteps steps, Q s.node) ↔
      ∀ r ∈ steps, Q r.node ∧ ∀ s ∈ r.node.innerSteps, Q s.node := by
  rw [withInnerSteps_eq_flatMap]
  simp only [List.forall_mem_flatMap, List.forall_mem_cons]

end PathQuery
