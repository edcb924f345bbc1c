import PathQuery.AliasExpansion
import PathQuery.Proofs.Query.Formed
import PathQuery.Proofs.Query.Steps

/-!
Expansion of aliases. A list of steps goes on from the target of its last alias, or keeps all of its
steps when it has none. The trees that come out are formed like those that went in, provided that
the targets of the policy are paths from the root.
-/

namespace PathQuery

/-- The steps of a target, all at the position of the alias that stands for it. -/
def Query.stepsAt (target : Query) (position : Nat) : List Step :=
  target.steps.map fun s => ⟨s.node, position⟩

namespace Policy

variable {p : Policy}

def expandStep (p : Policy) (s : Step) : Step :=
  ⟨p.expandNode s.node, s.position⟩

theorem target?_of_stepTarget? {n : Node} {target : Query} (h : p.stepTarget? n = some target) :
    ∃ name, p.target? name = some target := by
  cases n with
  | property name => exact ⟨name, h⟩
  | _ => cases h

@[simp] theorem expandNodes_eq_map (p : Policy) (nodes : List Node) :
    p.expandNodes nodes = nodes.map p.expandNode := by
  induction nodes with
  | nil => rfl
  | cons n rest ih => rw [expandNodes, List.map_cons, ih]

theorem isCondition_expandNode (p : Policy) (n : Node) :
    (p.expandNode n).isCondition = n.isCondition := by
  cases n <;> rfl

theorem expandSteps_cons_alias {before : List Step} {s : Step} {target : Query} (rest : List Step)
    (h : p.stepTarget? s.node = some target) :
    p.expandSteps before (s :: rest) = p.expandSteps (target.stepsAt s.position) rest := by
  obtain ⟨node, position⟩ := s
  rw [expandSteps, h]
  rfl

theorem expandSteps_cons_plain {before : List Step} {s : Step} (rest : List Step)
    (h : p.stepTarget? s.node = none) :
    p.expandSteps before (s :: rest) = p.expandSteps (before ++ [p.expandStep s]) rest := by
  obtain ⟨node, position⟩ := s
  rw [expandSteps, h]
  rfl

/-- Steps behind the last alias are expanded one by one. -/
theorem expandSteps_plain (before : List Step) {steps : List Step}
    (h : ∀ s ∈ steps, p.stepTarget? s.node = none) :
    p.expandSteps before steps = before ++ steps.map p.expandStep := by
  induction steps generalizing before with
  | nil => simp [expandSteps]
  | cons s rest ih =>
      rw [expandSteps_cons_plain rest (h s (by simp)), ih _ fun r hr => h r (by simp [hr])]
      simp

/-- The last alias of a list: all that stands before it is dropped. -/
structure LastAlias (p : Policy) (steps : List Step) where
  before : List Step
  step : Step
  target : Query
  after : List Step
  steps_eq : steps = before ++ step :: after
  named : p.stepTarget? step.node = some target
  plain : ∀ s ∈ after, p.stepTarget? s.node = none

/-- The induction carries along what has been expanded so far, which the next alias drops. -/
theorem expandSteps_cases (p : Policy) (before steps : List Step) :
    (∀ s ∈ steps, p.stepTarget? s.node = none) ∨
      ∃ a : LastAlias p steps, p.expandSteps before steps =
        a.target.stepsAt a.step.position ++ a.after.map p.expandStep := by
  induction steps generalizing before with
  | nil => exact .inl (by simp)
  | cons s rest ih =>
      cases hs : p.stepTarget? s.node with
      | none =>
          rw [expandSteps_cons_plain rest hs]
          rcases ih (before ++ [p.expandStep s]) with plain | ⟨a, ha⟩
          · exact .inl (by simpa [hs] using plain)
          · refine .inr ⟨⟨s :: a.before, a.step, a.target, a.after, ?_, a.named, a.plain⟩, ha⟩
            rw [List.cons_append, ← a.steps_eq]
      | some target =>
          rw [expandSteps_cons_alias rest hs]
          rcases ih (target.stepsAt s.position) with plain | ⟨a, ha⟩
          · exact .inr ⟨⟨[], s, target, rest, rfl, hs, plain⟩, expandSteps_plain _ plain⟩
          · refine .inr ⟨⟨s :: a.before, a.step, a.target, a.after, ?_, a.named, a.plain⟩, ha⟩
            rw [List.cons_append, ← a.steps_eq]

/-! ### What holds of all steps -/

/-- What holds of nodes holds of them when they are expanded, and of the steps of all targets. -/
structure Keeps (p : Policy) (Q : Node → Prop) : Prop where
  expand : ∀ n, Q n → Q (p.expandNode n)
  target : ∀ {name target}, p.target? name = some target → ∀ s ∈ target.allSteps, Q s.node

namespace Keeps

variable {Q : Node → Prop}

mutual

theorem node (k : p.Keeps Q) (n : Node) (h : ∀ s ∈ n.innerSteps, Q s.node) :
    ∀ s ∈ (p.expandNode n).innerSteps, Q s.node := by
  match n with
  | .path steps =>
      rw [expandNode, Node.innerSteps]
      exact k.steps [] (by simp) steps h
  | .call name args =>
      rw [expandNode, Node.innerSteps]
      exact k.nodes args h
  | .comparison op left right | .condition op left right =>
      rw [Node.innerSteps, List.forall_mem_append] at h
      rw [expandNode, Node.innerSteps, List.forall_mem_append]
      exact ⟨k.node left h.1, k.node right h.2⟩
  | .not inner =>
      rw [expandNode, Node.innerSteps]
      exact k.node inner h
  | .root | .current | .property _ | .index _ | .slice _ | .wildcard | .multiKey _ | .omission _
  | .literal _ => exact h

theorem nodes (k : p.Keeps Q) (ns : List Node) (h : ∀ s ∈ Node.innerStepsOfAll ns, Q s.node) :
    ∀ s ∈ Node.innerStepsOfAll (p.expandNodes ns), Q s.node := by
  match ns with
  | [] => exact h
  | n :: rest =>
      rw [Node.innerStepsOfAll, List.forall_mem_append] at h
      rw [expandNodes, Node.innerStepsOfAll, List.forall_mem_append]
      exact ⟨k.node n h.1, k.nodes rest h.2⟩

theorem steps (k : p.Keeps Q) (before : List Step)
    (hb : ∀ s ∈ Node.withInnerSteps before, Q s.node) (steps : List (Located Node))
    (h : ∀ s ∈ Node.withInnerSteps steps, Q s.node) :
    ∀ s ∈ Node.withInnerSteps (p.expandSteps before steps), Q s.node := by
  match steps with
  | [] => exact hb
  | ⟨n, position⟩ :: rest =>
      rw [Node.withInnerSteps, List.forall_mem_cons, List.forall_mem_append] at h
      obtain ⟨here, inside, behind⟩ := h
      cases ht : p.stepTarget? n with
      | some target =>
          obtain ⟨name, named⟩ := target?_of_stepTarget? ht
          rw [expandSteps_cons_alias rest ht]
          refine k.steps _ (Node.forall_withInnerSteps.2 fun r hr => ?_) rest behind
          obtain ⟨t, hm, rfl⟩ := List.mem_map.1 hr
          exact Node.forall_withInnerSteps.1 (k.target named) t hm
      | none =>
          rw [expandSteps_cons_plain rest ht]
          refine k.steps _ (Node.forall_withInnerSteps.2 fun r hr => ?_) rest behind
          rcases List.mem_append.1 hr with hr | hr
          · exact Node.forall_withInnerSteps.1 hb r hr
          · obtain rfl := List.mem_singleton.1 hr
            exact ⟨k.expand n here, k.node n inside⟩

end

end Keeps

/-! ### No aliases -/

mutual

theorem expandNode_of_noAlias (n : Node)
    (h : ∀ s ∈ n.innerSteps, p.stepTarget? s.node = none) : p.expandNode n = n := by
  match n with
  | .path steps => rw [expandNode, expandSteps_of_noAlias [] steps h, List.nil_append]
  | .call name args => rw [expandNode, expandNodes_of_noAlias args h]
  | .comparison op left right | .condition op left right =>
      rw [Node.innerSteps, List.forall_mem_append] at h
      rw [expandNode, expandNode_of_noAlias left h.1, expandNode_of_noAlias right h.2]
  | .not inner => rw [expandNode, expandNode_of_noAlias inner h]
  | .root | .current | .property _ | .index _ | .slice _ | .wildcard | .multiKey _ | .omission _
  | .literal _ => rw [expandNode]

theorem expandNodes_of_noAlias (nodes : List Node)
    (h : ∀ s ∈ Node.innerStepsOfAll nodes, p.stepTarget? s.node = none) :
    p.expandNodes nodes = nodes := by
  match nodes with
  | [] => rfl
  | n :: rest =>
      rw [Node.innerStepsOfAll, List.forall_mem_append] at h
      rw [expandNodes, expandNode_of_noAlias n h.1, expandNodes_of_noAlias rest h.2]

theorem expandSteps_of_noAlias (before : List Step) (steps : List (Located Node))
    (h : ∀ s ∈ Node.withInnerSteps steps, p.stepTarget? s.node = none) :
    p.expandSteps before steps = before ++ steps := by
  match steps with
  | [] => rw [expandSteps, List.append_nil]
  | ⟨n, position⟩ :: rest =>
      rw [Node.withInnerSteps, List.forall_mem_cons, List.forall_mem_append] at h
      obtain ⟨here, inside, behind⟩ := h
      rw [expandSteps_cons_plain rest here, expandStep, expandNode_of_noAlias n inside,
        expandSteps_of_noAlias _ rest behind, List.append_assoc]
      rfl

end

/-- A query none of whose steps is an alias stays as it is. -/
theorem expand_of_noAlias {q : Query} (h : ∀ s ∈ q.allSteps, p.stepTarget? s.node = none) :
    p.expand q = q := by
  rw [expand, expandSteps_of_noAlias [] q.steps h, List.nil_append]

theorem stepTarget?_standard (n : Node) : Policy.standard.stepTarget? n = none := by
  cases n <;> rfl

theorem expandSteps_standard (before steps : List Step) :
    Policy.standard.expandSteps before steps = before ++ steps :=
  expandSteps_of_noAlias before steps fun s _ => stepTarget?_standard s.node

/-! ### Formed trees -/

end Policy

variable {named : String → Prop} {p : Policy}

/-- A query without a condition. -/
def Query.IsPath (named : String → Prop) (q : Query) : Prop :=
  ∃ position path, q.steps = ⟨.root, position⟩ :: path ∧
    ∀ s ∈ path, s.node.Formed named .step

theorem Query.Formed.isPath {q : Query} (h : q.Formed named) (hp : q.isPredicate = false) :
    q.IsPath named := by
  cases h with
  | @mk rootPosition position path condition hs hc =>
      cases condition with
      | none => exact ⟨rootPosition, path, by simp, hs⟩
      | some c =>
          rw [Query.isPredicate, condition?_formed _ _ hs hc] at hp
          cases hp

/-- Aliases stand for paths, and alternate queries are paths. -/
structure Policy.Formed (named : String → Prop) (p : Policy) : Prop where
  target {name : String} {target : Query} (h : p.target? name = some target) : target.IsPath named
  alternate {keys : List String} {queries : List Query} {last : LastResort} {q : Query}
    (h : p.fallback = .infer keys queries last) (hq : q ∈ queries) : q.IsPath named

namespace Policy.Formed

theorem stepTarget (hp : p.Formed named) {n : Node} {target : Query}
    (h : p.stepTarget? n = some target) : target.IsPath named := by
  obtain ⟨_, ht⟩ := target?_of_stepTarget? h
  exact hp.target ht

/-- What goes from an anchor through steps still goes from an anchor through steps, and from the
root if an alias was replaced. -/
theorem expandSteps (hp : p.Formed named) (anchor : Node) (ha : p.stepTarget? anchor = none)
    (position : Nat) {steps : List Step}
    (expanded : ∀ s ∈ steps, (p.expandNode s.node).Formed named .step) :
    ∃ anchor' position' steps', p.expandSteps [] (⟨anchor, position⟩ :: steps) =
        ⟨anchor', position'⟩ :: steps' ∧ (∀ s ∈ steps', s.node.Formed named .step) ∧
          (anchor' = .root ∨ anchor' = p.expandNode anchor ∧ steps'.length = steps.length) := by
  rw [expandSteps_cons_plain steps ha]
  rcases expandSteps_cases p ([] ++ [p.expandStep ⟨anchor, position⟩]) steps with plain | ⟨a, he⟩
  · refine ⟨p.expandNode anchor, position, steps.map p.expandStep, ?_, ?_, .inr ⟨rfl, by simp⟩⟩
    · rw [expandSteps_plain _ plain]
      rfl
    · intro s hs'
      obtain ⟨r, hr, rfl⟩ := List.mem_map.1 hs'
      exact expanded r hr
  · -- the last alias brings the root of its target
    obtain ⟨rootPosition, path, ht, hpath⟩ := hp.stepTarget a.named
    refine ⟨.root, a.step.position,
      (path.map fun s => ⟨s.node, a.step.position⟩) ++ a.after.map p.expandStep, ?_, ?_, .inl rfl⟩
    · rw [he, Query.stepsAt, ht]
      rfl
    · intro s hs'
      rcases List.mem_append.1 hs' with hs' | hs'
      · obtain ⟨r, hr, rfl⟩ := List.mem_map.1 hs'
        exact hpath r hr
      · obtain ⟨r, hr, rfl⟩ := List.mem_map.1 hs'
        exact expanded r (by simp [a.steps_eq, hr])

end Policy.Formed

/-- Expansion keeps every node in its role. -/
theorem Node.Formed.expand (hp : p.Formed named) {role : Role} {n : Node}
    (h : n.Formed named role) : (p.expandNode n).Formed named role := by
  induction h with
  | property => exact .property
  | index hi => exact .index hi
  | slice hs => exact .slice hs
  | wildcard => exact .wildcard
  | multiKey hk => exact .multiKey hk
  | omission hk => exact .omission hk
  | call hn _ args =>
      rw [Policy.expandNode, Policy.expandNodes_eq_map]
      refine .call hn fun arg ha => ?_
      obtain ⟨a, hm, rfl⟩ := List.mem_map.1 ha
      exact args a hm
  | literal hv => exact .literal hv
  | current => exact .current
  | @fromRoot position steps _ expanded =>
      obtain ⟨anchor, position', steps', he, formed, ha | ⟨ha, -⟩⟩ :=
        hp.expandSteps .root rfl position expanded
      all_goals
        rw [Policy.expandNode, he, ha]
        exact .fromRoot formed
  | @fromCurrent position steps some _ expanded =>
      obtain ⟨anchor, position', steps', he, formed, ha | ⟨ha, hl⟩⟩ :=
        hp.expandSteps .current rfl position expanded
      · rw [Policy.expandNode, he, ha]
        exact .fromRoot formed
      · rw [Policy.expandNode, he, ha]
        refine .fromCurrent ?_ formed
        rw [← List.length_pos_iff] at some ⊢
        omega
  | comparison _ _ left right => exact .comparison left right
  | condition _ _ left right => exact .condition left right
  | not _ inner => exact .not inner
  | operandArgument _ operand => exact .operandArgument operand
  | conditionArgument _ condition => exact .conditionArgument condition

/-- Conditions are no aliases. -/
theorem Policy.stepTarget?_of_isCondition (p : Policy) {c : Node} (hc : c.isCondition) :
    p.stepTarget? c = none := by
  cases c with
  | comparison | condition | not => rfl
  | _ => cases hc

/-- Steps that are no aliases stay behind those before them. -/
theorem Policy.expandSteps_append_plain (p : Policy) (before steps : List Step) {rest : List Step}
    (plain : ∀ s ∈ rest, p.stepTarget? s.node = none) :
    p.expandSteps before (steps ++ rest) =
      p.expandSteps before steps ++ rest.map p.expandStep := by
  induction steps generalizing before with
  | nil => exact expandSteps_plain before plain
  | cons s steps ih =>
      rw [List.cons_append]
      cases hs : p.stepTarget? s.node with
      | none => rw [expandSteps_cons_plain _ hs, expandSteps_cons_plain _ hs, ih]
      | some target => rw [expandSteps_cons_alias _ hs, expandSteps_cons_alias _ hs, ih]

/-- A condition stays behind the path. -/
theorem Policy.expandSteps_append (p : Policy) (before steps : List Step) {condition : Option Node}
    (hc : ∀ c ∈ condition, c.isCondition) (position : Nat) :
    p.expandSteps before (steps ++ condition.toList.map (⟨·, position⟩)) =
      p.expandSteps before steps ++ (condition.map p.expandNode).toList.map (⟨·, position⟩) := by
  cases condition with
  | none => exact p.expandSteps_append_plain before steps nofun
  | some c =>
      apply p.expandSteps_append_plain before steps
      exact List.forall_mem_singleton.2 (p.stepTarget?_of_isCondition (hc c rfl))

/-- A path from the root stays one. -/
theorem Policy.Formed.expandPath (hp : p.Formed named) (rootPosition : Nat) {path : List Step}
    (hs : ∀ s ∈ path, s.node.Formed named .step) :
    ∃ position path',
      p.expandSteps [] (⟨.root, rootPosition⟩ :: path) = ⟨.root, position⟩ :: path' ∧
        ∀ s ∈ path', s.node.Formed named .step := by
  obtain ⟨anchor, position, path', he, formed, ha⟩ :=
    hp.expandSteps .root rfl rootPosition fun s hm => (hs s hm).expand hp
  have root : anchor = .root := by
    rcases ha with ha | ⟨ha, -⟩
    · exact ha
    · exact ha
  subst root
  exact ⟨position, path', he, formed⟩

/-- An expanded query goes from the root through steps too, and ends with the same condition,
expanded. -/
theorem Query.Formed.expand (hp : p.Formed named) {q : Query} (h : q.Formed named) :
    (p.expand q).Formed named := by
  cases h with
  | @mk rootPosition position path condition hs hc =>
      obtain ⟨position', path', he, formed⟩ := hp.expandPath rootPosition hs
      have split := p.expandSteps_append [] (⟨.root, rootPosition⟩ :: path)
        (fun c hm => (hc c hm).isCondition.2 rfl) position
      rw [he] at split
      rw [Policy.expand, ← List.cons_append, split]
      refine .mk formed fun c' hc' => ?_
      obtain ⟨c, hm, rfl⟩ := Option.map_eq_some_iff.1 hc'
      exact (hc c hm).expand hp

end PathQuery
