import PathQuery.Evaluation.Evaluator
import PathQuery.Proofs.Query.Expansion
import PathQuery.Proofs.Config.Compiled

/-!
What the replacement of aliases gives, as a relation between trees. A path goes on from its last
alias: the steps of the target take the position of the alias and are not looked into again, the
steps behind it are replaced one by one, and what stands before it is gone. The relation has one
tree for each tree, the one that `Policy.expand` computes.
-/

namespace PathQuery

/-! ### The relation -/

mutual

/-- The second tree is the first with the aliases in its paths replaced, at every depth. -/
inductive Spliced (p : Policy) : Node → Node → Prop
  | leaf {n : Node} : n.isLeaf → Spliced p n n
  | path {steps steps' : List Step} :
      SplicedPath p steps steps' → Spliced p (.path steps) (.path steps')
  | call {name : String} {args args' : List Node} :
      SplicedAll p args args' → Spliced p (.call name args) (.call name args')
  | comparison {op : Comparator} {left left' right right' : Node} :
      Spliced p left left' → Spliced p right right' →
        Spliced p (.comparison op left right) (.comparison op left' right')
  | condition {op : Connective} {left left' right right' : Node} :
      Spliced p left left' → Spliced p right right' →
        Spliced p (.condition op left right) (.condition op left' right')
  | not {inner inner' : Node} : Spliced p inner inner' → Spliced p (.not inner) (.not inner')

inductive SplicedAll (p : Policy) : List Node → List Node → Prop
  | nil : SplicedAll p [] []
  | cons {n n' : Node} {rest rest' : List Node} :
      Spliced p n n' → SplicedAll p rest rest' → SplicedAll p (n :: rest) (n' :: rest')

/-- A path without aliases keeps its steps, any other goes on from the last of them. -/
inductive SplicedPath (p : Policy) : List Step → List Step → Prop
  | noAlias {steps steps' : List Step} :
      (∀ s ∈ steps, p.stepTarget? s.node = none) → SplicedSteps p steps steps' →
        SplicedPath p steps steps'
  | lastAlias {before after after' : List Step} {name : String} {position : Nat}
      {target : Query} :
      p.target? name = some target → (∀ s ∈ after, p.stepTarget? s.node = none) →
        SplicedSteps p after after' →
          SplicedPath p (before ++ ⟨.property name, position⟩ :: after)
            (target.stepsAt position ++ after')

/-- Step by step, each where it was. -/
inductive SplicedSteps (p : Policy) : List Step → List Step → Prop
  | nil : SplicedSteps p [] []
  | cons {n n' : Node} {position : Nat} {rest rest' : List Step} :
      Spliced p n n' → SplicedSteps p rest rest' →
        SplicedSteps p (⟨n, position⟩ :: rest) (⟨n', position⟩ :: rest')

end

/-- The trees differ in what stands before an alias in one path, at any depth. -/
inductive DiffersBeforeAlias (p : Policy) : Node → Node → Prop
  | here {before before' after : List Step} {s : Step} :
      (p.stepTarget? s.node).isSome →
        DiffersBeforeAlias p (.path (before ++ s :: after)) (.path (before' ++ s :: after))
  | inPath {front back : List Step} {n n' : Node} {position : Nat} :
      DiffersBeforeAlias p n n' →
        DiffersBeforeAlias p (.path (front ++ ⟨n, position⟩ :: back))
          (.path (front ++ ⟨n', position⟩ :: back))
  | inCall {name : String} {front back : List Node} {n n' : Node} :
      DiffersBeforeAlias p n n' →
        DiffersBeforeAlias p (.call name (front ++ n :: back)) (.call name (front ++ n' :: back))
  | leftOperand {op : Comparator} {left left' right : Node} :
      DiffersBeforeAlias p left left' →
        DiffersBeforeAlias p (.comparison op left right) (.comparison op left' right)
  | rightOperand {op : Comparator} {left right right' : Node} :
      DiffersBeforeAlias p right right' →
        DiffersBeforeAlias p (.comparison op left right) (.comparison op left right')
  | leftCondition {op : Connective} {left left' right : Node} :
      DiffersBeforeAlias p left left' →
        DiffersBeforeAlias p (.condition op left right) (.condition op left' right)
  | rightCondition {op : Connective} {left right right' : Node} :
      DiffersBeforeAlias p right right' →
        DiffersBeforeAlias p (.condition op left right) (.condition op left right')
  | negated {inner inner' : Node} :
      DiffersBeforeAlias p inner inner' → DiffersBeforeAlias p (.not inner) (.not inner')

/-- Each path inside the node begins at the root or at the current values. -/
inductive Node.Anchored : Node → Prop
  | leaf {n : Node} : n.isLeaf → Anchored n
  | path {anchor : Node} {position : Nat} {steps : List Step} :
      anchor = .root ∨ anchor = .current → (∀ s ∈ steps, Anchored s.node) →
        Anchored (.path (⟨anchor, position⟩ :: steps))
  | call {name : String} {args : List Node} :
      (∀ arg ∈ args, Anchored arg) → Anchored (.call name args)
  | comparison {op : Comparator} {left right : Node} :
      Anchored left → Anchored right → Anchored (.comparison op left right)
  | condition {op : Connective} {left right : Node} :
      Anchored left → Anchored right → Anchored (.condition op left right)
  | not {inner : Node} : Anchored inner → Anchored (.not inner)

/-- The query begins at the root, and each path inside it at the root or at the current values. -/
def Query.Anchored (q : Query) : Prop :=
  ∃ position steps, q.steps = ⟨.root, position⟩ :: steps ∧ ∀ s ∈ steps, s.node.Anchored

variable {p : Policy}

namespace Policy

/-- Only names stand for paths. -/
theorem eq_property_of_stepTarget? {n : Node} {target : Query}
    (h : p.stepTarget? n = some target) :
    ∃ name, n = .property name ∧ p.target? name = some target := by
  cases n with
  | property name => exact ⟨name, rfl, h⟩
  | _ => cases h

/-- A list of steps is expanded from the left to the right. -/
theorem expandSteps_expandSteps (before steps rest : List Step) :
    p.expandSteps before (steps ++ rest) = p.expandSteps (p.expandSteps before steps) rest := by
  induction steps generalizing before with
  | nil => rw [List.nil_append, expandSteps]
  | cons s steps ih =>
      rw [List.cons_append]
      cases hs : p.stepTarget? s.node with
      | none => rw [expandSteps_cons_plain _ hs, expandSteps_cons_plain _ hs, ih]
      | some target => rw [expandSteps_cons_alias _ hs, expandSteps_cons_alias _ hs, ih]

theorem expandSteps_append_alias {name : String} {target : Query}
    (known : p.target? name = some target) (before steps : List Step) (position : Nat)
    (rest : List Step) :
    p.expandSteps before (steps ++ ⟨.property name, position⟩ :: rest) =
      p.expandSteps (target.stepsAt position) rest := by
  rw [expandSteps_expandSteps]
  exact expandSteps_cons_alias rest known

end Policy

/-! ### The expansion is related to the tree -/

theorem splicedAll_map {nodes : List Node} {f : Node → Node} (h : ∀ n ∈ nodes, Spliced p n (f n)) :
    SplicedAll p nodes (nodes.map f) := by
  induction nodes with
  | nil => exact .nil
  | cons n rest ih => exact .cons (h n (by simp)) (ih fun m hm => h m (by simp [hm]))

theorem splicedSteps_expandStep {steps : List Step}
    (h : ∀ s ∈ steps, Spliced p s.node (p.expandNode s.node)) :
    SplicedSteps p steps (steps.map p.expandStep) := by
  induction steps with
  | nil => exact .nil
  | cons s rest ih => exact .cons (h s (by simp)) (ih fun r hr => h r (by simp [hr]))

theorem splicedPath_expandSteps {steps : List Step}
    (h : ∀ s ∈ steps, Spliced p s.node (p.expandNode s.node)) :
    SplicedPath p steps (p.expandSteps [] steps) := by
  rcases p.expandSteps_cases [] steps with plain | ⟨a, expanded⟩
  · rw [Policy.expandSteps_plain [] plain]
    exact .noAlias plain (splicedSteps_expandStep h)
  · rw [expanded]
    obtain ⟨before, ⟨node, position⟩, target, after, parts, named, plain⟩ := a
    obtain ⟨name, rfl, known⟩ := Policy.eq_property_of_stepTarget? named
    have behind : SplicedSteps p after (after.map p.expandStep) :=
      splicedSteps_expandStep fun s hs => h s (by simp [parts, hs])
    subst parts
    exact .lastAlias known plain behind

theorem expandNode_of_isLeaf {n : Node} (h : n.isLeaf) : p.expandNode n = n := by
  cases n with
  | path _ | call _ _ | comparison _ _ _ | condition _ _ _ | not _ => cases h
  | _ => rw [Policy.expandNode]

theorem spliced_expandNode (n : Node) : Spliced p n (p.expandNode n) := by
  induction n using Node.induction with
  | leaf n h =>
      rw [expandNode_of_isLeaf h]
      exact .leaf h
  | path steps ih =>
      rw [Policy.expandNode]
      exact .path (splicedPath_expandSteps ih)
  | call name args ih =>
      rw [Policy.expandNode, Policy.expandNodes_eq_map]
      exact .call (splicedAll_map ih)
  | comparison op left right hl hr =>
      rw [Policy.expandNode]
      exact .comparison hl hr
  | condition op left right hl hr =>
      rw [Policy.expandNode]
      exact .condition hl hr
  | not inner ih =>
      rw [Policy.expandNode]
      exact .not ih

/-! ### No other tree is related to it -/

theorem SplicedAll.eq_map {nodes nodes' : List Node} (h : SplicedAll p nodes nodes')
    (ih : ∀ n ∈ nodes, ∀ n', Spliced p n n' → n' = p.expandNode n) :
    nodes' = nodes.map p.expandNode := by
  induction nodes generalizing nodes' with
  | nil =>
      cases h
      rfl
  | cons n rest rest_ih =>
      cases h with
      | cons first others =>
          rw [List.map_cons, ← ih n (by simp) _ first,
            rest_ih others fun m hm => ih m (by simp [hm])]

theorem SplicedSteps.eq_map {steps steps' : List Step} (h : SplicedSteps p steps steps')
    (ih : ∀ s ∈ steps, ∀ n', Spliced p s.node n' → n' = p.expandNode s.node) :
    steps' = steps.map p.expandStep := by
  induction steps generalizing steps' with
  | nil =>
      cases h
      rfl
  | cons s rest rest_ih =>
      cases h with
      | cons first others =>
          rw [List.map_cons, Policy.expandStep, ← ih _ List.mem_cons_self _ first,
            rest_ih others fun r hr => ih r (List.mem_cons_of_mem _ hr)]

theorem SplicedPath.eq_expandSteps {steps steps' : List Step} (h : SplicedPath p steps steps')
    (ih : ∀ s ∈ steps, ∀ n', Spliced p s.node n' → n' = p.expandNode s.node) :
    steps' = p.expandSteps [] steps := by
  cases h with
  | noAlias plain steps =>
      rw [Policy.expandSteps_plain [] plain, steps.eq_map ih, List.nil_append]
  | lastAlias known plain behind =>
      rw [Policy.expandSteps_append_alias known, Policy.expandSteps_plain _ plain,
        behind.eq_map fun s hs => ih s (by simp [hs])]

theorem Spliced.eq_expandNode {n n' : Node} (h : Spliced p n n') : n' = p.expandNode n := by
  induction n using Node.induction generalizing n' with
  | leaf n hn =>
      rw [expandNode_of_isLeaf hn]
      cases h with
      | leaf _ => rfl
      | _ => cases hn
  | path steps ih =>
      cases h with
      | leaf inner => cases inner
      | path spliced =>
          rw [Policy.expandNode, spliced.eq_expandSteps fun s hs n' => ih s hs]
  | call name args ih =>
      cases h with
      | leaf inner => cases inner
      | call spliced =>
          rw [Policy.expandNode, Policy.expandNodes_eq_map, spliced.eq_map fun n hn n' => ih n hn]
  | comparison op left right ihl ihr =>
      cases h with
      | leaf inner => cases inner
      | comparison hl hr => rw [Policy.expandNode, ihl hl, ihr hr]
  | condition op left right ihl ihr =>
      cases h with
      | leaf inner => cases inner
      | condition hl hr => rw [Policy.expandNode, ihl hl, ihr hr]
  | not inner ih =>
      cases h with
      | leaf inner => cases inner
      | not spliced => rw [Policy.expandNode, ih spliced]

/-- The expansion is the one query that the query is related to. -/
theorem Policy.expand_eq_iff {q q' : Query} :
    p.expand q = q' ↔ SplicedPath p q.steps q'.steps := by
  constructor
  · rintro rfl
    exact splicedPath_expandSteps fun s _ => spliced_expandNode s.node
  · intro h
    exact congrArg Query.mk (h.eq_expandSteps fun _ _ _ => Spliced.eq_expandNode).symm

/-! ### What stands before an alias -/

theorem DiffersBeforeAlias.stepTarget? {n n' : Node} (h : DiffersBeforeAlias p n n') :
    p.stepTarget? n = none ∧ p.stepTarget? n' = none := by
  cases h <;> exact ⟨rfl, rfl⟩

theorem DiffersBeforeAlias.expandNode_eq {n n' : Node} (h : DiffersBeforeAlias p n n') :
    p.expandNode n = p.expandNode n' := by
  induction h with
  | @here before before' after s named =>
      obtain ⟨target, named⟩ := Option.isSome_iff_exists.1 named
      obtain ⟨n, position⟩ := s
      obtain ⟨name, rfl, known⟩ := Policy.eq_property_of_stepTarget? named
      rw [Policy.expandNode, Policy.expandNode, Policy.expandSteps_append_alias known,
        Policy.expandSteps_append_alias known]
  | @inPath front back n n' position differs ih =>
      obtain ⟨plain, plain'⟩ := differs.stepTarget?
      rw [Policy.expandNode, Policy.expandNode, Policy.expandSteps_expandSteps,
        Policy.expandSteps_expandSteps, Policy.expandSteps_cons_plain back plain,
        Policy.expandSteps_cons_plain back plain', Policy.expandStep, Policy.expandStep, ih]
  | inCall _ ih =>
      simp only [Policy.expandNode, Policy.expandNodes_eq_map, List.map_append, List.map_cons, ih]
  | leftOperand _ ih | rightOperand _ ih | leftCondition _ ih | rightCondition _ ih
  | negated _ ih => rw [Policy.expandNode, ih, Policy.expandNode]

/-! ### Where paths begin -/

/-- The steps of a target, wherever they are put. -/
theorem Query.Anchored.stepsAt {target : Query} (h : target.Anchored) (position : Nat) :
    ∃ steps, target.stepsAt position = ⟨.root, position⟩ :: steps ∧
      ∀ s ∈ steps, s.node.Anchored := by
  obtain ⟨rootPosition, steps, parts, anchored⟩ := h
  refine ⟨steps.map fun s => ⟨s.node, position⟩, ?_, ?_⟩
  · rw [Query.stepsAt, parts]
    rfl
  · intro s hs
    obtain ⟨r, hr, rfl⟩ := List.mem_map.1 hs
    exact anchored r hr

section

variable (targets : ∀ name target, p.target? name = some target → target.Anchored)

include targets

/-- A path keeps its anchor, or begins at the root of its last alias. -/
theorem anchored_expandSteps {anchor : Node} (ha : anchor = .root ∨ anchor = .current)
    (position : Nat) {steps : List Step}
    (expanded : ∀ s ∈ steps, (p.expandNode s.node).Anchored) :
    ∃ anchor' position' steps', p.expandSteps [] (⟨anchor, position⟩ :: steps) =
      ⟨anchor', position'⟩ :: steps' ∧ (anchor' = .root ∨ anchor' = anchor) ∧
        ∀ s ∈ steps', s.node.Anchored := by
  have one_by_one {after : List Step} (h : ∀ s ∈ after, s ∈ steps) :
      ∀ s ∈ after.map p.expandStep, s.node.Anchored := by
    intro s hs
    obtain ⟨r, hr, rfl⟩ := List.mem_map.1 hs
    exact expanded r (h r hr)
  have plainAnchor : p.stepTarget? anchor = none ∧ p.expandNode anchor = anchor := by
    rcases ha with rfl | rfl <;> exact ⟨rfl, by rw [Policy.expandNode]⟩
  rw [Policy.expandSteps_cons_plain steps plainAnchor.1, Policy.expandStep, plainAnchor.2]
  rcases p.expandSteps_cases ([] ++ [⟨anchor, position⟩]) steps with plain | ⟨a, he⟩
  · rw [Policy.expandSteps_plain _ plain]
    exact ⟨anchor, position, _, rfl, .inr rfl, one_by_one fun _ h => h⟩
  · obtain ⟨name, -, known⟩ := Policy.eq_property_of_stepTarget? a.named
    obtain ⟨path, spliced, anchored⟩ := (targets name _ known).stepsAt a.step.position
    rw [he, spliced]
    refine ⟨.root, _, path ++ a.after.map p.expandStep, rfl, .inl rfl, ?_⟩
    rw [List.forall_mem_append]
    exact ⟨anchored, one_by_one fun s hs => by simp [a.steps_eq, hs]⟩

theorem Node.Anchored.expand {n : Node} (h : n.Anchored) : (p.expandNode n).Anchored := by
  induction h with
  | @leaf n hn =>
      rw [expandNode_of_isLeaf hn]
      exact .leaf hn
  | @path anchor position steps ha _ expanded =>
      obtain ⟨anchor', position', steps', he, ha', anchored⟩ :=
        anchored_expandSteps targets ha position expanded
      rw [Policy.expandNode, he]
      refine .path ?_ anchored
      rcases ha' with rfl | rfl
      · exact .inl rfl
      · exact ha
  | @call name args _ expanded =>
      rw [Policy.expandNode, Policy.expandNodes_eq_map]
      refine .call fun arg hm => ?_
      obtain ⟨a, ha, rfl⟩ := List.mem_map.1 hm
      exact expanded a ha
  | comparison _ _ left right =>
      rw [Policy.expandNode]
      exact .comparison left right
  | condition _ _ left right =>
      rw [Policy.expandNode]
      exact .condition left right
  | not _ inner =>
      rw [Policy.expandNode]
      exact .not inner

theorem Query.Anchored.expand {q : Query} (h : q.Anchored) : (p.expand q).Anchored := by
  obtain ⟨position, steps, parts, anchored⟩ := h
  obtain ⟨anchor, position', steps', he, ha, expanded⟩ :=
    anchored_expandSteps targets (.inl rfl) position fun s hs => (anchored s hs).expand targets
  obtain rfl : anchor = .root := by
    rcases ha with rfl | rfl <;> rfl
  refine ⟨position', steps', ?_, expanded⟩
  rw [Policy.expand, parts, he]

end

variable {named : String → Prop}

theorem Node.Formed.anchored {role : Role} {n : Node} (h : n.Formed named role) : n.Anchored := by
  induction h with
  | property | index _ | slice _ | wildcard | multiKey _ | omission _ | literal _ | current =>
      exact .leaf rfl
  | call _ _ args => exact .call args
  | fromRoot _ steps => exact .path (.inl rfl) steps
  | fromCurrent _ _ steps => exact .path (.inr rfl) steps
  | comparison _ _ left right => exact .comparison left right
  | condition _ _ left right => exact .condition left right
  | not _ inner => exact .not inner
  | operandArgument _ arg | conditionArgument _ arg => exact arg

/-- Queries that are parsed are anchored. -/
theorem Query.Formed.anchored {q : Query} (h : q.Formed named) : q.Anchored := by
  cases h with
  | @mk rootPosition position path condition steps last =>
      refine ⟨rootPosition, _, rfl, ?_⟩
      rw [List.forall_mem_append]
      refine ⟨fun s hs => (steps s hs).anchored, fun s hs => ?_⟩
      obtain ⟨c, hc, rfl⟩ := List.mem_map.1 hs
      exact (last c (by simpa using hc)).anchored

/-- So are the targets of a validated policy. -/
theorem Policy.Formed.anchored (h : p.Formed named) {name : String} {target : Query}
    (ht : p.target? name = some target) : target.Anchored := by
  obtain ⟨position, path, parts, steps⟩ := h.target ht
  exact ⟨position, path, parts, fun s hs => (steps s hs).anchored⟩

/-! ### Whole queries -/

/-- The expansion of a query is the one that splices the target of the last alias into each path.
What stands before an alias, in the path of the query or in one inside it, has no influence on what
the query gives; a condition at the end stays there; nothing changes where there is no alias; and if
the targets begin at the root, as those of a validated policy do, then so does the query still, and
each path inside it at the root or at the current values. -/
theorem expand_splices (p : Policy) (q : Query) :
    (∀ q' : Query, p.expand q = q' ↔ SplicedPath p q.steps q'.steps) ∧
    (∀ q' : Query, DiffersBeforeAlias p (.path q.steps) (.path q'.steps) →
      ∀ functions strict document, (Engine.mk p functions strict).evalQuery q document =
        (Engine.mk p functions strict).evalQuery q' document) ∧
    (∀ path c position, q.steps = path ++ [⟨c, position⟩] → c.isCondition →
      ∃ c', c'.isCondition ∧ Spliced p c c' ∧
        (p.expand q).steps = (p.expand ⟨path⟩).steps ++ [⟨c', position⟩]) ∧
    ((∀ s ∈ q.allSteps, p.stepTarget? s.node = none) → p.expand q = q) ∧
    ((∀ name target, p.target? name = some target → target.Anchored) → q.Anchored →
      (p.expand q).Anchored) := by
  refine ⟨fun q' => Policy.expand_eq_iff, ?_, ?_, Policy.expand_of_noAlias,
    fun targets anchored => anchored.expand targets⟩
  · intro q' differs functions strict document
    have same : p.expand q = p.expand q' := by
      have nodes := differs.expandNode_eq
      rw [Policy.expandNode, Policy.expandNode, Node.path.injEq] at nodes
      exact congrArg Query.mk nodes
    unfold Engine.evalQuery
    rw [show (Engine.mk p functions strict).policy.expand q = p.expand q' from same]
  · intro path c position parts hc
    refine ⟨p.expandNode c, (p.isCondition_expandNode c).trans hc, spliced_expandNode c, ?_⟩
    rw [Policy.expand, parts]
    refine p.expandSteps_append_plain [] path fun s hs => ?_
    obtain rfl := List.mem_singleton.1 hs
    exact p.stepTarget?_of_isCondition hc

set_option maxRecDepth 1000 in
/-- Two aliases in the path, one in an argument and one in the condition. -/
theorem expand_splices_two_aliases :
    ∃ q p, Query.parse "a.u.b.v.map(.x.u) == $.v[0]" = .ok q ∧
      Config.validate ⟨[⟨"u", "$.y.z"⟩, ⟨"v", "$.w"⟩], .standard, .standard⟩ = .ok p ∧
      p.expand q = ⟨[⟨.root, 6⟩, ⟨.property "w", 6⟩,
        ⟨.call "map" [.path [⟨.root, 15⟩, ⟨.property "y", 15⟩, ⟨.property "z", 15⟩]], 8⟩,
        ⟨.comparison .eq .current
          (.path [⟨.root, 23⟩, ⟨.property "w", 23⟩, ⟨.index 0, 24⟩]), 18⟩]⟩ ∧
      SplicedPath p q.steps (p.expand q).steps ∧ (p.expand q).Anchored := by
  have tokens : tokenize "a.u.b.v.map(.x.u) == $.v[0]" = .ok
      [⟨.property, "a", 0⟩, ⟨.dot, ".", 1⟩, ⟨.property, "u", 2⟩, ⟨.dot, ".", 3⟩,
        ⟨.property, "b", 4⟩, ⟨.dot, ".", 5⟩, ⟨.property, "v", 6⟩, ⟨.dot, ".", 7⟩,
        ⟨.property, "map", 8⟩, ⟨.openParen, "(", 11⟩, ⟨.dot, ".", 12⟩, ⟨.property, "x", 13⟩,
        ⟨.dot, ".", 14⟩, ⟨.property, "u", 15⟩, ⟨.closeParen, ")", 16⟩, ⟨.comparator .eq, "==", 18⟩,
        ⟨.root, "$", 21⟩, ⟨.dot, ".", 22⟩, ⟨.property, "v", 23⟩, ⟨.openBracket, "[", 24⟩,
        ⟨.number, "0", 25⟩, ⟨.closeBracket, "]", 26⟩, ⟨.finish, "", 27⟩] :=
    Scanner.tokenize_eq_within _
  have parsed : Query.parse "a.u.b.v.map(.x.u) == $.v[0]" = .ok
      ⟨[⟨.root, 0⟩, ⟨.property "a", 0⟩, ⟨.property "u", 2⟩, ⟨.property "b", 4⟩,
        ⟨.property "v", 6⟩,
        ⟨.call "map" [.path [⟨.current, 12⟩, ⟨.property "x", 13⟩, ⟨.property "u", 15⟩]], 8⟩,
        ⟨.comparison .eq .current
          (.path [⟨.root, 21⟩, ⟨.property "v", 23⟩, ⟨.index 0, 24⟩]), 18⟩]⟩ :=
    parse_of_tokenize tokens
  have validated : Config.validate ⟨[⟨"u", "$.y.z"⟩, ⟨"v", "$.w"⟩], .standard, .standard⟩ = .ok
      ⟨[⟨"u", ⟨[⟨.root, 0⟩, ⟨.property "y", 2⟩, ⟨.property "z", 4⟩]⟩⟩,
        ⟨"v", ⟨[⟨.root, 0⟩, ⟨.property "w", 2⟩]⟩⟩], .error, .standard⟩ := by
    have first : Query.parse "$.y.z" =
        .ok ⟨[⟨.root, 0⟩, ⟨.property "y", 2⟩, ⟨.property "z", 4⟩]⟩ := by cbv
    have second : Query.parse "$.w" = .ok ⟨[⟨.root, 0⟩, ⟨.property "w", 2⟩]⟩ := by cbv
    exact Config.validate_aliases (by decide) (by decide) (by decide)
      (.cons ⟨rfl, first, rfl⟩ (.cons ⟨rfl, second, rfl⟩ .nil)) .standard
  obtain ⟨spliced, -, -, -, anchored⟩ := expand_splices _ _
  refine ⟨_, _, parsed, validated, rfl, (spliced _).1 rfl, anchored ?_ ?_⟩
  · exact fun _ _ => (Config.formed_of_validate validated).anchored
  · exact (formed_of_parse parsed).anchored

end PathQuery
