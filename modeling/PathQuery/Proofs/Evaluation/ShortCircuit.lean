import PathQuery.Proofs.Evaluation.Equations
import PathQuery.Proofs.Query.Chains

/-!
A chain of comparisons is a disjunction of conjunctions, which is evaluated from left to right until
it is decided. The comparisons that are reached decide: those that are not may be any others, and
the chain fails when the first of those that are reached fails.
-/

namespace PathQuery

variable {α : Type}

/-! ### Members that are reached -/

/-- The members of a group up to the first that does not hold. -/
def reachedInGroup (holds : α → Outcome Bool) : List α → List α
  | [] => []
  | x :: rest =>
    x :: match holds x with
      | .ok true => reachedInGroup holds rest
      | _ => []

/-- The members that are reached in each group, up to the first group that all holds of. -/
def reached (holds : α → Outcome Bool) : List (List α) → List α
  | [] => []
  | group :: rest =>
    reachedInGroup holds group ++ match group.allM holds with
      | .ok false => reached holds rest
      | _ => []

/-- How an evaluation ends that has reached these members: by a decision if each of them is decided,
else by the failure of the last, all before it being decided. -/
inductive Traced (holds : α → Outcome Bool) : List α → Outcome Bool → Prop
  | decided {members : List α} (b : Bool) :
      (∀ x ∈ members, ∃ b, holds x = .ok b) → Traced holds members (.ok b)
  | failed {before : List α} {x : α} {halt : Halt} :
      (∀ y ∈ before, ∃ b, holds y = .ok b) → holds x = .error halt →
        Traced holds (before ++ [x]) (.error halt)

namespace Traced

variable {holds : α → Outcome Bool} {members front : List α} {result : Outcome Bool}

theorem append (h : Traced holds members result) (hf : ∀ x ∈ front, ∃ b, holds x = .ok b) :
    Traced holds (front ++ members) result := by
  cases h with
  | decided b hm => exact .decided b (List.forall_mem_append.2 ⟨hf, hm⟩)
  | failed hb hx =>
      rw [← List.append_assoc]
      exact .failed (List.forall_mem_append.2 ⟨hf, hb⟩) hx

theorem cons {x : α} {b : Bool} (hx : holds x = .ok b) (h : Traced holds members result) :
    Traced holds (x :: members) result := by
  have one : ∀ y ∈ [x], ∃ b, holds y = .ok b := by simp [hx]
  exact h.append one

theorem decided_of_ok {b : Bool} (h : Traced holds members (.ok b)) :
    ∀ x ∈ members, ∃ b, holds x = .ok b := by
  cases h with
  | decided _ hm => exact hm

theorem eq_error_iff {halt : Halt} (h : Traced holds members result) :
    result = .error halt ↔ ∃ before x, members = before ++ [x] ∧
      (∀ y ∈ before, ∃ b, holds y = .ok b) ∧ holds x = .error halt := by
  cases h with
  | decided b hm =>
      refine ⟨nofun, ?_⟩
      rintro ⟨before, x, rfl, -, hx⟩
      obtain ⟨b', hb'⟩ := hm x (by simp)
      rw [hx] at hb'
      cases hb'
  | @failed before x halt' hb hx =>
      constructor
      · rintro ⟨⟩
        exact ⟨before, x, rfl, hb, hx⟩
      · rintro ⟨before', x', same, -, hx'⟩
        obtain ⟨-, last⟩ := List.append_inj' same rfl
        obtain rfl := List.singleton_inj.1 last
        rw [← hx, hx']

end Traced

section

variable (holds holds' : α → Outcome Bool)

theorem traced_allM (group : List α) :
    Traced holds (reachedInGroup holds group) (group.allM holds) := by
  induction group with
  | nil => exact .decided true (by simp [reachedInGroup])
  | cons x rest ih =>
      rw [List.allM_cons, reachedInGroup]
      cases hx : holds x with
      | error halt =>
          have noneBefore : ∀ y ∈ ([] : List α), ∃ b, holds y = .ok b := nofun
          exact .failed noneBefore hx
      | ok b =>
          cases b with
          | false => exact .cons hx (.decided false (by simp))
          | true => exact .cons hx ih

theorem traced_anyM (groups : List (List α)) :
    Traced holds (reached holds groups) (groups.anyM fun group => group.allM holds) := by
  induction groups with
  | nil => exact .decided false (by simp [reached])
  | cons group rest ih =>
      have first := traced_allM holds group
      rw [List.anyM_cons, reached]
      cases hg : group.allM holds with
      | error halt =>
          rw [hg] at first
          show Traced holds (reachedInGroup holds group ++ []) (.error halt)
          rwa [List.append_nil]
      | ok b =>
          rw [hg] at first
          cases b with
          | true =>
              show Traced holds (reachedInGroup holds group ++ []) (.ok true)
              rwa [List.append_nil]
          | false => exact ih.append first.decided_of_ok

variable {holds holds'}

/-- A group is decided by the members that are reached. -/
theorem allM_congr_of_reached {group : List α}
    (same : ∀ x ∈ reachedInGroup holds group, holds' x = holds x) :
    group.allM holds' = group.allM holds := by
  induction group with
  | nil => rfl
  | cons x rest ih =>
      rw [reachedInGroup, List.forall_mem_cons] at same
      rw [List.allM_cons, List.allM_cons, same.1]
      cases hx : holds x with
      | error halt => rfl
      | ok b =>
          cases b with
          | false => rfl
          | true =>
              rw [hx] at same
              exact ih same.2

theorem anyM_congr_of_reached {groups : List (List α)}
    (same : ∀ x ∈ reached holds groups, holds' x = holds x) :
    (groups.anyM fun group => group.allM holds') =
      groups.anyM fun group => group.allM holds := by
  induction groups with
  | nil => rfl
  | cons group rest ih =>
      rw [reached, List.forall_mem_append] at same
      rw [List.anyM_cons, List.anyM_cons, allM_congr_of_reached same.1]
      cases hg : group.allM holds with
      | error halt => rfl
      | ok b =>
          cases b with
          | true => rfl
          | false =>
              rw [hg] at same
              exact ih same.2

end

/-! ### The tree of a chain -/

/-- Goes on by what was decided. -/
def Outcome.branch (x yes no : Outcome Bool) : Outcome Bool := do
  if ← x then yes else no

namespace Outcome

variable (x y z yes no : Outcome Bool)

theorem map_eq_error_iff {β γ : Type} (f : β → γ) (x : Outcome β) (halt : Halt) :
    f <$> x = (.error halt : Outcome γ) ↔ x = .error halt := by
  cases x with
  | ok b => exact ⟨nofun, nofun⟩
  | error halt' => exact ⟨fun h => congrArg _ (Except.error.inj h), fun h => congrArg (f <$> ·) h⟩

theorem branch_true : branch (.ok true) yes no = yes :=
  rfl

theorem branch_false : branch (.ok false) yes no = no :=
  rfl

theorem branch_self : branch x (.ok true) (.ok false) = x := by
  cases x with
  | error halt => rfl
  | ok b => cases b <;> rfl

theorem branch_branch : branch (branch x y z) yes no =
    branch x (branch y yes no) (branch z yes no) := by
  cases x with
  | error halt => rfl
  | ok b => cases b <;> rfl

end Outcome

open Outcome (branch)

theorem allM_cons_eq_branch (holds : α → Outcome Bool) (x : α) (rest : List α) :
    (x :: rest).allM holds = branch (holds x) (rest.allM holds) (.ok false) :=
  List.allM_cons

theorem anyM_cons_eq_branch (holds : α → Outcome Bool) (x : α) (rest : List α) :
    (x :: rest).anyM holds = branch (holds x) (.ok true) (rest.anyM holds) :=
  List.anyM_cons

namespace Scope

variable (s : Scope) (set : ValueSet)

theorem test_and_eq_branch (left right : Node) : s.test (.condition .and left right) set =
    branch (s.test left set) (s.test right set) (.ok false) :=
  s.test_and left right set

/-- Some group holds, that is, all of its members do. -/
def testGroups (groups : List (List Node)) : Outcome Bool :=
  groups.anyM fun group => group.allM fun n => s.test n set

theorem testGroups_nil_cons (groups : List (List Node)) :
    s.testGroups set ([] :: groups) = .ok true :=
  rfl

theorem testGroups_cons_cons (n : Node) (group : List Node) (groups : List (List Node)) :
    s.testGroups set ((n :: group) :: groups) =
      branch (s.test n set) (s.testGroups set (group :: groups)) (s.testGroups set groups) := by
  simp only [testGroups, anyM_cons_eq_branch, allM_cons_eq_branch, Outcome.branch_branch,
    Outcome.branch_false]

/-- Whether the groups before have held; where there are none, nothing has. -/
def testBefore (before : Option Node) : Outcome Bool :=
  before.elim (.ok false) fun n => s.test n set

theorem test_joinGroup (before : Option Node) (group : Node) :
    s.test (Chain.joinGroup before group) set =
      branch (s.testBefore set before) (.ok true) (s.test group set) := by
  cases before with
  | none => rfl
  | some before => exact s.test_or before group set

/-- The induction is on what is still to come. Before it stand groups that have not held, and the
part of a group that is open. -/
theorem test_treeFrom (rest : List (Connective × Node)) (before : Option Node) (group : Node) :
    s.test (Chain.treeFrom before group rest) set =
      branch (s.testBefore set before) (.ok true)
        (branch (s.test group set)
          (s.testGroups set ((Chain.splitRest rest).1 :: (Chain.splitRest rest).2))
          (s.testGroups set (Chain.splitRest rest).2)) := by
  induction rest generalizing before group with
  | nil =>
      have noGroups : s.testGroups set [] = .ok false := rfl
      rw [Chain.treeFrom, Chain.splitRest, testGroups_nil_cons, noGroups, Outcome.branch_self,
        test_joinGroup]
  | cons x rest ih =>
      obtain ⟨op, n⟩ := x
      cases op with
      | and =>
          -- the member goes into the group that is open
          rw [Chain.treeFrom, ih, Chain.splitRest, testGroups_cons_cons, test_and_eq_branch,
            Outcome.branch_branch, Outcome.branch_false]
      | or =>
          -- the open group is closed, and the member opens another
          rw [Chain.treeFrom, ih, Chain.splitRest, testGroups_nil_cons, testGroups_cons_cons,
            testBefore, Option.elim_some, test_joinGroup, Outcome.branch_branch,
            Outcome.branch_true]

/-- A chain holds where all of one of its groups does. -/
theorem test_tree (c : Chain Node) : s.test c.tree set =
    c.groups.anyM fun group => group.allM fun n => s.test n set := by
  have first := s.test_treeFrom set c.rest none c.first
  rw [testBefore, Option.elim_none, Outcome.branch_false] at first
  exact first.trans (s.testGroups_cons_cons set c.first _ _).symm

end Scope

/-- The aliases in each comparison are replaced. -/
theorem Policy.expandNode_tree (p : Policy) (c : Chain Node) :
    p.expandNode c.tree = (c.map p.expandNode).tree := by
  have joined (before : Option Node) (group : Node) : p.expandNode (Chain.joinGroup before group) =
      Chain.joinGroup (before.map p.expandNode) (p.expandNode group) := by
    cases before with
    | none => rfl
    | some before => rw [Chain.joinGroup, Policy.expandNode]; rfl
  have treeFrom (rest : List (Connective × Node)) (before : Option Node) (group : Node) :
      p.expandNode (Chain.treeFrom before group rest) =
        Chain.treeFrom (before.map p.expandNode) (p.expandNode group)
          (rest.map fun x => (x.1, p.expandNode x.2)) := by
    induction rest generalizing before group with
    | nil => exact joined before group
    | cons x rest ih =>
        obtain ⟨op, n⟩ := x
        cases op with
        | and =>
            rw [Chain.treeFrom, ih, Policy.expandNode]
            rfl
        | or =>
            rw [Chain.treeFrom, ih, Option.map_some, joined]
            rfl
  exact treeFrom c.rest none c.first

/-! ### Chains in a query -/

theorem anyM_allM_map {β : Type} (f : α → β) (holds : β → Outcome Bool) (groups : List (List α)) :
    ((groups.map (List.map f)).anyM fun group => group.allM holds) =
      groups.anyM fun group => group.allM fun x => holds (f x) := by
  have inGroup (group : List α) : (group.map f).allM holds = group.allM fun x => holds (f x) := by
    induction group with
    | nil => rfl
    | cons x rest ih => rw [List.map_cons, allM_cons_eq_branch, allM_cons_eq_branch, ih]
  induction groups with
  | nil => rfl
  | cons group rest ih =>
      rw [List.map_cons, anyM_cons_eq_branch, anyM_cons_eq_branch, ih, inGroup]

/-- The members that are reached, with their places. -/
def Chain.reached (holds : α → Outcome Bool) (c : Chain α) : List (α × Nat) :=
  PathQuery.reached (fun x => holds x.1) c.numbered.groups

theorem Chain.first_mem_reached (holds : α → Outcome Bool) (c : Chain α) :
    (c.first, 0) ∈ c.reached holds := by
  simp [Chain.reached, Chain.groups, Chain.numbered, PathQuery.reached, reachedInGroup]

/-- A chain behind a path is evaluated on what the path gives. -/
theorem Engine.evalQuery_chain (e : Engine) {path : List Step} {chain : Chain Node}
    (hc : chain.first.isCondition = true) (position : Nat) {document : Json} {set : ValueSet}
    (walked : e.evalPath (e.policy.expand ⟨path⟩).steps document none = .ok set) :
    e.evalQuery ⟨path ++ [⟨chain.tree, position⟩]⟩ document = Output.bool <$>
      chain.groups.anyM fun group => group.allM fun n =>
        e.test (e.policy.expandNode n) document set := by
  have tree := Chain.isCondition_tree hc
  have expanded : (e.policy.expand ⟨path ++ [⟨chain.tree, position⟩]⟩).steps =
      (e.policy.expand ⟨path⟩).steps ++ [⟨(chain.map e.policy.expandNode).tree, position⟩] := by
    rw [← e.policy.expandNode_tree]
    refine e.policy.expandSteps_append_plain [] path fun s hs => ?_
    obtain rfl := List.mem_singleton.1 hs
    exact e.policy.stepTarget?_of_isCondition tree
  have first : (chain.map e.policy.expandNode).first.isCondition = true :=
    (e.policy.isCondition_expandNode chain.first).trans hc
  unfold evalQuery
  rw [expanded, splitCondition_concat (Chain.isCondition_tree first)]
  dsimp only
  rw [walked]
  show Output.bool <$> (e.scope document).test (chain.map e.policy.expandNode).tree set = _
  rw [Scope.test_tree, Chain.groups_map, anyM_allM_map]
  rfl

/-- A text that is a path and a chain of comparisons, on a document on which the path gives `set`:
the chain is split at each `||`, and the query holds where all comparisons of a group do, groups and
comparisons being evaluated in order until this is decided. The query fails just if one that is
reached fails, with the error of the first that does; and in the place of each one that is not
reached there may be any other. -/
theorem evaluate_chain (c : Config) (p : Policy) (validated : c.validate = .ok p) {text : String}
    {body : List Token} {finish : Token} {path : List Step} {chain : Chain Node} {position : Nat}
    (tokens : tokenize text = .ok (body ++ [finish]))
    (written : Grammar.DerivesChain finish.position body path chain position) (document : Json)
    (set : ValueSet)
    (walked : (Engine.ofPolicy p).evalPath (p.expand ⟨path⟩).steps document none = .ok set) :
    let holds := fun n => (Engine.ofPolicy p).test (p.expandNode n) document set
    evaluate text document c =
        Output.bool <$> chain.groups.anyM (fun group => group.allM holds) ∧
      (∀ halt, evaluate text document c = .error halt ↔
        ∃ before x, chain.reached holds = before ++ [x] ∧
          (∀ y ∈ before, ∃ b, holds y.1 = .ok b) ∧ holds x.1 = .error halt) ∧
      ∀ other : Node × Nat → Node, (∀ x ∈ chain.reached holds, other x = x.1) →
        (Engine.ofPolicy p).evalQuery
            ⟨path ++ [⟨(chain.numbered.map other).tree, position⟩]⟩ document =
          evaluate text document c := by
  intro holds
  have evaluated : evaluate text document c =
      Output.bool <$> chain.groups.anyM (fun group => group.allM holds) := by
    rw [evaluate_of_parse validated (parse_chain tokens written)]
    exact (Engine.ofPolicy p).evalQuery_chain written.isCondition position walked
  have numbered : (chain.groups.anyM fun group => group.allM holds) =
      chain.numbered.groups.anyM fun group => group.allM fun x => holds x.1 := by
    rw [← anyM_allM_map, ← Chain.groups_map, Chain.numbered_map_fst]
  refine ⟨evaluated, fun halt => ?_, fun other same => ?_⟩
  · have traced := traced_anyM (fun x : Node × Nat => holds x.1) chain.numbered.groups
    rw [evaluated, numbered, Outcome.map_eq_error_iff]
    exact traced.eq_error_iff
  · have first : (chain.numbered.map other).first.isCondition = true := by
      have kept : other (chain.first, 0) = chain.first := same _ (chain.first_mem_reached holds)
      show (other (chain.first, 0)).isCondition = true
      rw [kept]
      exact written.isCondition
    rw [evaluated, numbered, (Engine.ofPolicy p).evalQuery_chain first position walked,
      Chain.groups_map, anyM_allM_map]
    refine congrArg _ (anyM_congr_of_reached fun x hx => ?_)
    rw [same x hx]
    rfl

open Grammar in
/-- The second comparison would miss and the fourth would compare with an object, but neither is
reached. -/
theorem evaluate_chain_mixed :
    let document : Json := .object [("a", .string "q")]
    let path : List Step := [⟨.root, 0⟩, ⟨.property "a", 0⟩]
    let first : Node := .comparison .eq .current (.literal (.string "p"))
    let second : Node := .comparison .gt (.path [⟨.root, 8⟩, ⟨.property "b", 10⟩])
      (.literal (.string ""))
    let third : Node := .comparison .eq .current (.literal (.string "q"))
    let fourth : Node := .comparison .lt .current (.path [⟨.root, 28⟩])
    let chain : Chain Node := ⟨first, [(.and, second), (.or, third), (.or, fourth)]⟩
    ∃ p body finish, Config.validate .standard = .ok p ∧
      tokenize "a=='p'&&$.b>'' or @=='q'||@<$" = .ok (body ++ [finish]) ∧
      DerivesChain finish.position body path chain 1 ∧
      chain.groups = [[first, second], [third], [fourth]] ∧
      evaluate "a=='p'&&$.b>'' or @=='q'||@<$" document .standard = .ok (.bool true) ∧
      ∀ n n' : Node, (Engine.ofPolicy p).evalQuery
        ⟨path ++ [⟨Chain.tree ⟨first, [(.and, n), (.or, third), (.or, n')]⟩, 1⟩]⟩ document =
          .ok (.bool true) := by
  intro document path first second third fourth chain
  let behind : List Token :=
    ⟨.and, "&&", 6⟩ :: (([⟨.root, "$", 8⟩, ⟨.dot, ".", 9⟩, ⟨.property, "b", 10⟩] ++
      [⟨.comparator .gt, ">", 11⟩, ⟨.string, "", 12⟩]) ++
    ⟨.or, "or", 15⟩ :: (([⟨.current, "@", 18⟩] ++
      [⟨.comparator .eq, "==", 19⟩, ⟨.string, "q", 21⟩]) ++
    ⟨.or, "||", 24⟩ :: (([⟨.current, "@", 26⟩] ++
      [⟨.comparator .lt, "<", 27⟩, ⟨.root, "$", 28⟩]) ++ [])))
  let trail : List Token := [⟨.comparator .eq, "==", 1⟩, ⟨.string, "p", 3⟩] ++ behind
  have tokens : tokenize "a=='p'&&$.b>'' or @=='q'||@<$" =
      .ok (([] ++ ([⟨.property, "a", 0⟩] ++ ([] ++ trail))) ++ [⟨.finish, "", 29⟩]) := by cbv
  have joined : Joined behind chain.rest :=
    .cons rfl (.mk (.fromRoot rfl (.moreSteps (.dotName rfl (.name rfl)) .noSteps))
      (.compared rfl (.string rfl))) <|
    .cons rfl (.mk (.fromCurrent rfl .noSteps) (.compared rfl (.string rfl))) <|
    .cons rfl (.mk (.fromCurrent rfl .noSteps) (.compared rfl (.fromRoot rfl .noSteps))) .nil
  have written : DerivesChain 29 ([] ++ ([⟨.property, "a", 0⟩] ++ ([] ++ trail))) path chain 1 :=
    .mk (.inl rfl) (.name rfl (.name rfl)) .noSteps
      (.continued (.compared rfl (.string rfl)) joined)
  have validated : Config.validate .standard = .ok ⟨[], .error, .standard⟩ := rfl
  obtain ⟨evaluated, -, others⟩ := evaluate_chain .standard _ validated tokens written document
    (.single (.string "q")) rfl
  have value : evaluate "a=='p'&&$.b>'' or @=='q'||@<$" document .standard = .ok (.bool true) :=
    evaluated.trans rfl
  refine ⟨_, _, _, validated, tokens, written, rfl, value, fun n n' => ?_⟩
  rw [← value]
  refine others (fun x => if x.2 = 1 then n else if x.2 = 3 then n' else x.1) ?_
  show ∀ x ∈ [(first, 0), (third, 2)], _
  simp

end PathQuery
