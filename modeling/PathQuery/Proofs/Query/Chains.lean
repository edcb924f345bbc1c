import PathQuery.Proofs.Query.Language

/-!
Conditions without negation and parentheses of their own: comparisons in a chain, joined by
connectives. The chain is read as one tree that leans to the left, in which the comparisons between
two `||` are joined first. The path before it is the subject of its first comparison, or the first
comparison has an operand of its own.
-/

namespace PathQuery

/-- Members joined by connectives, in the order in which they are written. -/
structure Chain (α : Type) where
  first : α
  rest : List (Connective × α)

namespace Chain

variable {α β : Type}

def map (f : α → β) (c : Chain α) : Chain β :=
  ⟨f c.first, c.rest.map fun x => (x.1, f x.2)⟩

/-- The members with their places, counted from 0. -/
def numbered (c : Chain α) : Chain (α × Nat) :=
  ⟨(c.first, 0), (c.rest.zipIdx 1).map fun x => (x.1.1, x.1.2, x.2)⟩

/-- Behind a member: the rest of its group, and the groups from the next `||` on. -/
def splitRest : List (Connective × α) → List α × List (List α)
  | [] => ([], [])
  | (.and, x) :: rest => (x :: (splitRest rest).1, (splitRest rest).2)
  | (.or, x) :: rest => ([], (x :: (splitRest rest).1) :: (splitRest rest).2)

/-- The chain split at each `||`. -/
def groups (c : Chain α) : List (List α) :=
  (c.first :: (splitRest c.rest).1) :: (splitRest c.rest).2

theorem splitRest_map (f : α → β) (rest : List (Connective × α)) :
    splitRest (rest.map fun x => (x.1, f x.2)) =
      ((splitRest rest).1.map f, (splitRest rest).2.map (List.map f)) := by
  induction rest with
  | nil => rfl
  | cons x rest ih =>
      obtain ⟨op, x⟩ := x
      cases op <;> simp [splitRest, ih]

theorem groups_map (f : α → β) (c : Chain α) : (c.map f).groups = c.groups.map (List.map f) := by
  simp [groups, map, splitRest_map]

@[simp] theorem numbered_map_fst (c : Chain α) : c.numbered.map Prod.fst = c := by
  obtain ⟨first, rest⟩ := c
  simp only [numbered, map, List.map_map, mk.injEq, true_and]
  have members : (fun x : (Connective × α) × Nat => (x.1.1, x.1.2)) = Prod.fst := rfl
  exact (congrArg (List.map · _) members).trans (List.zipIdx_map_fst 1 rest)

/-! ### The tree of a chain -/

/-- A group behind the tree of the groups before it, if there are any. -/
def joinGroup : Option Node → Node → Node
  | none, group => group
  | some before, group => .condition .or before group

/-- The tree of a chain whose rest is still to come. -/
def treeFrom (before : Option Node) (group : Node) : List (Connective × Node) → Node
  | [] => joinGroup before group
  | (.and, n) :: rest => treeFrom before (.condition .and group n) rest
  | (.or, n) :: rest => treeFrom (some (joinGroup before group)) n rest

def tree (c : Chain Node) : Node :=
  treeFrom none c.first c.rest

theorem isCondition_treeFrom {before : Option Node} {group : Node}
    (h : (joinGroup before group).isCondition = true) (rest : List (Connective × Node)) :
    (treeFrom before group rest).isCondition = true := by
  induction rest generalizing before group with
  | nil => exact h
  | cons x rest ih =>
      obtain ⟨op, n⟩ := x
      cases op with
      | and => cases before <;> exact ih rfl
      | or => exact ih rfl

theorem isCondition_tree {c : Chain Node} (h : c.first.isCondition = true) :
    c.tree.isCondition = true :=
  isCondition_treeFrom (show (joinGroup none c.first).isCondition = true from h) c.rest

end Chain

/-! ### Chains in a text -/

namespace Grammar

/-- A comparison with both of its operands. -/
inductive Compares : List Token → Node → Prop
  | mk {ts us : List Token} {left node : Node} :
      Derives .operand ts left → Derives (.compared left) us node → Compares (ts ++ us) node

/-- Comparisons behind the first, each behind its connective. -/
inductive Joined : List Token → List (Connective × Node) → Prop
  | nil : Joined [] []
  | cons {t : Token} {ts us : List Token} {op : Connective} {node : Node}
      {rest : List (Connective × Node)} :
      t.kind = op.kind → Compares ts node → Joined us rest →
        Joined (t :: (ts ++ us)) ((op, node) :: rest)

/-- The end of a query behind the steps `path`, as a chain of comparisons. -/
inductive ChainTrail (path : List Step) : List Token → Chain Node → Prop
  | continued {ts us : List Token} {node : Node} {rest : List (Connective × Node)} :
      Derives (.compared .current) ts node → Joined us rest →
        ChainTrail path (ts ++ us) ⟨node, rest⟩
  | alone {ts us : List Token} {node : Node} {rest : List (Connective × Node)} :
      path = [] → opensAlone ts → Compares ts node → Joined us rest →
        ChainTrail path (ts ++ us) ⟨node, rest⟩

/-- A query that ends in a chain of comparisons. Its steps before the chain are `path`, and the
chain begins at `position`. -/
inductive DerivesChain (finish : Nat) : List Token → List Step → Chain Node → Nat → Prop
  | mk {root head path trail : List Token} {first steps : List Step} {chain : Chain Node} :
      (root = [] ∨ ∃ t : Token, t.kind = .root ∧ root = [t]) → Head head first →
        Derives .steps path steps → ChainTrail (first ++ steps) trail chain →
          DerivesChain finish (root ++ (head ++ (path ++ trail)))
            (⟨.root, start finish (root ++ (head ++ (path ++ trail)))⟩ :: (first ++ steps)) chain
            (start finish trail)

theorem Compares.derives {ts : List Token} {node : Node} (h : Compares ts node) :
    Derives .unary ts node := by
  cases h with
  | mk ho hc => exact .comparison ho hc

/-- The rest of a chain is the rest of the group that is open, and further groups. -/
theorem Joined.derives {ts : List Token} {rest : List (Connective × Node)} (h : Joined ts rest)
    (before : Option Node) (group : Node) :
    ∃ us vs whole, ts = us ++ vs ∧ Derives (.conjuncts group) us whole ∧
      Derives (.disjuncts (Chain.joinGroup before whole)) vs
        (Chain.treeFrom before group rest) := by
  induction h generalizing before group with
  | nil => exact ⟨[], [], group, rfl, .noConjuncts, .noDisjuncts⟩
  | @cons t ts us op node rest ht hc _ ih =>
      cases op with
      | and =>
          obtain ⟨vs, ws, whole, rfl, conjuncts, disjuncts⟩ :=
            ih before (.condition .and group node)
          refine ⟨t :: (ts ++ vs), ws, whole, by simp, ?_, disjuncts⟩
          exact .moreConjuncts ht hc.derives conjuncts
      | or =>
          obtain ⟨vs, ws, whole, rfl, conjuncts, disjuncts⟩ :=
            ih (some (Chain.joinGroup before group)) node
          refine ⟨[], t :: ((ts ++ vs) ++ ws), group, by simp, .noConjuncts, ?_⟩
          exact .moreDisjuncts ht (.conjunction hc.derives conjuncts) disjuncts

theorem opensAlone_append {ts : List Token} (h : opensAlone ts) (us : List Token) :
    opensAlone (ts ++ us) := by
  match ts with
  | [t] =>
      have single : opensCondition [t] = false := rfl
      simp only [opensAlone, single, Bool.false_or] at h
      simp only [List.cons_append, opensAlone, Bool.or_assoc] at h ⊢
      rw [h, Bool.or_true]
  | t :: u :: rest => exact h

theorem ChainTrail.trail {path : List Step} {ts : List Token} {chain : Chain Node}
    (h : ChainTrail path ts chain) : Trail path ts (some chain.tree) := by
  cases h with
  | continued hc joined =>
      obtain ⟨us, vs, whole, rfl, conjuncts, disjuncts⟩ := joined.derives none _
      exact .continued (.continued hc conjuncts disjuncts)
  | alone hp ho hc joined =>
      obtain ⟨us, vs, whole, rfl, conjuncts, disjuncts⟩ := joined.derives none _
      refine .alone hp (opensAlone_append ho _) ?_
      rw [← List.append_assoc]
      exact .disjunction (.conjunction hc.derives conjuncts) disjuncts

theorem Derives.compared_isCondition {left node : Node} {ts : List Token}
    (h : Derives (.compared left) ts node) : node.isCondition = true := by
  cases h with
  | compared _ _ => rfl

theorem ChainTrail.isCondition {path : List Step} {ts : List Token} {chain : Chain Node}
    (h : ChainTrail path ts chain) : chain.first.isCondition = true := by
  cases h with
  | continued hc _ => exact hc.compared_isCondition
  | alone _ _ hc _ =>
      cases hc with
      | mk _ hc => exact hc.compared_isCondition

theorem DerivesChain.isCondition {finish position : Nat} {ts : List Token} {path : List Step}
    {chain : Chain Node} (h : DerivesChain finish ts path chain position) :
    chain.first.isCondition = true := by
  cases h with
  | mk _ _ _ ht => exact ht.isCondition

theorem DerivesChain.derivesQuery {finish position : Nat} {ts : List Token} {path : List Step}
    {chain : Chain Node} (h : DerivesChain finish ts path chain position) :
    DerivesQuery finish ts ⟨path ++ [⟨chain.tree, position⟩]⟩ := by
  cases h with
  | mk hr hh hs ht => exact .mk hr hh hs ht.trail

end Grammar

/-- A text whose tokens are a path and a chain is read as the path and the tree of the chain. -/
theorem parse_chain {text : String} {body : List Token} {finish : Token} {path : List Step}
    {chain : Chain Node} {position : Nat} (tokens : tokenize text = .ok (body ++ [finish]))
    (written : Grammar.DerivesChain finish.position body path chain position) :
    Query.parse text = .ok ⟨path ++ [⟨chain.tree, position⟩]⟩ := by
  obtain ⟨body', finish', same, hf, -⟩ := Scanner.tokens_sound tokens
  obtain ⟨-, last⟩ := List.append_inj' same rfl
  obtain rfl := List.singleton_inj.1 last
  rw [parse_of_tokenize tokens, (ofTokens_eq_ok_iff tokens _).1]
  exact .mk hf written.derivesQuery

end PathQuery
