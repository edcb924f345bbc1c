import PathQuery.Proofs.Query.Grammar

/-!
The shape of parsed trees. Every node of one stands where its kind belongs: steps in paths, operands
on both sides of a comparison, conditions under connectives, and operands or conditions as the
arguments of calls.
-/

namespace PathQuery

open Grammar PathQuery.Parser

/-- What a node may be in a tree. -/
inductive Role where
  | step
  | operand
  | condition
  | argument

/-- Literals of the language. Integers fit in 64 bits with a sign. -/
def Json.IsLiteral : Json → Prop
  | .number (.int n) => Number.fitsInt64 n
  | .array _ | .object _ => False
  | _ => True

def Slice.Formed (s : Slice) : Prop :=
  (∀ i ∈ s.start, Number.fitsInt64 i) ∧ (∀ i ∈ s.stop, Number.fitsInt64 i) ∧
    (∀ i ∈ s.step, Number.fitsInt64 i) ∧ s.step ≠ some 0

/-- The node fills its role, and so do those below it. Calls have names that `named` admits. -/
inductive Node.Formed (named : String → Prop) : Role → Node → Prop
  | property {name : String} : Formed named .step (.property name)
  | index {i : Int} : Number.fitsInt64 i → Formed named .step (.index i)
  | slice {s : Slice} : s.Formed → Formed named .step (.slice s)
  | wildcard : Formed named .step .wildcard
  | multiKey {keys : List String} : keys ≠ [] → Formed named .step (.multiKey keys)
  | omission {keys : List String} : keys ≠ [] → Formed named .step (.omission keys)
  | call {name : String} {args : List Node} :
      named name → (∀ arg ∈ args, Formed named .argument arg) →
        Formed named .step (.call name args)
  | literal {value : Json} : value.IsLiteral → Formed named .operand (.literal value)
  | current : Formed named .operand .current
  | fromRoot {position : Nat} {steps : List Step} :
      (∀ s ∈ steps, Formed named .step s.node) →
        Formed named .operand (.path (⟨.root, position⟩ :: steps))
  | fromCurrent {position : Nat} {steps : List Step} :
      steps ≠ [] → (∀ s ∈ steps, Formed named .step s.node) →
        Formed named .operand (.path (⟨.current, position⟩ :: steps))
  | comparison {op : Comparator} {left right : Node} :
      Formed named .operand left → Formed named .operand right →
        Formed named .condition (.comparison op left right)
  | condition {op : Connective} {left right : Node} :
      Formed named .condition left → Formed named .condition right →
        Formed named .condition (.condition op left right)
  | not {inner : Node} :
      Formed named .condition inner → Formed named .condition (.not inner)
  | operandArgument {arg : Node} :
      Formed named .operand arg → Formed named .argument arg
  | conditionArgument {arg : Node} :
      Formed named .condition arg → Formed named .argument arg

namespace Grammar

variable {named : String → Prop} {ts : List Token}

/-- What the tree of a phrase is formed like. Phrases that go on from something to their left give
the shape of the whole. -/
def Symbol.Formed (named : String → Prop) : (x : Symbol) → x.Result → Prop
  | .steps, rest => ∀ s ∈ rest, s.node.Formed named .step
  | .step, s | .named, s => s.node.Formed named .step
  | .arguments, args => ∀ arg ∈ args, arg.Formed named .argument
  | .argument, arg => arg.Formed named .argument
  | .operand, node => node.Formed named .operand
  | .compared left, node | .continued left, node =>
      left.Formed named .operand → node.Formed named .condition
  | .unary, node | .conjunction, node | .disjunction, node => node.Formed named .condition
  | .conjuncts left, node | .disjuncts left, node =>
      left.Formed named .condition → node.Formed named .condition

theorem int64OfText?_fits {text : String} {i : Int} (h : Number.int64OfText? text = some i) :
    Number.fitsInt64 i := by
  simp only [Number.int64OfText?, Option.ite_none_right_eq_some, Option.some.injEq,
    Bool.and_eq_true] at h
  obtain ⟨⟨-, hf⟩, rfl⟩ := h
  exact hf

theorem Bound.fits {bound : Option Int} (h : Bound ts bound) :
    ∀ i ∈ bound, Number.fitsInt64 i := by
  cases h with
  | none => simp
  | some _ hi =>
      intro i he
      cases he
      exact int64OfText?_fits hi

theorem Keys.ne_nil {admits : Token → Bool} {keys : List String} (h : Keys admits ts keys) :
    keys ≠ [] := by
  cases h <;> simp

theorem Group.ne_nil {keys : List String} (h : Group ts keys) : keys ≠ [] := by
  cases h with
  | mk _ hk _ => exact hk.ne_nil

theorem Inner.formed {node : Node} (h : Inner ts node) : node.Formed named .step := by
  cases h with
  | star => exact .wildcard
  | key => exact .property
  | keys => exact .multiKey (by simp)
  | index _ hi => exact .index (int64OfText?_fits hi)
  | slice ha _ hb hs =>
      refine .slice ⟨ha.fits, hb.fits, ?_, ?_⟩
      · cases hs with
        | none => simp
        | some _ hc _ => exact hc.fits
      · cases hs with
        | none => simp
        | some _ _ hz => exact hz

theorem ofText?_isLiteral {text : String} {n : Number} (h : Number.ofText? text = some n) :
    (Json.number n).IsLiteral := by
  unfold Number.ofText? at h
  split at h
  · rename_i i hi
    cases h
    exact int64OfText?_fits hi
  · obtain ⟨x, -, rfl⟩ := Option.map_eq_some_iff.1 h
    trivial

theorem keywordValue_isLiteral (text : String) : (keywordValue text).IsLiteral := by
  unfold keywordValue
  split
  · trivial
  split <;> trivial

theorem relative_formed {position : Nat} {steps : List Step}
    (h : ∀ s ∈ steps, s.node.Formed named .step) :
    (relative position steps).Formed named .operand := by
  cases steps with
  | nil => exact .current
  | cons step rest => exact .fromCurrent (by simp) h

/-- The tree of a phrase has the shape of its kind. -/
theorem Derives.formed {x : Symbol} {r : x.Result} (h : Derives x ts r)
    (hn : ∀ t ∈ ts, t.kind = .property → named t.text) : x.Formed named r := by
  induction h with
  | noSteps => simp [Symbol.Formed]
  | moreSteps _ _ first others =>
      intro s hs
      rcases List.mem_cons.1 hs with rfl | hs
      · exact first fun t ht => hn t (List.mem_append_left _ ht)
      · exact others (fun t ht => hn t (List.mem_append_right _ ht)) s hs
  | dotName _ _ name => exact name fun t ht => hn t (List.mem_cons_of_mem _ ht)
  | dotString _ _ => exact Node.Formed.property
  | dotStar _ _ => exact Node.Formed.wildcard
  | dotGroup _ hg => exact Node.Formed.multiKey hg.ne_nil
  | dotOmission _ _ hg => exact Node.Formed.omission hg.ne_nil
  | bracket _ hi _ => exact hi.formed
  | group hg => exact Node.Formed.multiKey hg.ne_nil
  | omission _ hg => exact Node.Formed.omission hg.ne_nil
  | name _ => exact Node.Formed.property
  | emptyCall ht _ _ => exact Node.Formed.call (hn _ (by simp) ht) (by simp)
  | call ht _ _ _ args =>
      refine Node.Formed.call (hn _ (by simp) ht) (args fun t ht => hn t ?_)
      simp [ht]
  | oneArgument _ arg =>
      intro a ha
      obtain rfl : a = _ := by simpa using ha
      exact arg hn
  | moreArguments _ _ _ first others =>
      intro a ha
      rcases List.mem_cons.1 ha with rfl | ha
      · exact first fun t ht => hn t (List.mem_append_left _ ht)
      · exact others (fun t ht => hn t (by simp [ht])) a ha
  | operandArgument _ operand => exact Node.Formed.operandArgument (operand hn)
  | comparedArgument _ _ left node =>
      refine Node.Formed.conditionArgument (node ?_ (left ?_))
      · exact fun t ht => hn t (List.mem_append_right _ ht)
      · exact fun t ht => hn t (List.mem_append_left _ ht)
  | conditionArgument _ _ node => exact Node.Formed.conditionArgument (node hn)
  | number _ hv => exact Node.Formed.literal (ofText?_isLiteral hv)
  | string _ => exact Node.Formed.literal trivial
  | keyword _ => exact Node.Formed.literal (keywordValue_isLiteral _)
  | fromName _ _ _ step rest =>
      refine relative_formed fun s hs => ?_
      rcases List.mem_cons.1 hs with rfl | hs
      · exact step fun t ht => hn t (List.mem_append_left _ ht)
      · exact rest (fun t ht => hn t (by simp [ht])) s hs
  | fromRoot _ _ rest =>
      exact Node.Formed.fromRoot (rest fun t ht => hn t (List.mem_cons_of_mem _ ht))
  | fromCurrent _ _ rest =>
      exact relative_formed (rest fun t ht => hn t (List.mem_cons_of_mem _ ht))
  | fromStep _ rest => exact relative_formed (rest hn)
  | compared _ _ right =>
      intro hl
      exact Node.Formed.comparison hl (right fun t ht => hn t (List.mem_cons_of_mem _ ht))
  | negation _ _ _ inner =>
      exact Node.Formed.not (inner fun t ht => hn t (List.mem_cons_of_mem _ ht))
  | parentheses _ _ _ inner => exact inner fun t ht => hn t (by simp [ht])
  | comparison _ _ left node =>
      refine node ?_ (left ?_)
      · exact fun t ht => hn t (List.mem_append_right _ ht)
      · exact fun t ht => hn t (List.mem_append_left _ ht)
  | conjunction _ _ left node | disjunction _ _ left node =>
      refine node ?_ (left ?_)
      · exact fun t ht => hn t (List.mem_append_right _ ht)
      · exact fun t ht => hn t (List.mem_append_left _ ht)
  | noConjuncts | noDisjuncts => exact id
  | moreConjuncts _ _ _ right node | moreDisjuncts _ _ _ right node =>
      intro hl
      refine node (fun t ht => hn t (by simp [ht])) (.condition hl (right fun t ht => hn t ?_))
      simp [ht]
  | continued _ _ _ compared joined node =>
      intro hl
      refine node (fun t ht => hn t (by simp [ht])) (joined (fun t ht => hn t (by simp [ht])) ?_)
      exact compared (fun t ht => hn t (by simp [ht])) hl

theorem Head.formed {first : List Step} (h : Head ts first)
    (hn : ∀ t ∈ ts, t.kind = .property → named t.text) :
    ∀ s ∈ first, s.node.Formed named .step := by
  cases h with
  | none => simp
  | name _ hd =>
      intro s hs
      obtain rfl : s = _ := by simpa using hs
      exact hd.formed hn

theorem Trail.formed {path : List Step} {condition : Option Node} (h : Trail path ts condition)
    (hn : ∀ t ∈ ts, t.kind = .property → named t.text) :
    ∀ c ∈ condition, c.Formed named .condition := by
  cases h with
  | none => simp
  | continued hd =>
      intro c hc
      cases hc
      exact hd.formed hn .current
  | alone _ _ hd =>
      intro c hc
      cases hc
      exact hd.formed hn

end Grammar

/-- A query goes from the root through steps, and may end with a condition. -/
inductive Query.Formed (named : String → Prop) : Query → Prop
  | mk {rootPosition position : Nat} {path : List Step} {condition : Option Node} :
      (∀ s ∈ path, s.node.Formed named .step) → (∀ c ∈ condition, c.Formed named .condition) →
        Query.Formed named
          ⟨⟨.root, rootPosition⟩ :: (path ++ condition.toList.map (⟨·, position⟩))⟩

theorem Node.Formed.isCondition {named : String → Prop} {role : Role} {n : Node}
    (h : n.Formed named role) :
    (role = .step → n.isCondition = false) ∧ (role = .condition → n.isCondition = true) := by
  cases h <;> simp [Node.isCondition]

theorem condition?_formed {named : String → Prop} (rootPosition position : Nat)
    {path : List Step} {condition : Option Node} (hp : ∀ s ∈ path, s.node.Formed named .step)
    (hc : ∀ c ∈ condition, c.Formed named .condition) :
    Query.condition? ⟨⟨.root, rootPosition⟩ :: (path ++ condition.toList.map (⟨·, position⟩))⟩ =
      condition := by
  cases condition with
  | some c =>
      have last := (hc c rfl).isCondition.2 rfl
      simp [Query.condition?, List.getLast?_cons, last]
  | none =>
      rw [Option.toList_none, List.map_nil, List.append_nil, Query.condition?,
        Option.filter_eq_none_iff]
      intro n hn
      obtain ⟨s, hs, rfl⟩ := Option.map_eq_some_iff.1 hn
      rcases List.mem_cons.1 (List.mem_of_getLast? hs) with rfl | hs
      · simp [Node.isCondition]
      · simp [(hp s hs).isCondition.1 rfl]

theorem Grammar.DerivesQuery.formed {named : String → Prop} {finish : Nat} {ts : List Token}
    {q : Query} (h : DerivesQuery finish ts q)
    (hn : ∀ t ∈ ts, t.kind = .property → named t.text) : q.Formed named := by
  cases h with
  | @mk _ _ _ _ head path _ _ hh hp ht =>
      have first : ∀ s ∈ head, s.node.Formed named .step :=
        hh.formed fun t ht => hn t (by simp [ht])
      have behind : ∀ s ∈ path, s.node.Formed named .step :=
        hp.formed fun t ht => hn t (by simp [ht])
      refine .mk ?_ (ht.formed fun t ht => hn t (by simp [ht]))
      intro s hs
      rcases List.mem_append.1 hs with hs | hs
      · exact first s hs
      · exact behind s hs

end PathQuery
