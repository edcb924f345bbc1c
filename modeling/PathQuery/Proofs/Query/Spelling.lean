import PathQuery.Proofs.Json.Numerals
import PathQuery.Proofs.Query.Formed
import PathQuery.Proofs.Query.Relocation
import PathQuery.Query.Printer

/-!
The tokens that a tree is printed as. Unless a key is spelled like a connective, they are a phrase
of the kind of the tree, and reading the phrase gives the tree back.
-/

namespace PathQuery

open Grammar

/-! ### Trees without positions -/

abbrev Node.bare (n : Node) : Node :=
  n.relocate fun _ => 0

abbrev Query.bare (q : Query) : Query :=
  q.relocate fun _ => 0

/-! ### Keys of a tree -/

mutual

/-- Names of properties and keys of groups, at any depth. -/
def Node.keys : Node → List String
  | .property name => [name]
  | .multiKey keys | .omission keys => keys
  | .call _ args => Node.keysOfAll args
  | .comparison _ left right | .condition _ left right => left.keys ++ right.keys
  | .not inner => inner.keys
  | .path steps => Node.keysOfSteps steps
  | .root | .current | .index _ | .slice _ | .wildcard | .literal _ => []

def Node.keysOfAll : List Node → List String
  | [] => []
  | n :: rest => n.keys ++ Node.keysOfAll rest

def Node.keysOfSteps : List Step → List String
  | [] => []
  | ⟨n, _⟩ :: rest => n.keys ++ Node.keysOfSteps rest

end

@[simp] theorem Node.keysOfAll_eq_flatMap (ns : List Node) :
    Node.keysOfAll ns = ns.flatMap Node.keys := by
  induction ns with
  | nil => rfl
  | cons n rest ih => rw [Node.keysOfAll, List.flatMap_cons, ih]

@[simp] theorem Node.keysOfSteps_eq_flatMap (steps : List Step) :
    Node.keysOfSteps steps = steps.flatMap fun s => s.node.keys := by
  induction steps with
  | nil => rfl
  | cons s rest ih => rw [Node.keysOfSteps, List.flatMap_cons, ih]

def Query.keys (q : Query) : List String :=
  q.steps.flatMap fun s => s.node.keys

/-! ### Tokens of a tree -/

def lexeme (kind : Token.Kind) (text : String) : Token :=
  ⟨kind, text, 0⟩

/-- A key without quotes is a word, which may be an operator. -/
def keyToken (key : String) : Token :=
  lexeme (if isPlainKey key.toList then Scanner.wordKind key.toList else .string) key

def keyTokens : List String → List Token
  | [] => []
  | [key] => [keyToken key]
  | key :: rest => keyToken key :: lexeme .comma "," :: keyTokens rest

def groupTokens (keys : List String) : List Token :=
  lexeme .openBrace "\x7b" :: (keyTokens keys ++ [lexeme .closeBrace "\x7d"])

def intToken (i : Int) : Token :=
  lexeme .number (String.ofList (Number.intChars i))

def boundTokens (i : Option Int) : List Token :=
  (i.map intToken).toList

def Slice.stepTokens (s : Slice) : List Token :=
  match s.step with
  | some i => [lexeme .colon ":", intToken i]
  | none => []

def Slice.tokens (s : Slice) : List Token :=
  lexeme .openBracket "[" :: (boundTokens s.start ++ lexeme .colon ":" ::
    (boundTokens s.stop ++ s.stepTokens) ++ [lexeme .closeBracket "]"])

def Connective.kind : Connective → Token.Kind
  | and => .and
  | or => .or

def Json.token : Json → Token
  | number n => lexeme .number (String.ofList n.chars)
  | string s => lexeme .string s
  | keyword => lexeme .property keyword.compact

mutual

def Node.tokens : Node → List Token
  | .root => [lexeme .root "$"]
  | .current => [lexeme .current "@"]
  | .property name => [lexeme .dot ".", keyToken name]
  | .index i => [lexeme .openBracket "[", intToken i, lexeme .closeBracket "]"]
  | .slice s => s.tokens
  | .wildcard => [lexeme .dot ".", lexeme .star "*"]
  | .multiKey keys => groupTokens keys
  | .omission keys => lexeme .bang "!" :: groupTokens keys
  | .call name args =>
    lexeme .dot "." :: lexeme .property name :: lexeme .openParen "(" ::
      (Node.tokensOfAll args ++ [lexeme .closeParen ")"])
  | .comparison op left right =>
    left.tokens ++ lexeme (.comparator op) op.symbol :: right.tokens
  | .condition op left right =>
    lexeme .openParen "(" ::
      (left.tokens ++ lexeme op.kind op.symbol :: right.tokens ++ [lexeme .closeParen ")"])
  | .not inner =>
    lexeme .bang "!" :: lexeme .openParen "(" :: (inner.tokens ++ [lexeme .closeParen ")"])
  | .literal value => [value.token]
  | .path steps => Node.tokensOfSteps steps

def Node.tokensOfAll : List Node → List Token
  | [] => []
  | [arg] => arg.tokens
  | arg :: rest => arg.tokens ++ lexeme .comma "," :: Node.tokensOfAll rest

def Node.tokensOfSteps : List Step → List Token
  | [] => []
  | ⟨n, _⟩ :: rest => n.tokens ++ Node.tokensOfSteps rest

end

@[simp] theorem Node.tokensOfSteps_eq_flatMap (steps : List Step) :
    Node.tokensOfSteps steps = steps.flatMap fun s => s.node.tokens := by
  induction steps with
  | nil => rfl
  | cons s rest ih => rw [Node.tokensOfSteps, List.flatMap_cons, ih]

def Query.tokens (q : Query) : List Token :=
  q.steps.flatMap fun s => s.node.tokens

/-! ### Printed trees are phrases -/

section

variable {named : String → Prop}

theorem wordKind_of_ne {key : String} (ha : key ≠ "and") (ho : key ≠ "or") :
    Scanner.wordKind key.toList = .property := by
  unfold Scanner.wordKind
  rw [if_neg, if_neg]
  · exact fun h => ho (String.toList_inj.1 h)
  · exact fun h => ha (String.toList_inj.1 h)

theorem keyToken_kind {key : String} (ha : key ≠ "and") (ho : key ≠ "or") :
    (keyToken key).kind = .property ∨ (keyToken key).kind = .string := by
  unfold keyToken lexeme
  split
  · exact .inl (wordKind_of_ne ha ho)
  · exact .inr rfl

theorem derives_property {name : String} (ha : name ≠ "and") (ho : name ≠ "or") :
    Derives .step [lexeme .dot ".", keyToken name] ⟨.property name, 0⟩ := by
  rcases keyToken_kind ha ho with h | h
  · have word : Derives .named [keyToken name] ⟨.property name, 0⟩ := .name h
    exact .dotName rfl word
  · exact .dotString rfl h

theorem keyTokens_derive {keys : List String} (some : keys ≠ [])
    (hk : ∀ k ∈ keys, k ≠ "and" ∧ k ≠ "or") : Keys isKey (keyTokens keys) keys := by
  have admitted (key : String) (hk : key ≠ "and" ∧ key ≠ "or") : isKey (keyToken key) := by
    rcases keyToken_kind hk.1 hk.2 with h | h <;> simp [isKey, h]
  induction keys with
  | nil => exact absurd rfl some
  | cons key rest ih =>
      have first := admitted key (hk key (by simp))
      cases rest with
      | nil => exact .one first
      | cons next others =>
          have behind := ih (by simp) fun k h => hk k (List.mem_cons_of_mem _ h)
          exact .more first rfl behind

theorem groupTokens_derive {keys : List String} (some : keys ≠ [])
    (hk : ∀ k ∈ keys, k ≠ "and" ∧ k ≠ "or") : Group (groupTokens keys) keys :=
  .mk rfl (keyTokens_derive some hk) rfl

theorem boundTokens_derive {i : Option Int} (h : ∀ n ∈ i, Number.fitsInt64 n) :
    Bound (boundTokens i) i := by
  cases i with
  | none => exact .none
  | some n => exact .some rfl (Number.int64OfText?_intChars (h n rfl))

theorem Slice.Formed.derives {s : Slice} (h : s.Formed) :
    Derives .step s.tokens ⟨.slice s, 0⟩ := by
  obtain ⟨start, stop, step, nonzero⟩ := h
  have last : SliceStep s.stepTokens s.step := by
    unfold Slice.stepTokens
    cases hs : s.step with
    | none => exact .none
    | some i =>
        refine .some rfl (boundTokens_derive (i := some i) ?_) (hs ▸ nonzero)
        exact hs ▸ step
  exact .bracket rfl (.slice (boundTokens_derive start) rfl (boundTokens_derive stop) last) rfl

theorem Json.IsLiteral.derives {value : Json} (h : value.IsLiteral) :
    Derives .operand [value.token] (.literal value) := by
  cases value with
  | null => exact .keyword (t := lexeme .property "null") rfl
  | bool b =>
      cases b with
      | true => exact .keyword (t := lexeme .property "true") rfl
      | false => exact .keyword (t := lexeme .property "false") rfl
  | number n =>
      cases n with
      | int i => exact .number rfl (Number.ofText?_intChars h)
      | float x => exact .number rfl (Number.ofText?_floatChars x)
  | string s => exact .string (t := lexeme .string s) rfl
  | array _ => exact h.elim
  | object _ => exact h.elim

theorem derives_steps {steps : List Step}
    (h : ∀ s ∈ steps, Derives .step s.node.tokens ⟨s.node.bare, 0⟩) :
    Derives .steps (steps.flatMap fun s => s.node.tokens)
      (steps.map (Step.relocate fun _ => 0)) := by
  induction steps with
  | nil => exact .noSteps
  | cons s rest ih =>
      exact .moreSteps (h s (by simp)) (ih fun r hr => h r (List.mem_cons_of_mem _ hr))

theorem derives_arguments {args : List Node} (some : args ≠ [])
    (h : ∀ arg ∈ args, Derives .argument arg.tokens arg.bare) :
    Derives .arguments (Node.tokensOfAll args) (args.map Node.bare) := by
  induction args with
  | nil => exact absurd rfl some
  | cons arg rest ih =>
      have first := h arg (by simp)
      cases rest with
      | nil => exact .oneArgument first
      | cons next others =>
          have behind := ih (by simp) fun a ha => h a (List.mem_cons_of_mem _ ha)
          exact .moreArguments first rfl behind

/-- A condition that needs no parentheses where conditions are joined. -/
theorem Grammar.Derives.disjunction_of_unary {ts : List Token} {node : Node}
    (h : Derives .unary ts node) : Derives .disjunction ts node := by
  have joined : Derives .disjunction ((ts ++ []) ++ []) node :=
    .disjunction (.conjunction h .noConjuncts) .noDisjuncts
  simpa using joined

theorem derives_condition {op : Connective} {ts us : List Token} {left right : Node}
    (hl : Derives .unary ts left) (hr : Derives .unary us right) :
    Derives .disjunction (ts ++ lexeme op.kind op.symbol :: us) (.condition op left right) := by
  cases op with
  | and =>
      have joined : Derives .disjunction ((ts ++ lexeme .and "&&" :: (us ++ [])) ++ [])
          (.condition .and left right) :=
        .disjunction (.conjunction hl (.moreConjuncts rfl hr .noConjuncts)) .noDisjuncts
      rwa [List.append_nil, List.append_nil] at joined
  | or =>
      have first : Derives .conjunction (ts ++ []) left := .conjunction hl .noConjuncts
      have second : Derives .conjunction (us ++ []) right := .conjunction hr .noConjuncts
      rw [List.append_nil] at first second
      have joined : Derives .disjunction (ts ++ lexeme .or "||" :: (us ++ []))
          (.condition .or left right) :=
        .disjunction first (.moreDisjuncts rfl second .noDisjuncts)
      rwa [List.append_nil] at joined

/-- What the tokens of a node are read as where the node stands. A condition stands next to a
connective or among arguments. -/
def Role.Rereads : Role → Node → Prop
  | .step, n => Derives .step n.tokens ⟨n.bare, 0⟩
  | .operand, n => Derives .operand n.tokens n.bare
  | .condition, n => Derives .unary n.tokens n.bare ∧ Derives .argument n.tokens n.bare
  | .argument, n => Derives .argument n.tokens n.bare

theorem derives_call {name : String} {args : List Node}
    (h : ∀ arg ∈ args, Derives .argument arg.tokens arg.bare) :
    Derives .step (Node.call name args).tokens ⟨.call name (args.map Node.bare), 0⟩ := by
  rw [Node.tokens]
  cases args with
  | nil => exact .dotName rfl (.emptyCall (t := lexeme .property name) rfl rfl rfl)
  | cons arg rest =>
      exact .dotName rfl (.call (t := lexeme .property name) rfl rfl
        (derives_arguments (by simp) h) rfl)

theorem rereads_comparison {op : Comparator} {left right : Node}
    (hl : Derives .operand left.tokens left.bare)
    (hr : Derives .operand right.tokens right.bare) :
    Role.condition.Rereads (.comparison op left right) := by
  simp only [Role.Rereads, Node.tokens, Node.relocate]
  have compared : Derives (.compared left.bare) (lexeme (.comparator op) op.symbol :: right.tokens)
      (.comparison op left.bare right.bare) := .compared rfl hr
  refine ⟨.comparison hl compared, ?_⟩
  have joined := Derives.comparedArgument hl (.continued compared .noConjuncts .noDisjuncts)
  rwa [List.append_nil, List.append_nil] at joined

theorem rereads_condition {op : Connective} {left right : Node}
    (hl : Derives .unary left.tokens left.bare) (hr : Derives .unary right.tokens right.bare) :
    Role.condition.Rereads (.condition op left right) := by
  simp only [Role.Rereads, Node.tokens, Node.relocate]
  have grouped : Derives .unary (lexeme .openParen "(" :: (left.tokens ++
      lexeme op.kind op.symbol :: right.tokens ++ [lexeme .closeParen ")"]))
        (.condition op left.bare right.bare) := .parentheses rfl (derives_condition hl hr) rfl
  refine ⟨grouped, .conditionArgument ?_ grouped.disjunction_of_unary⟩
  cases left.tokens <;> rfl

theorem rereads_not {inner : Node} (h : Derives .unary inner.tokens inner.bare) :
    Role.condition.Rereads (.not inner) := by
  simp only [Role.Rereads, Node.tokens, Node.relocate]
  have grouped : Derives .unary
      (lexeme .openParen "(" :: (inner.tokens ++ [lexeme .closeParen ")"])) inner.bare :=
    .parentheses rfl h.disjunction_of_unary rfl
  have negated : Derives .unary (lexeme .bang "!" :: lexeme .openParen "(" ::
      (inner.tokens ++ [lexeme .closeParen ")"])) (.not inner.bare) :=
    .negation rfl (by decide) grouped
  exact ⟨negated, .conditionArgument rfl negated.disjunction_of_unary⟩

/-- A printed node is read back, positions apart, where its role has it stand. -/
theorem Node.Formed.rereads {role : Role} {n : Node} (h : n.Formed named role)
    (hk : ∀ k ∈ n.keys, k ≠ "and" ∧ k ≠ "or") : role.Rereads n := by
  induction h with
  | @property name =>
      have hn := hk name (by simp [Node.keys])
      simp only [Role.Rereads, Node.tokens, Node.relocate]
      exact derives_property hn.1 hn.2
  | index hi =>
      simp only [Role.Rereads, Node.tokens, Node.relocate]
      have inner : Inner [intToken _] (.index _) := .index rfl (Number.int64OfText?_intChars hi)
      exact .bracket rfl inner rfl
  | slice hs =>
      simp only [Role.Rereads, Node.tokens, Node.relocate]
      exact hs.derives
  | wildcard =>
      simp only [Role.Rereads, Node.tokens, Node.relocate]
      exact .dotStar rfl rfl
  | multiKey some =>
      simp only [Role.Rereads, Node.tokens, Node.relocate]
      exact .group (groupTokens_derive some hk)
  | omission some =>
      simp only [Role.Rereads, Node.tokens, Node.relocate]
      exact .omission rfl (groupTokens_derive some hk)
  | call _ _ ih =>
      simp only [Role.Rereads, Node.relocate, Node.relocateAll_eq_map]
      refine derives_call fun arg ha => ih arg ha fun k h => hk k ?_
      rw [Node.keys, Node.keysOfAll_eq_flatMap]
      exact List.mem_flatMap_of_mem ha h
  | literal hv => exact hv.derives
  | current => exact Derives.fromCurrent (t := lexeme .current "@") rfl .noSteps
  | fromRoot _ ih =>
      have behind := derives_steps fun s hs => ih s hs fun k h => hk k ?_
      · simp only [Role.Rereads, Node.tokens, Node.tokensOfSteps, Node.tokensOfSteps_eq_flatMap,
          Node.relocate, Node.relocateSteps]
        rw [Node.relocateSteps_eq_map]
        exact .fromRoot (t := lexeme .root "$") rfl behind
      · rw [Node.keys, Node.keysOfSteps_eq_flatMap, List.flatMap_cons]
        exact List.mem_append_right _ (List.mem_flatMap_of_mem hs h)
  | fromCurrent some _ ih =>
      have behind := derives_steps fun s hs => ih s hs fun k h => hk k ?_
      · simp only [Role.Rereads, Node.tokens, Node.tokensOfSteps, Node.tokensOfSteps_eq_flatMap,
          Node.relocate, Node.relocateSteps]
        rw [Node.relocateSteps_eq_map]
        obtain ⟨step, rest, rfl⟩ := List.exists_cons_of_ne_nil some
        exact .fromCurrent (t := lexeme .current "@") rfl behind
      · rw [Node.keys, Node.keysOfSteps_eq_flatMap, List.flatMap_cons]
        exact List.mem_append_right _ (List.mem_flatMap_of_mem hs h)
  | comparison _ _ left right =>
      simp only [Node.keys, List.mem_append] at hk
      exact rereads_comparison (left fun k h => hk k (.inl h)) (right fun k h => hk k (.inr h))
  | condition _ _ left right =>
      simp only [Node.keys, List.mem_append] at hk
      exact rereads_condition (left fun k h => hk k (.inl h)).1 (right fun k h => hk k (.inr h)).1
  | not _ inner => exact rereads_not (inner hk).1
  | operandArgument _ operand => exact .operandArgument (operand hk)
  | conditionArgument _ condition => exact (condition hk).2

end

end PathQuery
