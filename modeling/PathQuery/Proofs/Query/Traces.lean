import PathQuery.Proofs.Query.Spelling

/-!
Tokens that leave a trace in the tree. Each anchor `@` and each connective of a phrase is a node of
its tree, and a tree has no more connectives than that. So a text whose keys are taken for
connectives, or whose `@` follows a path, is not read as the tree it was printed from.
-/

namespace PathQuery

open Grammar

def Token.Kind.leavesTrace : Token.Kind → Bool
  | current | and | or => true
  | _ => false

def countTraces (ts : List Token) : Nat :=
  ts.countP fun t => t.kind.leavesTrace

@[simp] theorem countTraces_nil : countTraces [] = 0 := rfl

@[simp] theorem countTraces_append (ts us : List Token) :
    countTraces (ts ++ us) = countTraces ts + countTraces us :=
  List.countP_append

@[simp] theorem countTraces_cons (t : Token) (ts : List Token) :
    countTraces (t :: ts) = countTraces ts + if t.kind.leavesTrace then 1 else 0 :=
  List.countP_cons ..

/-- Keys that are scanned as connectives unless they are quoted. -/
def isConnectiveWord (key : String) : Bool :=
  key == "and" || key == "or"

mutual

/-- How many current values and connectives there are, at any depth. -/
def Node.traces : Node → Nat
  | .current => 1
  | .call _ args => Node.tracesOfAll args
  | .comparison _ left right => left.traces + right.traces
  | .condition _ left right => left.traces + right.traces + 1
  | .not inner => inner.traces
  | .path steps => Node.tracesOfSteps steps
  | .root | .property _ | .index _ | .slice _ | .wildcard | .multiKey _ | .omission _
  | .literal _ => 0

def Node.tracesOfAll : List Node → Nat
  | [] => 0
  | n :: rest => n.traces + Node.tracesOfAll rest

def Node.tracesOfSteps : List Step → Nat
  | [] => 0
  | ⟨n, _⟩ :: rest => n.traces + Node.tracesOfSteps rest

end

namespace Grammar

variable {ts : List Token}

def Symbol.traces : (x : Symbol) → x.Result → Nat
  | .steps, rest => Node.tracesOfSteps rest
  | .step, s | .named, s => s.node.traces
  | .arguments, args => Node.tracesOfAll args
  | .argument, node | .operand, node | .compared _, node | .unary, node | .conjunction, node
  | .conjuncts _, node | .disjunction, node | .disjuncts _, node | .continued _, node =>
    node.traces

/-- The traces of the tree to the left, in phrases that go on from one. -/
def Symbol.tracesBefore : Symbol → Nat
  | .compared left | .conjuncts left | .disjuncts left | .continued left => left.traces
  | _ => 0

theorem Keys.no_traces {admits : Token → Bool} {keys : List String} (h : Keys admits ts keys)
    (ha : ∀ t, admits t → t.kind.leavesTrace = false) : countTraces ts = 0 := by
  induction h with
  | one ht => simp [ha _ ht]
  | more ht hc _ ih =>
      simp only [countTraces_cons, ha _ ht, hc, ih]
      rfl

theorem Group.no_traces {keys : List String} (h : Group ts keys) : countTraces ts = 0 := by
  cases h with
  | mk ho hk hc =>
      have keys := hk.no_traces fun t ht => by
        simp only [isKey, Bool.or_eq_true, beq_iff_eq] at ht
        rcases ht with ht | ht <;> simp [Token.Kind.leavesTrace, ht]
      simp [keys, ho, hc, Token.Kind.leavesTrace]

theorem Bound.no_traces {i : Option Int} (h : Bound ts i) : countTraces ts = 0 := by
  cases h with
  | none => rfl
  | some ht _ => simp [ht, Token.Kind.leavesTrace]

theorem SliceStep.no_traces {i : Option Int} (h : SliceStep ts i) : countTraces ts = 0 := by
  cases h with
  | none => rfl
  | some hc hi _ => simp [hc, hi.no_traces, Token.Kind.leavesTrace]

theorem Inner.no_traces {node : Node} (h : Inner ts node) :
    countTraces ts = 0 ∧ node.traces = 0 := by
  cases h with
  | star ht | key ht | index ht _ => simp [ht, Token.Kind.leavesTrace, Node.traces]
  | keys ht hc hk =>
      have keys := hk.no_traces fun t ht => by
        simp only [beq_iff_eq] at ht
        simp [ht, Token.Kind.leavesTrace]
      simp [ht, hc, keys, Token.Kind.leavesTrace, Node.traces]
  | slice ha hc hb hs =>
      simp [ha.no_traces, hc, hb.no_traces, hs.no_traces, Token.Kind.leavesTrace, Node.traces]

theorem traces_relative (position : Nat) (steps : List Step) :
    (Parser.relative position steps).traces = Node.tracesOfSteps steps + 1 := by
  cases steps with
  | nil => rfl
  | cons s rest =>
      have path : Parser.relative position (s :: rest) =
          .path (⟨.current, position⟩ :: s :: rest) := rfl
      rw [path, Node.traces, Node.tracesOfSteps, Node.traces, Nat.add_comm]

/-- Tokens that leave a trace are in the tree. -/
theorem Derives.traces_le {x : Symbol} {r : x.Result} (h : Derives x ts r) :
    countTraces ts + x.tracesBefore ≤ x.traces r := by
  induction h with
  | noSteps => exact Nat.le_refl 0
  | moreSteps _ _ first others =>
      simp only [Symbol.traces, Symbol.tracesBefore, countTraces_append, Node.tracesOfSteps] at *
      omega
  | dotName hd _ ih =>
      simpa [hd, Token.Kind.leavesTrace, Symbol.traces, Symbol.tracesBefore] using ih
  | dotString hd ht => simp [hd, ht, Token.Kind.leavesTrace, Symbol.tracesBefore]
  | dotStar hd ht => simp [hd, ht, Token.Kind.leavesTrace, Symbol.tracesBefore]
  | dotGroup hd hg => simp [hd, hg.no_traces, Token.Kind.leavesTrace, Symbol.tracesBefore]
  | dotOmission hd hb hg =>
      simp [hd, hb, hg.no_traces, Token.Kind.leavesTrace, Symbol.tracesBefore]
  | bracket ho hi hc =>
      simp [ho, hi.no_traces.1, hc, Token.Kind.leavesTrace, Symbol.tracesBefore]
  | group hg => simp only [hg.no_traces, Symbol.tracesBefore, Nat.zero_le, Nat.add_zero]
  | omission hb hg => simp [hb, hg.no_traces, Token.Kind.leavesTrace, Symbol.tracesBefore]
  | name ht => simp [ht, Token.Kind.leavesTrace, Symbol.tracesBefore]
  | emptyCall ht ho hc => simp [ht, ho, hc, Token.Kind.leavesTrace, Symbol.tracesBefore]
  | call ht ho _ hc ih =>
      simpa [ht, ho, hc, Token.Kind.leavesTrace, Symbol.traces, Symbol.tracesBefore, Node.traces]
        using ih
  | oneArgument _ ih => simpa [Symbol.traces, Symbol.tracesBefore, Node.tracesOfAll] using ih
  | moreArguments _ hc _ first others =>
      simp only [Symbol.traces, Symbol.tracesBefore, countTraces_append, countTraces_cons,
        Node.tracesOfAll, hc, Token.Kind.leavesTrace] at *
      simp only [Bool.false_eq_true, if_false]
      omega
  | operandArgument _ ih => exact ih
  | comparedArgument _ _ left node =>
      simp only [Symbol.traces, Symbol.tracesBefore, countTraces_append] at *
      omega
  | conditionArgument _ _ ih => exact ih
  | number ht _ => simp [ht, Token.Kind.leavesTrace, Symbol.tracesBefore]
  | string ht => simp [ht, Token.Kind.leavesTrace, Symbol.tracesBefore]
  | keyword ht => simp [isKeyword_kind ht, Token.Kind.leavesTrace, Symbol.tracesBefore]
  | fromName _ _ _ first others =>
      simp only [Symbol.traces, Symbol.tracesBefore, ← List.cons_append, countTraces_append,
        traces_relative, Node.tracesOfSteps] at *
      omega
  | fromRoot ht _ ih =>
      simpa [ht, Token.Kind.leavesTrace, Symbol.traces, Symbol.tracesBefore, Node.traces,
        Node.tracesOfSteps] using ih
  | fromCurrent ht _ ih =>
      simpa [ht, Token.Kind.leavesTrace, Symbol.traces, Symbol.tracesBefore, traces_relative]
        using ih
  | fromStep _ ih =>
      simp only [Symbol.traces, Symbol.tracesBefore, traces_relative] at *
      omega
  | compared ht _ ih =>
      simp only [Symbol.traces, Symbol.tracesBefore, countTraces_cons, Node.traces, ht,
        Token.Kind.leavesTrace] at *
      simp only [Bool.false_eq_true, if_false]
      omega
  | negation hb _ _ ih =>
      simpa [hb, Token.Kind.leavesTrace, Symbol.traces, Symbol.tracesBefore, Node.traces] using ih
  | parentheses ho _ hc ih =>
      simpa [ho, hc, Token.Kind.leavesTrace, Symbol.traces, Symbol.tracesBefore] using ih
  | comparison _ _ left node | conjunction _ _ left node | disjunction _ _ left node =>
      simp only [Symbol.traces, Symbol.tracesBefore, countTraces_append] at *
      omega
  | noConjuncts | noDisjuncts => simp [Symbol.traces, Symbol.tracesBefore]
  | moreConjuncts ht _ _ right node | moreDisjuncts ht _ _ right node =>
      simp only [Symbol.traces, Symbol.tracesBefore, countTraces_append, countTraces_cons,
        Node.traces, ht, Token.Kind.leavesTrace, if_true] at *
      omega
  | continued _ _ _ compared joined node =>
      simp only [Symbol.traces, Symbol.tracesBefore, countTraces_append] at *
      omega

theorem Head.traces_le {first : List Step} (h : Head ts first) :
    countTraces ts ≤ Node.tracesOfSteps first := by
  cases h with
  | none => exact Nat.le_refl 0
  | name _ hn => exact hn.traces_le

theorem tracesOfSteps_append (steps others : List Step) :
    Node.tracesOfSteps (steps ++ others) =
      Node.tracesOfSteps steps + Node.tracesOfSteps others := by
  induction steps with
  | nil => exact (Nat.zero_add _).symm
  | cons s rest ih =>
      obtain ⟨n, position⟩ := s
      rw [List.cons_append, Node.tracesOfSteps, Node.tracesOfSteps, ih, Nat.add_assoc]

/-- The traces of a query are those of its tokens, and one more for a condition that goes on from a
path. -/
theorem DerivesQuery.traces_le {finish : Nat} {q : Query} (h : DerivesQuery finish ts q) :
    countTraces ts ≤ Node.tracesOfSteps q.steps ∧
      (q.isPredicate → q.steps.length = 2 ∨ countTraces ts < Node.tracesOfSteps q.steps) := by
  cases h with
  | @mk root head path trail first steps condition hr hh hp ht =>
      have noTrace : countTraces root = 0 := by
        rcases hr with rfl | ⟨t, ht, rfl⟩
        · rfl
        · simp [ht, Token.Kind.leavesTrace]
      have inHead := hh.traces_le
      have inPath : countTraces path ≤ Node.tracesOfSteps steps := hp.traces_le
      simp only [countTraces_append, Node.tracesOfSteps, tracesOfSteps_append, Node.traces]
      cases ht with
      | none =>
          have noCondition : ∀ c ∈ (none : Option Node), c.Formed (fun _ => True) .condition := by
            simp
          have formed : ∀ s ∈ first ++ steps, s.node.Formed (fun _ => True) .step := by
            intro s hs
            rcases List.mem_append.1 hs with hs | hs
            · exact hh.formed (fun _ _ _ => trivial) s hs
            · exact hp.formed (fun _ _ _ => trivial) s hs
          refine ⟨?_, fun predicate => ?_⟩
          · simp only [countTraces_nil]
            omega
          · rw [Query.isPredicate, condition?_formed _ _ formed noCondition] at predicate
            cases predicate
      | @continued ts node hc =>
          -- the subject of the first comparison is a node without a token
          have inTrail : countTraces trail + 1 ≤ node.traces := hc.traces_le
          simp only [Option.toList_some, List.map_cons, List.map_nil, Node.tracesOfSteps]
          exact ⟨by omega, fun _ => .inr (by omega)⟩
      | @alone ts node he _ hc =>
          have inTrail : countTraces trail ≤ node.traces := hc.traces_le
          simp only [Option.toList_some, List.map_cons, List.map_nil, Node.tracesOfSteps]
          refine ⟨by omega, fun _ => .inl ?_⟩
          rw [he]
          rfl

end Grammar

/-! ### Traces of printed trees -/

theorem keyToken_leavesTrace (key : String) :
    (keyToken key).kind.leavesTrace = isConnectiveWord key := by
  by_cases ha : key = "and"
  · subst ha
    decide
  by_cases ho : key = "or"
  · subst ho
    decide
  have word : isConnectiveWord key = false := by simp [isConnectiveWord, ha, ho]
  rw [word]
  rcases keyToken_kind ha ho with h | h <;> rw [h] <;> rfl

theorem traces_keyTokens (keys : List String) :
    countTraces (keyTokens keys) = keys.countP isConnectiveWord := by
  induction keys with
  | nil => rfl
  | cons key rest ih =>
      cases rest with
      | nil => simp [keyTokens, keyToken_leavesTrace, List.countP_cons]
      | cons next others =>
          have tokens : keyTokens (key :: next :: others) =
              keyToken key :: lexeme .comma "," :: keyTokens (next :: others) := rfl
          rw [tokens, countTraces_cons, countTraces_cons, ih, keyToken_leavesTrace,
            @List.countP_cons _ _ key]
          rfl

theorem traces_groupTokens (keys : List String) :
    countTraces (groupTokens keys) = keys.countP isConnectiveWord := by
  simp [groupTokens, traces_keyTokens, lexeme, Token.Kind.leavesTrace]

theorem traces_slice (s : Slice) : countTraces s.tokens = 0 := by
  have bound (i : Option Int) : countTraces (boundTokens i) = 0 := by
    cases i <;> simp [boundTokens, intToken, lexeme, Token.Kind.leavesTrace]
  have step : countTraces s.stepTokens = 0 := by
    unfold Slice.stepTokens
    cases s.step <;> simp [intToken, lexeme, Token.Kind.leavesTrace]
  simp [Slice.tokens, bound, step, lexeme, Token.Kind.leavesTrace]

theorem traces_literal (value : Json) : value.token.kind.leavesTrace = false := by
  cases value <;> rfl

/-- How many tokens of a printed tree are anchors or read as connectives. -/
def Node.Counted (n : Node) : Prop :=
  countTraces n.tokens = (n.relocate fun _ => 0).traces + n.keys.countP isConnectiveWord

theorem counted_steps {steps : List Step} (h : ∀ s ∈ steps, s.node.Counted) :
    countTraces (steps.flatMap fun s => s.node.tokens) =
      Node.tracesOfSteps (steps.map (Step.relocate fun _ => 0)) +
        (steps.flatMap fun s => s.node.keys).countP isConnectiveWord := by
  induction steps with
  | nil => rfl
  | cons s rest ih =>
      have first := h s (by simp)
      have others := ih fun r hr => h r (List.mem_cons_of_mem _ hr)
      unfold Node.Counted at first
      rw [List.flatMap_cons, List.flatMap_cons, List.map_cons, countTraces_append,
        List.countP_append, Step.relocate, Node.tracesOfSteps]
      omega

theorem counted_arguments {args : List Node} (h : ∀ arg ∈ args, arg.Counted) :
    countTraces (Node.tokensOfAll args) =
      Node.tracesOfAll (args.map (Node.relocate fun _ => 0)) +
        (args.flatMap Node.keys).countP isConnectiveWord := by
  induction args with
  | nil => rfl
  | cons arg rest ih =>
      have first := h arg (by simp)
      have others := ih fun a ha => h a (List.mem_cons_of_mem _ ha)
      unfold Node.Counted at first
      have tokens : countTraces (Node.tokensOfAll (arg :: rest)) =
          countTraces arg.tokens + countTraces (Node.tokensOfAll rest) := by
        cases rest with
        | nil => rfl
        | cons next rest => simp [Node.tokensOfAll, lexeme, Token.Kind.leavesTrace]
      rw [List.flatMap_cons, List.map_cons, List.countP_append, Node.tracesOfAll, tokens]
      omega

theorem Node.Formed.counted {named : String → Prop} {role : Role} {n : Node}
    (h : n.Formed named role) : n.Counted := by
  induction h with
  | @property name =>
      rw [Node.Counted, Node.tokens, countTraces_cons, countTraces_cons, keyToken_leavesTrace,
        Node.keys, List.countP_singleton, countTraces_nil]
      rfl
  | index _ =>
      simp [Node.Counted, Node.tokens, Node.relocate, Node.traces, Node.keys, intToken, lexeme,
        Token.Kind.leavesTrace]
  | slice _ => simp [Node.Counted, Node.tokens, Node.relocate, Node.traces, Node.keys, traces_slice]
  | wildcard =>
      simp [Node.Counted, Node.tokens, Node.relocate, Node.traces, Node.keys, lexeme,
        Token.Kind.leavesTrace]
  | multiKey _ =>
      simp [Node.Counted, Node.tokens, Node.relocate, Node.traces, Node.keys, traces_groupTokens]
  | omission _ =>
      simp [Node.Counted, Node.tokens, Node.relocate, Node.traces, Node.keys, traces_groupTokens,
        lexeme, Token.Kind.leavesTrace]
  | call _ _ ih =>
      have args := counted_arguments ih
      simp [Node.Counted, Node.tokens, Node.relocate, Node.traces, Node.keys, args, lexeme,
        Token.Kind.leavesTrace]
  | literal _ =>
      simp [Node.Counted, Node.tokens, Node.relocate, Node.traces, Node.keys, traces_literal]
  | current => rfl
  | fromRoot _ ih =>
      have behind := counted_steps ih
      simp [Node.Counted, Node.tokens, Node.tokensOfSteps, Node.relocate, Step.relocate,
        Node.traces, Node.tracesOfSteps, Node.keys, behind, lexeme, Token.Kind.leavesTrace]
  | fromCurrent _ _ ih =>
      have behind := counted_steps ih
      simp [Node.Counted, Node.tokens, Node.tokensOfSteps, Node.relocate, Step.relocate,
        Node.traces, Node.tracesOfSteps, Node.keys, behind, lexeme, Token.Kind.leavesTrace]
      omega
  | comparison _ _ left right =>
      simp only [Node.Counted, Node.tokens, Node.relocate, Node.traces, Node.keys,
        List.countP_append, countTraces_append, countTraces_cons, lexeme,
        Token.Kind.leavesTrace] at *
      simp only [Bool.false_eq_true, if_false]
      omega
  | @condition op _ _ _ _ left right =>
      have connective : op.kind.leavesTrace = true := by cases op <;> rfl
      simp only [Node.Counted, Node.tokens, Node.relocate, Node.traces, Node.keys,
        List.countP_append, countTraces_append, countTraces_cons, countTraces_nil, lexeme,
        connective, if_true] at *
      simp only [Token.Kind.leavesTrace, Bool.false_eq_true, if_false]
      omega
  | not _ inner =>
      simpa [Node.Counted, Node.tokens, Node.relocate, Node.traces, Node.keys, lexeme,
        Token.Kind.leavesTrace] using inner
  | operandArgument _ operand => exact operand
  | conditionArgument _ condition => exact condition

theorem Query.Formed.counted {named : String → Prop} {q : Query} (h : q.Formed named) :
    countTraces q.tokens =
      Node.tracesOfSteps q.bare.steps + q.keys.countP isConnectiveWord := by
  refine counted_steps fun s hs => ?_
  cases h with
  | mk hp hc =>
      rcases List.mem_cons.1 hs with rfl | hs
      · rfl
      rcases List.mem_append.1 hs with hs | hs
      · exact (hp s hs).counted
      · obtain ⟨c, hm, rfl⟩ := List.mem_map.1 hs
        exact (hc c (Option.mem_toList.1 hm)).counted

end PathQuery
