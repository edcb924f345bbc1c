import PathQuery.Proofs.Query.Running

/-!
The grammar of queries, as derivations from tokens to trees.

`Derives x ts r` says that the tokens `ts` are a phrase of the kind `x` and that `r` is its tree.
Phrases of all kinds are one inductive family, so that one induction reaches all of them. Joined
conditions lean to the left: what stands behind the first of them is a phrase of its own, indexed
by the tree built so far. Phrases leave out the end token.
-/

namespace PathQuery.Grammar

open PathQuery.Parser

/-! ### Brackets and key groups -/

def isKey (t : Token) : Bool :=
  t.kind == .property || t.kind == .string

/-- Keys with commas between them, each of an admitted kind. -/
inductive Keys (admits : Token → Bool) : List Token → List String → Prop
  | one {t : Token} : admits t → Keys admits [t] [t.text]
  | more {t comma : Token} {ts : List Token} {keys : List String} :
      admits t → comma.kind = .comma → Keys admits ts keys →
        Keys admits (t :: comma :: ts) (t.text :: keys)

/-- `{a, "b c"}`. -/
inductive Group : List Token → List String → Prop
  | mk {opening closing : Token} {ts : List Token} {keys : List String} :
      opening.kind = .openBrace → Keys isKey ts keys → closing.kind = .closeBrace →
        Group (opening :: (ts ++ [closing])) keys

theorem Group.begins {ts : List Token} {keys : List String} (h : Group ts keys) :
    ∃ t u us, ts = t :: u :: us ∧ t.kind = .openBrace := by
  cases h with
  | @mk opening closing ts keys ho hk hc =>
      cases ts with
      | nil => cases hk
      | cons u us => exact ⟨opening, u, us ++ [closing], rfl, ho⟩

/-- An integer, or nothing. -/
inductive Bound : List Token → Option Int → Prop
  | none : Bound [] none
  | some {t : Token} {i : Int} :
      t.kind = .number → Number.int64OfText? t.text = some i → Bound [t] (some i)

inductive SliceStep : List Token → Option Int → Prop
  | none : SliceStep [] none
  | some {colon : Token} {ts : List Token} {step : Option Int} :
      colon.kind = .colon → Bound ts step → step ≠ some 0 → SliceStep (colon :: ts) step

/-- What stands between square brackets. -/
inductive Inner : List Token → Node → Prop
  | star {t : Token} : t.kind = .star → Inner [t] .wildcard
  | key {t : Token} : t.kind = .string → Inner [t] (.property t.text)
  | keys {t comma : Token} {ts : List Token} {keys : List String} :
      t.kind = .string → comma.kind = .comma → Keys (fun u => u.kind == .string) ts keys →
        Inner (t :: comma :: ts) (.multiKey (t.text :: keys))
  | index {t : Token} {i : Int} :
      t.kind = .number → Number.int64OfText? t.text = some i → Inner [t] (.index i)
  | slice {colon : Token} {ts us vs : List Token} {start stop step : Option Int} :
      Bound ts start → colon.kind = .colon → Bound us stop → SliceStep vs step →
        Inner (ts ++ colon :: (us ++ vs)) (.slice ⟨start, stop, step⟩)

/-! ### Phrases -/

/-- Kinds of phrase. `conjuncts` and `disjuncts` go on from the condition to their left, `compared`
and `continued` from the left operand of a comparison. -/
inductive Symbol where
  | steps
  | step
  | named
  | arguments
  | argument
  | operand
  | compared (left : Node)
  | unary
  | conjunction
  | conjuncts (left : Node)
  | disjunction
  | disjuncts (left : Node)
  | continued (left : Node)

abbrev Symbol.Result : Symbol → Type
  | steps => List Step
  | step | named => Step
  | arguments => List Node
  | argument | operand | compared _ | unary | conjunction | conjuncts _ | disjunction | disjuncts _
  | continued _ => Node

/-- A parenthesis, or a bang that opens no omission. -/
def opensCondition : List Token → Bool
  | t :: u :: _ => t.kind == .openParen || (t.kind == .bang && u.kind != .openBrace)
  | _ => false

inductive Derives : (x : Symbol) → List Token → x.Result → Prop
  | noSteps : Derives .steps [] []
  | moreSteps {ts us : List Token} {step : Step} {rest : List Step} :
      Derives .step ts step → Derives .steps us rest → Derives .steps (ts ++ us) (step :: rest)
  | dotName {dot : Token} {ts : List Token} {step : Step} :
      dot.kind = .dot → Derives .named ts step → Derives .step (dot :: ts) step
  | dotString {dot t : Token} :
      dot.kind = .dot → t.kind = .string →
        Derives .step [dot, t] ⟨.property t.text, dot.position⟩
  | dotStar {dot star : Token} :
      dot.kind = .dot → star.kind = .star → Derives .step [dot, star] ⟨.wildcard, dot.position⟩
  | dotGroup {dot : Token} {ts : List Token} {keys : List String} :
      dot.kind = .dot → Group ts keys → Derives .step (dot :: ts) ⟨.multiKey keys, dot.position⟩
  | dotOmission {dot bang : Token} {ts : List Token} {keys : List String} :
      dot.kind = .dot → bang.kind = .bang → Group ts keys →
        Derives .step (dot :: bang :: ts) ⟨.omission keys, dot.position⟩
  | bracket {opening closing : Token} {ts : List Token} {node : Node} :
      opening.kind = .openBracket → Inner ts node → closing.kind = .closeBracket →
        Derives .step (opening :: (ts ++ [closing])) ⟨node, opening.position⟩
  | group {opening : Token} {ts : List Token} {keys : List String} :
      Group (opening :: ts) keys →
        Derives .step (opening :: ts) ⟨.multiKey keys, opening.position⟩
  | omission {bang : Token} {ts : List Token} {keys : List String} :
      bang.kind = .bang → Group ts keys → Derives .step (bang :: ts) ⟨.omission keys, bang.position⟩
  | name {t : Token} : t.kind = .property → Derives .named [t] ⟨.property t.text, t.position⟩
  | emptyCall {t opening closing : Token} :
      t.kind = .property → opening.kind = .openParen → closing.kind = .closeParen →
        Derives .named [t, opening, closing] ⟨.call t.text [], t.position⟩
  | call {t opening closing : Token} {ts : List Token} {args : List Node} :
      t.kind = .property → opening.kind = .openParen → Derives .arguments ts args →
        closing.kind = .closeParen →
          Derives .named (t :: opening :: (ts ++ [closing])) ⟨.call t.text args, t.position⟩
  | oneArgument {ts : List Token} {arg : Node} :
      Derives .argument ts arg → Derives .arguments ts [arg]
  | moreArguments {ts us : List Token} {comma : Token} {arg : Node} {args : List Node} :
      Derives .argument ts arg → comma.kind = .comma → Derives .arguments us args →
        Derives .arguments (ts ++ comma :: us) (arg :: args)
  | operandArgument {ts : List Token} {node : Node} :
      Derives .operand ts node → Derives .argument ts node
  | comparedArgument {ts us : List Token} {left node : Node} :
      Derives .operand ts left → Derives (.continued left) us node →
        Derives .argument (ts ++ us) node
  | conditionArgument {ts : List Token} {node : Node} :
      opensCondition ts → Derives .disjunction ts node → Derives .argument ts node
  | number {t : Token} {n : Number} :
      t.kind = .number → Number.ofText? t.text = some n →
        Derives .operand [t] (.literal (.number n))
  | string {t : Token} : t.kind = .string → Derives .operand [t] (.literal (.string t.text))
  | keyword {t : Token} :
      isKeyword t → Derives .operand [t] (.literal (keywordValue t.text))
  | fromName {t : Token} {ts us : List Token} {step : Step} {rest : List Step} :
      isKeyword t = false → Derives .named (t :: ts) step → Derives .steps us rest →
        Derives .operand (t :: (ts ++ us)) (relative t.position (step :: rest))
  | fromRoot {t : Token} {ts : List Token} {rest : List Step} :
      t.kind = .root → Derives .steps ts rest →
        Derives .operand (t :: ts) (.path (⟨.root, t.position⟩ :: rest))
  | fromCurrent {t : Token} {ts : List Token} {rest : List Step} :
      t.kind = .current → Derives .steps ts rest →
        Derives .operand (t :: ts) (relative t.position rest)
  | fromStep {t : Token} {ts : List Token} {rest : List Step} :
      Derives .steps (t :: ts) rest → Derives .operand (t :: ts) (relative t.position rest)
  | compared {t : Token} {ts : List Token} {op : Comparator} {left right : Node} :
      t.kind = .comparator op → Derives .operand ts right →
        Derives (.compared left) (t :: ts) (.comparison op left right)
  | negation {bang t : Token} {ts : List Token} {node : Node} :
      bang.kind = .bang → t.kind ≠ .openBrace → Derives .unary (t :: ts) node →
        Derives .unary (bang :: t :: ts) (.not node)
  | parentheses {opening closing : Token} {ts : List Token} {node : Node} :
      opening.kind = .openParen → Derives .disjunction ts node → closing.kind = .closeParen →
        Derives .unary (opening :: (ts ++ [closing])) node
  | comparison {ts us : List Token} {left node : Node} :
      Derives .operand ts left → Derives (.compared left) us node → Derives .unary (ts ++ us) node
  | conjunction {ts us : List Token} {left node : Node} :
      Derives .unary ts left → Derives (.conjuncts left) us node →
        Derives .conjunction (ts ++ us) node
  | noConjuncts {left : Node} : Derives (.conjuncts left) [] left
  | moreConjuncts {t : Token} {ts us : List Token} {left right node : Node} :
      t.kind = .and → Derives .unary ts right →
        Derives (.conjuncts (.condition .and left right)) us node →
          Derives (.conjuncts left) (t :: (ts ++ us)) node
  | disjunction {ts us : List Token} {left node : Node} :
      Derives .conjunction ts left → Derives (.disjuncts left) us node →
        Derives .disjunction (ts ++ us) node
  | noDisjuncts {left : Node} : Derives (.disjuncts left) [] left
  | moreDisjuncts {t : Token} {ts us : List Token} {left right node : Node} :
      t.kind = .or → Derives .conjunction ts right →
        Derives (.disjuncts (.condition .or left right)) us node →
          Derives (.disjuncts left) (t :: (ts ++ us)) node
  | continued {ts us vs : List Token} {left first middle node : Node} :
      Derives (.compared left) ts first → Derives (.conjuncts first) us middle →
        Derives (.disjuncts middle) vs node → Derives (.continued left) (ts ++ (us ++ vs)) node

/-! ### What a phrase begins with -/

section

variable {ts us : List Token}

/-- A step mark, or a bang that opens an omission, with at least one token behind. -/
def beginsStep : List Token → Bool
  | t :: u :: _ => startsStep t.kind || (t.kind == .bang && u.kind == .openBrace)
  | _ => false

theorem Derives.begins_named {step : Step} (h : Derives .named ts step) :
    ∃ t us, ts = t :: us ∧ t.kind = .property := by
  cases h with
  | name ht => exact ⟨_, _, rfl, ht⟩
  | emptyCall ht _ _ => exact ⟨_, _, rfl, ht⟩
  | call ht _ _ _ => exact ⟨_, _, rfl, ht⟩

theorem Derives.begins_step {step : Step} (h : Derives .step ts step) : beginsStep ts := by
  cases h with
  | dotName hd hn =>
      obtain ⟨t, us, rfl, -⟩ := hn.begins_named
      simp [beginsStep, hd, startsStep]
  | dotString hd _ => simp [beginsStep, hd, startsStep]
  | dotStar hd _ => simp [beginsStep, hd, startsStep]
  | dotGroup hd hg =>
      obtain ⟨t, u, us, rfl, -⟩ := hg.begins
      simp [beginsStep, hd, startsStep]
  | dotOmission hd _ _ => simp [beginsStep, hd, startsStep]
  | @bracket _ _ ts _ ho _ _ => cases ts <;> simp [beginsStep, ho, startsStep]
  | group hg =>
      obtain ⟨t, u, us, he, hu⟩ := hg.begins
      cases he
      simp [beginsStep, hu, startsStep]
  | omission hb hg =>
      obtain ⟨t, u, us, rfl, hu⟩ := hg.begins
      simp [beginsStep, hb, hu]

theorem beginsStep_cons (h : beginsStep ts) : ∃ t u us, ts = t :: u :: us := by
  unfold beginsStep at h
  split at h
  · exact ⟨_, _, _, rfl⟩
  · cases h

theorem beginsStep_append (h : beginsStep ts) (us : List Token) : beginsStep (ts ++ us) := by
  obtain ⟨t, u, vs, rfl⟩ := beginsStep_cons h
  exact h

/-- Steps are none, or begin with the mark of one. -/
theorem Derives.begins_steps {steps : List Step} (h : Derives .steps ts steps) :
    ts = [] ∧ steps = [] ∨ beginsStep ts ∧ steps ≠ [] := by
  cases h with
  | noSteps => exact .inl ⟨rfl, rfl⟩
  | moreSteps hs _ => exact .inr ⟨beginsStep_append hs.begins_step _, by simp⟩

theorem Derives.begins_compared {left node : Node} (h : Derives (.compared left) ts node) :
    ∃ op t us, ts = t :: us ∧ t.kind = .comparator op := by
  cases h with
  | compared ht _ => exact ⟨_, _, _, rfl, ht⟩

theorem Derives.begins_continued {left node : Node} (h : Derives (.continued left) ts node) :
    ∃ op t us, ts = t :: us ∧ t.kind = .comparator op := by
  cases h with
  | continued hc _ _ =>
      obtain ⟨op, t, us, rfl, ht⟩ := hc.begins_compared
      exact ⟨op, t, _, rfl, ht⟩

theorem isKeyword_kind {t : Token} (h : isKeyword t) : t.kind = .property := by
  simp only [isKeyword, Bool.and_eq_true, beq_iff_eq] at h
  exact h.1

/-- A value, an anchor, a name or a step. -/
def beginsOperand (ts : List Token) : Bool :=
  beginsStep ts || ts.head?.any fun t =>
    t.kind == .number || t.kind == .string || t.kind == .property || t.kind == .root ||
      t.kind == .current

theorem Derives.begins_operand {node : Node} (h : Derives .operand ts node) :
    beginsOperand ts := by
  cases h with
  | number ht _ => simp [beginsOperand, ht]
  | string ht => simp [beginsOperand, ht]
  | keyword ht => simp [beginsOperand, isKeyword_kind ht]
  | fromName _ hn _ =>
      obtain ⟨t, us, he, ht⟩ := hn.begins_named
      cases he
      simp [beginsOperand, ht]
  | fromRoot ht _ => simp [beginsOperand, ht]
  | fromCurrent ht _ => simp [beginsOperand, ht]
  | fromStep hs =>
      rcases hs.begins_steps with ⟨hn, -⟩ | ⟨hb, -⟩
      · cases hn
      · simp [beginsOperand, hb]

/-- A condition has two tokens at least. -/
theorem Derives.begins_unary {node : Node} (h : Derives .unary ts node) :
    ∃ t u us, ts = t :: u :: us := by
  cases h with
  | negation => exact ⟨_, _, _, rfl⟩
  | @parentheses opening closing ts _ _ _ _ => cases ts <;> exact ⟨_, _, _, rfl⟩
  | @comparison ts _ _ _ ho hc =>
      obtain ⟨op, u, us, rfl, -⟩ := hc.begins_compared
      have some := ho.begins_operand
      match ts, some with
      | [t], _ => exact ⟨t, u, us, rfl⟩
      | t :: v :: vs, _ => exact ⟨t, v, vs ++ u :: us, rfl⟩

theorem Derives.begins_disjunction {node : Node} (h : Derives .disjunction ts node) :
    ∃ t u us, ts = t :: u :: us := by
  cases h with
  | disjunction hd _ =>
      cases hd with
      | conjunction hu _ =>
          obtain ⟨t, u, us, rfl⟩ := hu.begins_unary
          exact ⟨t, u, _, rfl⟩

end

/-! ### Whole queries -/

/-- A name at the start, which stands for a step from the root. -/
inductive Head : List Token → List Step → Prop
  | none : Head [] []
  | name {t : Token} {ts : List Token} {step : Step} :
      isKeyword t = false → Derives .named (t :: ts) step → Head (t :: ts) [step]

/-- How a condition that stands alone begins. -/
def opensAlone : List Token → Bool
  | [] => false
  | t :: ts =>
    opensCondition (t :: ts) || t.kind == .number || t.kind == .string || t.kind == .current ||
      isKeyword t

/-- The end of a query behind the steps `path`: a comparison of what they give, or a condition
alone when there are none. -/
inductive Trail (path : List Step) : List Token → Option Node → Prop
  | none : Trail path [] none
  | continued {ts : List Token} {node : Node} :
      Derives (.continued .current) ts node → Trail path ts (some node)
  | alone {ts : List Token} {node : Node} :
      path = [] → opensAlone ts → Derives .disjunction ts node → Trail path ts (some node)

/-- Where the first token stands, or else the end of the query. -/
def start (finish : Nat) (ts : List Token) : Nat :=
  (ts.head?.map Token.position).getD finish

theorem head_position (s : TokenStream) (ts : List Token) :
    (s.prepend ts).head.position = start s.head.position ts := by
  cases ts <;> rfl

/-- A query whose end token stands at `finish`. The root may be written or left out. -/
inductive DerivesQuery (finish : Nat) : List Token → Query → Prop
  | mk {root head path trail : List Token} {first steps : List Step} {condition : Option Node} :
      (root = [] ∨ ∃ t : Token, t.kind = .root ∧ root = [t]) → Head head first →
        Derives .steps path steps → Trail (first ++ steps) trail condition →
          DerivesQuery finish (root ++ (head ++ (path ++ trail)))
            ⟨⟨.root, start finish (root ++ (head ++ (path ++ trail)))⟩ ::
              (first ++ steps ++ condition.toList.map (⟨·, start finish trail⟩))⟩

end PathQuery.Grammar
