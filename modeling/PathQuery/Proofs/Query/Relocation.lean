import PathQuery.Proofs.Query.Running

/-!
The parser never looks at a position. Moving the positions of all tokens moves those of the answer,
of the fault and of the tokens left in the same way, and changes nothing else.
-/

namespace PathQuery

variable (f : Nat → Nat)

/-! ### Moving positions -/

def Token.relocate (t : Token) : Token :=
  { t with position := f t.position }

mutual

def Node.relocate : Node → Node
  | .call name args => .call name (Node.relocateAll args)
  | .comparison op left right => .comparison op left.relocate right.relocate
  | .condition op left right => .condition op left.relocate right.relocate
  | .not inner => .not inner.relocate
  | .path steps => .path (Node.relocateSteps steps)
  | .root => .root
  | .current => .current
  | .property name => .property name
  | .index i => .index i
  | .slice s => .slice s
  | .wildcard => .wildcard
  | .multiKey keys => .multiKey keys
  | .omission keys => .omission keys
  | .literal value => .literal value

def Node.relocateAll : List Node → List Node
  | [] => []
  | n :: rest => n.relocate :: Node.relocateAll rest

def Node.relocateSteps : List Step → List Step
  | [] => []
  | ⟨n, position⟩ :: rest => ⟨n.relocate, f position⟩ :: Node.relocateSteps rest

end

def Step.relocate (s : Step) : Step :=
  ⟨s.node.relocate f, f s.position⟩

@[simp] theorem Node.relocateAll_eq_map (ns : List Node) :
    Node.relocateAll f ns = ns.map (Node.relocate f) := by
  induction ns with
  | nil => rfl
  | cons n rest ih => rw [Node.relocateAll, List.map_cons, ih]

@[simp] theorem Node.relocateSteps_eq_map (steps : List Step) :
    Node.relocateSteps f steps = steps.map (Step.relocate f) := by
  induction steps with
  | nil => rfl
  | cons s rest ih =>
      obtain ⟨n, position⟩ := s
      rw [Node.relocateSteps, List.map_cons, ih]
      rfl

def Query.relocate (q : Query) : Query :=
  ⟨q.steps.map (Step.relocate f)⟩

def SyntaxFault.relocate : SyntaxFault → SyntaxFault
  | .expected what got => .expected what (got.relocate f)
  | fault => fault

def SyntaxError.relocate (e : SyntaxError) : SyntaxError :=
  ⟨e.fault.relocate f, f e.position⟩

def TokenStream.relocate (s : TokenStream) : TokenStream :=
  ⟨s.rest.map (Token.relocate f), f s.finish⟩

@[simp] theorem TokenStream.ahead_relocate (s : TokenStream) (n : Nat) :
    (s.relocate f).ahead n = (s.ahead n).relocate f := by
  simp only [TokenStream.ahead, TokenStream.relocate, List.getElem?_map]
  cases s.rest[n]? <;> rfl

@[simp] theorem TokenStream.head_relocate (s : TokenStream) :
    (s.relocate f).head = s.head.relocate f :=
  s.ahead_relocate f 0

theorem TokenStream.tail_relocate (s : TokenStream) : (s.relocate f).tail = s.tail.relocate f := by
  obtain ⟨rest, finish⟩ := s
  cases rest <;> rfl

namespace Parser

variable {α β γ δ : Type}

/-- What `p'` does with the moved positions is what `p` does, moved. Answers are moved by `g`. -/
def Moves (g : α → β) (p : Parser α) (p' : Parser β) : Prop :=
  ∀ s : TokenStream, p' (s.relocate f) =
    match p s with
    | .ok a s' => .ok (g a) (s'.relocate f)
    | .error e s' => .error (e.relocate f) (s'.relocate f)

variable {f} {g : α → β} {k : γ → δ}

theorem moves_pure {a : α} {b : β} (h : b = g a) : Moves f g (pure a) (pure b) := by
  intro s
  rw [h]
  rfl

theorem moves_bind {p : Parser α} {p' : Parser β} {q : α → Parser γ} {q' : β → Parser δ}
    (hp : Moves f g p p') (hq : ∀ a, Moves f k (q a) (q' (g a))) :
    Moves f k (p >>= q) (p' >>= q') := by
  intro s
  rw [bind_run, bind_run, hp s]
  cases p s with
  | ok a m => exact hq a m
  | error e m => rfl

theorem moves_ite {c : Prop} [Decidable c] {p q : Parser α} {p' q' : Parser β}
    (hp : c → Moves f g p p') (hq : ¬c → Moves f g q q') :
    Moves f g (if c then p else q) (if c then p' else q') := by
  split
  · exact hp ‹_›
  · exact hq ‹_›

theorem moves_peek : Moves f (Token.relocate f) peek peek := by
  intro s
  simp

theorem moves_get : Moves f (TokenStream.relocate f) get get := fun _ => rfl

theorem moves_advance : Moves f (Token.relocate f) advance advance := by
  intro s
  simp [TokenStream.tail_relocate]

theorem moves_check (kind : Token.Kind) : Moves f id (check kind) (check kind) := by
  intro s
  simp [Token.relocate]

theorem moves_atOmission : Moves f id atOmission atOmission := by
  intro s
  simp [TokenStream.omissionAhead, Token.relocate]

theorem moves_atNegation : Moves f id atNegation atNegation := by
  intro s
  simp [TokenStream.negationAhead, TokenStream.omissionAhead, Token.relocate]

theorem moves_atStep : Moves f id atStep atStep := by
  intro s
  simp [TokenStream.omissionAhead, Token.relocate]

theorem moves_failAt (g : α → β) (position : Nat) {fault fault' : SyntaxFault}
    (h : fault' = fault.relocate f) :
    Moves f g (failAt position fault) (failAt (f position) fault') := by
  intro s
  rw [h]
  rfl

theorem moves_unexpected (g : α → β) (what : String) :
    Moves f g (unexpected what) (unexpected what) := by
  intro s
  simp [SyntaxError.relocate, SyntaxFault.relocate, Token.relocate]

theorem moves_tooDeep (g : α → β) : Moves f g tooDeep tooDeep := by
  intro s
  simp [SyntaxError.relocate, SyntaxFault.relocate, Token.relocate]

theorem moves_discard {p : Parser α} {p' : Parser β} (hp : Moves f g p p') :
    Moves f id (discard p : Parser Unit) (discard p') := by
  intro s
  rw [discard_run, discard_run, hp s]
  cases p s <;> rfl

theorem moves_expect (kind : Token.Kind) :
    Moves f (Token.relocate f) (expect kind) (expect kind) :=
  moves_bind (moves_check kind) fun _ => moves_ite (fun _ => moves_advance)
    fun _ => moves_unexpected _ _

/-! ### Brackets and key groups -/

theorem moves_quotedKeys (fuel : Nat) : Moves f id (quotedKeys fuel) (quotedKeys fuel) := by
  induction fuel with
  | zero => exact moves_pure rfl
  | succ fuel ih =>
      unfold quotedKeys
      refine moves_bind (moves_check _) fun _ => moves_ite (fun _ => ?_) fun _ => moves_pure rfl
      refine moves_bind (moves_discard moves_advance) fun _ => ?_
      exact moves_bind (moves_expect _) fun _ => moves_bind ih fun _ => moves_pure rfl

theorem moves_integer? : Moves f id integer? integer? := by
  refine moves_bind (moves_check _) fun _ => moves_ite (fun _ => ?_) fun _ => moves_pure rfl
  refine moves_bind moves_advance fun t => ?_
  rw [Token.relocate]
  cases Number.int64OfText? t.text with
  | none => exact moves_failAt _ _ rfl
  | some n => exact moves_pure rfl

theorem moves_sliceStep : Moves f id sliceStep sliceStep := by
  refine moves_bind (moves_check _) fun _ => moves_ite (fun _ => ?_) fun _ => moves_pure rfl
  refine moves_bind (moves_discard moves_advance) fun _ => moves_bind moves_peek fun _ => ?_
  refine moves_bind moves_integer? fun _ => ?_
  exact moves_ite (fun _ => moves_failAt _ _ rfl) fun _ => moves_pure rfl

theorem moves_indexOrSlice : Moves f (Node.relocate f) indexOrSlice indexOrSlice := by
  refine moves_bind moves_integer? fun start => ?_
  refine moves_bind (moves_check _) fun _ => moves_ite (fun _ => ?_) fun _ => ?_
  · refine moves_bind (moves_discard moves_advance) fun _ => moves_bind moves_integer? fun _ => ?_
    refine moves_bind moves_sliceStep fun _ => ?_
    exact moves_bind (moves_discard (moves_expect _)) fun _ => moves_pure rfl
  · refine moves_bind (moves_discard (moves_expect _)) fun _ => ?_
    cases start with
    | none => exact moves_unexpected _ _
    | some i => exact moves_pure rfl

theorem moves_bracket : Moves f (Node.relocate f) bracket bracket := by
  refine moves_bind (moves_expect _) fun opening => moves_bind moves_peek ?_
  rintro ⟨kind, text, position⟩
  cases kind
  case star =>
    refine moves_bind (moves_discard moves_advance) fun _ => ?_
    exact moves_bind (moves_discard (moves_expect _)) fun _ => moves_pure rfl
  case string =>
    refine moves_bind moves_advance fun key => moves_bind moves_get fun s => ?_
    have length : (s.relocate f).rest.length = s.rest.length := List.length_map _
    rw [length]
    refine moves_bind (moves_quotedKeys _) fun keys => ?_
    refine moves_bind (moves_discard (moves_expect _)) fun _ => moves_pure ?_
    cases keys <;> rfl
  case number => exact moves_indexOrSlice
  case colon => exact moves_indexOrSlice
  case closeBracket => exact moves_failAt _ _ rfl
  all_goals exact moves_unexpected _ _

theorem moves_groupKeys (fuel : Nat) : Moves f id (groupKeys fuel) (groupKeys fuel) := by
  induction fuel with
  | zero => exact moves_unexpected _ _
  | succ fuel ih =>
      have key : Moves f id (do
          let key ← advance
          if ← check .comma then
            discard advance
            return key.text :: (← groupKeys fuel)
          else return [key.text]) (do
          let key ← advance
          if ← check .comma then
            discard advance
            return key.text :: (← groupKeys fuel)
          else return [key.text]) := by
        refine moves_bind moves_advance fun _ => moves_bind (moves_check _) fun _ => ?_
        refine moves_ite (fun _ => ?_) fun _ => moves_pure rfl
        refine moves_bind (moves_discard moves_advance) fun _ => ?_
        exact moves_bind ih fun _ => moves_pure rfl
      unfold groupKeys
      refine moves_bind moves_peek ?_
      rintro ⟨kind, text, position⟩
      cases kind
      case property => exact key
      case string => exact key
      all_goals exact moves_unexpected _ _

theorem moves_keyGroup : Moves f id keyGroup keyGroup := by
  refine moves_bind (moves_expect _) fun _ => moves_bind (moves_check _) fun _ => ?_
  refine moves_ite (fun _ => moves_failAt _ _ rfl) fun _ => moves_bind moves_get fun s => ?_
  have length : (s.relocate f).rest.length = s.rest.length := List.length_map _
  rw [length]
  refine moves_bind (moves_groupKeys _) fun _ => ?_
  exact moves_bind (moves_discard (moves_expect _)) fun _ => moves_pure rfl

theorem moves_omissionGroup : Moves f (Node.relocate f) omissionGroup omissionGroup :=
  moves_bind (moves_discard moves_advance) fun _ => moves_bind moves_keyGroup fun _ =>
    moves_pure rfl

/-! ### Paths, arguments and conditions -/

theorem moves_numberLiteral (t : Token) :
    Moves f (Node.relocate f) (numberLiteral t) (numberLiteral (t.relocate f)) := by
  unfold numberLiteral
  rw [Token.relocate]
  cases Number.ofText? t.text with
  | none => exact moves_failAt _ _ rfl
  | some n => exact moves_pure rfl

theorem relative_relocate (position : Nat) (steps : List Step) :
    relative (f position) (steps.map (Step.relocate f)) = (relative position steps).relocate f := by
  cases steps with
  | nil => rfl
  | cons step rest => simp [relative, Node.relocate, Step.relocate]

/-- With this fuel, all productions move with their tokens. -/
structure Moving (f : Nat → Nat) (fuel : Nat) : Prop where
  steps : Moves f (List.map (Step.relocate f)) (steps fuel) (steps fuel)
  afterDot (position : Nat) :
    Moves f (Step.relocate f) (afterDot fuel position) (afterDot fuel (f position))
  namedStep : Moves f (Step.relocate f) (namedStep fuel) (namedStep fuel)
  arguments : Moves f (List.map (Node.relocate f)) (arguments fuel) (arguments fuel)
  argument : Moves f (Node.relocate f) (argument fuel) (argument fuel)
  disjunction (subject : Option Node) : Moves f (Node.relocate f) (disjunction fuel subject)
    (disjunction fuel (subject.map (Node.relocate f)))
  disjuncts (left : Node) :
    Moves f (Node.relocate f) (disjuncts fuel left) (disjuncts fuel (left.relocate f))
  conjunction (subject : Option Node) : Moves f (Node.relocate f) (conjunction fuel subject)
    (conjunction fuel (subject.map (Node.relocate f)))
  conjuncts (left : Node) :
    Moves f (Node.relocate f) (conjuncts fuel left) (conjuncts fuel (left.relocate f))
  unary (subject : Option Node) : Moves f (Node.relocate f) (unary fuel subject)
    (unary fuel (subject.map (Node.relocate f)))
  comparison (left : Node) :
    Moves f (Node.relocate f) (comparison fuel left) (comparison fuel (left.relocate f))
  operand : Moves f (Node.relocate f) (operand fuel) (operand fuel)

theorem moves_steps {fuel : Nat} (ih : Moving f fuel) :
    Moves f (List.map (Step.relocate f)) (steps (fuel + 1)) (steps (fuel + 1)) := by
  unfold steps
  refine moves_bind moves_peek ?_
  rintro ⟨kind, text, position⟩
  cases kind
  case dot =>
    refine moves_bind (moves_discard moves_advance) fun _ => ?_
    refine moves_bind (ih.afterDot position) fun _ => ?_
    exact moves_bind ih.steps fun _ => moves_pure rfl
  case openBracket =>
    exact moves_bind moves_bracket fun _ => moves_bind ih.steps fun _ => moves_pure rfl
  case openBrace =>
    exact moves_bind moves_keyGroup fun _ => moves_bind ih.steps fun _ => moves_pure rfl
  case bang =>
    refine moves_bind moves_atOmission fun _ => moves_ite (fun _ => ?_) fun _ => moves_pure rfl
    exact moves_bind moves_omissionGroup fun _ => moves_bind ih.steps fun _ => moves_pure rfl
  all_goals exact moves_pure rfl

theorem moves_afterDot {fuel : Nat} (ih : Moving f fuel) (position : Nat) :
    Moves f (Step.relocate f) (afterDot (fuel + 1) position)
      (afterDot (fuel + 1) (f position)) := by
  unfold afterDot
  refine moves_bind moves_peek ?_
  rintro ⟨kind, text, _⟩
  cases kind
  case property => exact ih.namedStep
  case string => exact moves_bind moves_advance fun _ => moves_pure rfl
  case star => exact moves_bind (moves_discard moves_advance) fun _ => moves_pure rfl
  case openBrace => exact moves_bind moves_keyGroup fun _ => moves_pure rfl
  case bang =>
    refine moves_bind moves_atOmission fun _ => moves_ite (fun _ => ?_) fun _ =>
      moves_unexpected _ _
    exact moves_bind moves_omissionGroup fun _ => moves_pure rfl
  all_goals exact moves_unexpected _ _

theorem moves_namedStep {fuel : Nat} (ih : Moving f fuel) :
    Moves f (Step.relocate f) (namedStep (fuel + 1)) (namedStep (fuel + 1)) := by
  unfold namedStep
  refine moves_bind moves_advance fun name => moves_bind (moves_check _) fun _ => ?_
  refine moves_ite (fun _ => ?_) fun _ => moves_pure rfl
  refine moves_bind (moves_discard moves_advance) fun _ => moves_bind (moves_check _) fun _ => ?_
  refine moves_ite (fun _ => ?_) fun _ => ?_
  · exact moves_bind (moves_discard moves_advance) fun _ => moves_pure rfl
  · refine moves_bind ih.arguments fun args => moves_pure ?_
    simp [Step.relocate, Node.relocate, Token.relocate]

theorem moves_arguments {fuel : Nat} (ih : Moving f fuel) :
    Moves f (List.map (Node.relocate f)) (arguments (fuel + 1)) (arguments (fuel + 1)) := by
  unfold arguments
  refine moves_bind ih.argument fun _ => moves_bind (moves_check _) fun _ => ?_
  refine moves_ite (fun _ => ?_) fun _ => ?_
  · refine moves_bind (moves_discard moves_advance) fun _ => ?_
    exact moves_bind ih.arguments fun _ => moves_pure rfl
  · exact moves_bind (moves_discard (moves_expect _)) fun _ => moves_pure rfl

theorem moves_argument {fuel : Nat} (ih : Moving f fuel) :
    Moves f (Node.relocate f) (argument (fuel + 1)) (argument (fuel + 1)) := by
  unfold argument
  refine moves_bind (moves_check _) fun _ => moves_bind moves_atNegation fun _ => ?_
  refine moves_ite (fun _ => ih.disjunction none) fun _ => moves_bind ih.operand fun left => ?_
  refine moves_bind moves_peek ?_
  rintro ⟨kind, text, position⟩
  cases kind
  case comparator op => exact ih.disjunction (some left)
  case and => exact moves_unexpected _ _
  case or => exact moves_unexpected _ _
  all_goals exact moves_pure rfl

theorem moves_disjunction {fuel : Nat} (ih : Moving f fuel) (subject : Option Node) :
    Moves f (Node.relocate f) (disjunction (fuel + 1) subject)
      (disjunction (fuel + 1) (subject.map (Node.relocate f))) := by
  unfold disjunction
  exact moves_bind (ih.conjunction subject) fun left => ih.disjuncts left

theorem moves_disjuncts {fuel : Nat} (ih : Moving f fuel) (left : Node) :
    Moves f (Node.relocate f) (disjuncts (fuel + 1) left)
      (disjuncts (fuel + 1) (left.relocate f)) := by
  unfold disjuncts
  refine moves_bind (moves_check _) fun _ => moves_ite (fun _ => ?_) fun _ => moves_pure rfl
  refine moves_bind (moves_discard moves_advance) fun _ => ?_
  exact moves_bind (ih.conjunction none) fun right => ih.disjuncts (.condition .or left right)

theorem moves_conjunction {fuel : Nat} (ih : Moving f fuel) (subject : Option Node) :
    Moves f (Node.relocate f) (conjunction (fuel + 1) subject)
      (conjunction (fuel + 1) (subject.map (Node.relocate f))) := by
  unfold conjunction
  exact moves_bind (ih.unary subject) fun left => ih.conjuncts left

theorem moves_conjuncts {fuel : Nat} (ih : Moving f fuel) (left : Node) :
    Moves f (Node.relocate f) (conjuncts (fuel + 1) left)
      (conjuncts (fuel + 1) (left.relocate f)) := by
  unfold conjuncts
  refine moves_bind (moves_check _) fun _ => moves_ite (fun _ => ?_) fun _ => moves_pure rfl
  refine moves_bind (moves_discard moves_advance) fun _ => ?_
  exact moves_bind (ih.unary none) fun right => ih.conjuncts (.condition .and left right)

theorem moves_unary {fuel : Nat} (ih : Moving f fuel) (subject : Option Node) :
    Moves f (Node.relocate f) (unary (fuel + 1) subject)
      (unary (fuel + 1) (subject.map (Node.relocate f))) := by
  unfold unary
  cases subject with
  | some left => exact ih.comparison left
  | none =>
      refine moves_bind moves_atNegation fun _ => moves_ite (fun _ => ?_) fun _ => ?_
      · refine moves_bind (moves_discard moves_advance) fun _ => ?_
        exact moves_bind (ih.unary none) fun _ => moves_pure rfl
      refine moves_bind (moves_check _) fun _ => moves_ite (fun _ => ?_) fun _ => ?_
      · refine moves_bind (moves_discard moves_advance) fun _ => ?_
        refine moves_bind (ih.disjunction none) fun _ => ?_
        exact moves_bind (moves_discard (moves_expect _)) fun _ => moves_pure rfl
      · exact moves_bind ih.operand fun left => ih.comparison left

theorem moves_comparison {fuel : Nat} (ih : Moving f fuel) (left : Node) :
    Moves f (Node.relocate f) (comparison (fuel + 1) left)
      (comparison (fuel + 1) (left.relocate f)) := by
  unfold comparison
  refine moves_bind moves_peek ?_
  rintro ⟨kind, text, position⟩
  cases kind
  case comparator op =>
    refine moves_bind (moves_discard moves_advance) fun _ => ?_
    exact moves_bind ih.operand fun _ => moves_pure rfl
  all_goals exact moves_unexpected _ _

theorem moves_operand {fuel : Nat} (ih : Moving f fuel) :
    Moves f (Node.relocate f) (operand (fuel + 1)) (operand (fuel + 1)) := by
  have steps (position : Nat) : Moves f (Node.relocate f)
      (do return relative position (← steps fuel))
      (do return relative (f position) (← steps fuel)) :=
    moves_bind ih.steps fun _ => moves_pure (relative_relocate _ _)
  unfold operand
  refine moves_bind moves_peek ?_
  rintro ⟨kind, text, position⟩
  cases kind
  case number => exact moves_bind moves_advance fun t => moves_numberLiteral t
  case string => exact moves_bind moves_advance fun _ => moves_pure rfl
  case property =>
    refine moves_ite (fun _ => ?_) fun _ => ?_
    · exact moves_bind (moves_discard moves_advance) fun _ => moves_pure rfl
    · refine moves_bind ih.namedStep fun step => moves_bind ih.steps fun rest => moves_pure ?_
      exact relative_relocate _ (step :: rest)
  case root =>
    refine moves_bind (moves_discard moves_advance) fun _ => ?_
    refine moves_bind ih.steps fun _ => moves_pure ?_
    simp [Node.relocate, Step.relocate, Token.relocate]
  case current => exact moves_bind (moves_discard moves_advance) fun _ => steps position
  all_goals
    refine moves_bind moves_atStep fun _ => moves_ite (fun _ => steps position) fun _ => ?_
    exact moves_unexpected _ _

theorem moving (f : Nat → Nat) (fuel : Nat) : Moving f fuel := by
  induction fuel with
  | zero => constructor <;> intros <;> exact moves_tooDeep _
  | succ fuel ih =>
      exact {
        steps := moves_steps ih
        afterDot := moves_afterDot ih
        namedStep := moves_namedStep ih
        arguments := moves_arguments ih
        argument := moves_argument ih
        disjunction := moves_disjunction ih
        disjuncts := moves_disjuncts ih
        conjunction := moves_conjunction ih
        conjuncts := moves_conjuncts ih
        unary := moves_unary ih
        comparison := moves_comparison ih
        operand := moves_operand ih }

/-! ### Whole queries -/

theorem fuelFor_relocate (f : Nat → Nat) (s : TokenStream) :
    fuelFor (s.relocate f) = fuelFor s := by
  simp [fuelFor, TokenStream.relocate]

theorem moves_headStep : Moves f (List.map (Step.relocate f)) headStep headStep := by
  refine moves_bind moves_peek fun t => moves_ite (fun _ => ?_) fun _ => moves_pure rfl
  refine moves_bind moves_get fun s => ?_
  rw [fuelFor_relocate]
  exact moves_bind (moving f _).namedStep fun _ => moves_pure rfl

theorem moves_trailingCondition (pathIsEmpty : Bool) : Moves f (Option.map (Node.relocate f))
    (trailingCondition pathIsEmpty) (trailingCondition pathIsEmpty) := by
  refine moves_bind moves_get fun s => ?_
  rw [fuelFor_relocate]
  have alone : Moves f (Option.map (Node.relocate f))
      (do return some (← disjunction (fuelFor s) none))
      (do return some (← disjunction (fuelFor s) none)) :=
    moves_bind ((moving f _).disjunction none) fun _ => moves_pure rfl
  refine moves_bind moves_peek ?_
  rintro ⟨kind, text, position⟩
  cases kind
  case comparator op =>
    exact moves_bind ((moving f _).disjunction (some .current)) fun _ => moves_pure rfl
  case and => exact moves_unexpected _ _
  case or => exact moves_unexpected _ _
  all_goals exact moves_ite (fun _ => alone) fun _ => moves_pure rfl

/-- What comes behind the end of the query moves with it. -/
theorem moves_finish {p : Parser α} {p' : Parser β} (what : String) (hp : Moves f g p p') :
    Moves f g (do
        if ← check .finish then discard advance
        else unexpected what
        p) (do
        if ← check .finish then discard advance
        else unexpected what
        p') := by
  refine moves_bind (moves_check _) fun _ => moves_ite (fun _ => ?_) fun _ => ?_
  · exact moves_bind (moves_discard moves_advance) fun _ => hp
  · exact moves_bind (moves_unexpected id _) fun _ => hp

theorem moves_queryBehind (rootPosition : Nat) : Moves f (Query.relocate f)
    (queryBehind rootPosition) (queryBehind (f rootPosition)) := by
  refine moves_bind moves_headStep fun first => moves_bind moves_get fun s => ?_
  rw [fuelFor_relocate]
  refine moves_bind (moving f _).steps fun rest => moves_bind moves_peek fun t => ?_
  have empty : (first.map (Step.relocate f) ++ rest.map (Step.relocate f)).isEmpty =
      (first ++ rest).isEmpty := by cases first <;> cases rest <;> rfl
  dsimp only
  rw [empty]
  refine moves_bind (moves_trailingCondition _) fun condition => ?_
  have last : Moves f (Query.relocate f)
      (do return ⟨⟨.root, rootPosition⟩ ::
        (first ++ rest ++ condition.toList.map (⟨·, t.position⟩))⟩)
      (do return ⟨⟨.root, f rootPosition⟩ ::
        (first.map (Step.relocate f) ++ rest.map (Step.relocate f) ++
          (condition.map (Node.relocate f)).toList.map (⟨·, f t.position⟩))⟩) := by
    refine moves_pure ?_
    cases condition <;> simp [Query.relocate, Step.relocate, Node.relocate]
  refine moves_bind moves_atStep fun _ => ?_
  rw [Option.isSome_map]
  refine moves_ite (fun _ => ?_) fun _ => moves_finish _ last
  exact moves_bind moves_peek fun _ => moves_bind (moves_failAt id _ rfl) fun _ =>
    moves_finish _ last

/-- A query moves with its tokens. -/
theorem moves_query : Moves f (Query.relocate f) query query := by
  intro s
  have behind : (if (s.relocate f).head.kind = .root then (s.relocate f).tail else s.relocate f) =
      (if s.head.kind = .root then s.tail else s).relocate f := by
    rw [TokenStream.head_relocate, TokenStream.tail_relocate]
    exact (apply_ite (TokenStream.relocate f) _ _ _).symm
  rw [query_run, query_run, behind, TokenStream.head_relocate]
  exact moves_queryBehind s.head.position _

end Parser

end PathQuery
