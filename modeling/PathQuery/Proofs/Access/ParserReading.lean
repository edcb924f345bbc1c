import PathQuery.Proofs.Access.TokenCursor

/-!
The parser is a reading: each of its productions does to the tokens only what a `Reading` can do.
-/

namespace PathQuery

namespace Parser

variable {α β : Type}

/-- The parser does what some reading does. -/
def Reads (p : Parser α) : Prop :=
  ∃ r : Reading α, p = r.onStream

theorem reads_pure (a : α) : Reads (pure a) :=
  ⟨.answer a, rfl⟩

theorem reads_bind {p : Parser α} {q : α → Parser β} (hp : Reads p) (hq : ∀ a, Reads (q a)) :
    Reads (p >>= q) := by
  obtain ⟨r, rfl⟩ := hp
  choose next hn using hq
  refine ⟨r.bind next, funext fun s => ?_⟩
  rw [Reading.onStream_bind, funext hn]

theorem reads_ite {c : Prop} [Decidable c] {p q : Parser α} (hp : Reads p) (hq : Reads q) :
    Reads (if c then p else q) := by
  split
  · exact hp
  · exact hq

theorem reads_peek : Reads peek :=
  ⟨.look 0 .answer, rfl⟩

theorem reads_advance : Reads advance :=
  ⟨.take .answer, rfl⟩

theorem reads_failAt (position : Nat) (fault : SyntaxFault) :
    Reads (failAt position fault : Parser α) :=
  ⟨.fail ⟨fault, position⟩, rfl⟩

/-- How many tokens are left is all that may be asked of the stream as a whole. -/
theorem reads_get {f : TokenStream → Parser α}
    (sized : ∀ s s', s.rest.length = s'.rest.length → f s = f s') (hf : ∀ s, Reads (f s)) :
    Reads (get >>= f) := by
  choose next hn using hf
  let any (n : Nat) : TokenStream := ⟨List.replicate n ⟨.finish, "", 0⟩, 0⟩
  refine ⟨.left fun n => next (any n), funext fun s => ?_⟩
  have same : f s = f (any s.rest.length) := sized _ _ List.length_replicate.symm
  calc
    (get >>= f) s
    _ = f s s := rfl
    _ = (next (any s.rest.length)).onStream s := by rw [same, hn]

theorem reads_check (kind : Token.Kind) : Reads (check kind) :=
  reads_bind reads_peek fun _ => reads_pure _

theorem reads_discard {p : Parser α} (hp : Reads p) : Reads (discard p : Parser Unit) := by
  have same : (discard p : Parser Unit) = p >>= fun _ => pure () := by
    funext s
    rw [discard_run, bind_run]
    rfl
  rw [same]
  exact reads_bind hp fun _ => reads_pure ()

theorem reads_unexpected (what : String) : Reads (unexpected what : Parser α) :=
  reads_bind reads_peek fun _ => reads_failAt _ _

theorem reads_tooDeep : Reads (tooDeep : Parser α) :=
  reads_bind reads_peek fun _ => reads_failAt _ _

theorem reads_expect (kind : Token.Kind) : Reads (expect kind) :=
  reads_bind (reads_check kind) fun _ => reads_ite reads_advance (reads_unexpected _)

/-- Expects a token and goes on without it. -/
theorem reads_past (kind : Token.Kind) {p : Parser α} (hp : Reads p) :
    Reads (do discard (expect kind); p) :=
  reads_bind (reads_discard (reads_expect kind)) fun _ => hp

theorem reads_skip {p : Parser α} (hp : Reads p) : Reads (do discard advance; p) :=
  reads_bind (reads_discard reads_advance) fun _ => hp

theorem reads_atOmission : Reads atOmission :=
  ⟨.look 0 fun t => .look 1 fun u => .answer (t.kind == .bang && u.kind == .openBrace), rfl⟩

theorem reads_atNegation : Reads atNegation :=
  reads_bind (reads_check _) fun _ => reads_bind reads_atOmission fun _ => reads_pure _

theorem reads_atStep : Reads atStep :=
  reads_bind reads_peek fun _ => reads_bind reads_atOmission fun _ => reads_pure _

/-! ### Brackets and key groups -/

theorem reads_quotedKeys (fuel : Nat) : Reads (quotedKeys fuel) := by
  induction fuel with
  | zero => exact reads_pure _
  | succ fuel ih =>
      apply reads_bind (reads_check _)
      intro comma
      apply reads_ite _ (reads_pure _)
      apply reads_skip
      exact reads_bind (reads_expect _) fun _ => reads_bind ih fun _ => reads_pure _

theorem reads_integer? : Reads integer? := by
  apply reads_bind (reads_check _)
  intro number
  apply reads_ite _ (reads_pure _)
  apply reads_bind reads_advance
  intro t
  cases Number.int64OfText? t.text with
  | none => exact reads_failAt _ _
  | some n => exact reads_pure _

theorem reads_sliceStep : Reads sliceStep := by
  apply reads_bind (reads_check _)
  intro colon
  apply reads_ite _ (reads_pure _)
  apply reads_skip
  apply reads_bind reads_peek
  intro t
  apply reads_bind reads_integer?
  intro step
  exact reads_ite (reads_failAt _ _) (reads_pure _)

theorem reads_indexOrSlice : Reads indexOrSlice := by
  apply reads_bind reads_integer?
  intro start
  apply reads_bind (reads_check _)
  intro colon
  apply reads_ite
  · apply reads_skip
    apply reads_bind reads_integer?
    intro stop
    exact reads_bind reads_sliceStep fun _ => reads_past _ (reads_pure _)
  · apply reads_past
    cases start with
    | none => exact reads_unexpected _
    | some i => exact reads_pure _

theorem reads_bracket : Reads bracket := by
  apply reads_bind (reads_expect _)
  intro opening
  apply reads_bind reads_peek
  intro t
  split
  · exact reads_skip (reads_past _ (reads_pure _))
  · apply reads_bind reads_advance
    intro key
    apply reads_get
    · intro s s' same
      rw [same]
    · intro s
      exact reads_bind (reads_quotedKeys _) fun _ => reads_past _ (reads_pure _)
  · exact reads_indexOrSlice
  · exact reads_indexOrSlice
  · exact reads_failAt _ _
  · exact reads_unexpected _

theorem reads_groupKeys (fuel : Nat) : Reads (groupKeys fuel) := by
  induction fuel with
  | zero => exact reads_unexpected _
  | succ fuel ih =>
      have key : Reads (do
          let key ← advance
          if ← check .comma then
            discard advance
            return key.text :: (← groupKeys fuel)
          else return [key.text]) := by
        apply reads_bind reads_advance
        intro key
        apply reads_bind (reads_check _)
        intro comma
        exact reads_ite (reads_skip (reads_bind ih fun _ => reads_pure _)) (reads_pure _)
      apply reads_bind reads_peek
      intro t
      split
      · exact key
      · exact key
      · exact reads_unexpected _

theorem reads_keyGroup : Reads keyGroup := by
  apply reads_bind (reads_expect _)
  intro opening
  apply reads_bind (reads_check _)
  intro closing
  apply reads_ite (reads_failAt _ _)
  apply reads_get
  · intro s s' same
    rw [same]
  · intro s
    exact reads_bind (reads_groupKeys _) fun _ => reads_past _ (reads_pure _)

theorem reads_omissionGroup : Reads omissionGroup :=
  reads_skip (reads_bind reads_keyGroup fun _ => reads_pure _)

/-! ### Paths, arguments and conditions -/

theorem reads_numberLiteral (t : Token) : Reads (numberLiteral t) := by
  unfold numberLiteral
  cases Number.ofText? t.text with
  | none => exact reads_failAt _ _
  | some n => exact reads_pure _

/-- With this fuel, all productions are readings. -/
structure ReadsAll (fuel : Nat) : Prop where
  steps : Reads (steps fuel)
  afterDot (position : Nat) : Reads (afterDot fuel position)
  namedStep : Reads (namedStep fuel)
  arguments : Reads (arguments fuel)
  argument : Reads (argument fuel)
  disjunction (subject : Option Node) : Reads (disjunction fuel subject)
  disjuncts (left : Node) : Reads (disjuncts fuel left)
  conjunction (subject : Option Node) : Reads (conjunction fuel subject)
  conjuncts (left : Node) : Reads (conjuncts fuel left)
  unary (subject : Option Node) : Reads (unary fuel subject)
  comparison (left : Node) : Reads (comparison fuel left)
  operand : Reads (operand fuel)

theorem reads_steps {fuel : Nat} (ih : ReadsAll fuel) : Reads (steps (fuel + 1)) := by
  have more (step : Step) : Reads (do return step :: (← steps fuel)) :=
    reads_bind ih.steps fun _ => reads_pure _
  unfold steps
  apply reads_bind reads_peek
  intro t
  split
  · apply reads_skip
    exact reads_bind (ih.afterDot _) fun step => more step
  · exact reads_bind reads_bracket fun _ => more _
  · exact reads_bind reads_keyGroup fun _ => more _
  · apply reads_bind reads_atOmission
    intro omission
    exact reads_ite (reads_bind reads_omissionGroup fun _ => more _) (reads_pure _)
  · exact reads_pure _

theorem reads_afterDot {fuel : Nat} (ih : ReadsAll fuel) (position : Nat) :
    Reads (afterDot (fuel + 1) position) := by
  unfold afterDot
  apply reads_bind reads_peek
  intro t
  split
  · exact ih.namedStep
  · exact reads_bind reads_advance fun _ => reads_pure _
  · exact reads_skip (reads_pure _)
  · exact reads_bind reads_keyGroup fun _ => reads_pure _
  · apply reads_bind reads_atOmission
    intro omission
    exact reads_ite (reads_bind reads_omissionGroup fun _ => reads_pure _) (reads_unexpected _)
  · exact reads_unexpected _

theorem reads_namedStep {fuel : Nat} (ih : ReadsAll fuel) : Reads (namedStep (fuel + 1)) := by
  unfold namedStep
  apply reads_bind reads_advance
  intro name
  apply reads_bind (reads_check _)
  intro call
  apply reads_ite _ (reads_pure _)
  apply reads_skip
  apply reads_bind (reads_check _)
  intro empty
  exact reads_ite (reads_skip (reads_pure _)) (reads_bind ih.arguments fun _ => reads_pure _)

theorem reads_arguments {fuel : Nat} (ih : ReadsAll fuel) : Reads (arguments (fuel + 1)) := by
  unfold arguments
  apply reads_bind ih.argument
  intro arg
  apply reads_bind (reads_check _)
  intro comma
  apply reads_ite
  · exact reads_skip (reads_bind ih.arguments fun _ => reads_pure _)
  · exact reads_past _ (reads_pure _)

theorem reads_argument {fuel : Nat} (ih : ReadsAll fuel) : Reads (argument (fuel + 1)) := by
  unfold argument
  apply reads_bind (reads_check _)
  intro parenthesis
  apply reads_bind reads_atNegation
  intro negation
  apply reads_ite (ih.disjunction none)
  apply reads_bind ih.operand
  intro left
  apply reads_bind reads_peek
  intro t
  split
  · exact ih.disjunction (some left)
  · exact reads_unexpected _
  · exact reads_unexpected _
  · exact reads_pure _

theorem reads_disjunction {fuel : Nat} (ih : ReadsAll fuel) (subject : Option Node) :
    Reads (disjunction (fuel + 1) subject) := by
  unfold disjunction
  exact reads_bind (ih.conjunction subject) fun left => ih.disjuncts left

theorem reads_disjuncts {fuel : Nat} (ih : ReadsAll fuel) (left : Node) :
    Reads (disjuncts (fuel + 1) left) := by
  unfold disjuncts
  apply reads_bind (reads_check _)
  intro more
  apply reads_ite _ (reads_pure _)
  exact reads_skip (reads_bind (ih.conjunction none) fun _ => ih.disjuncts _)

theorem reads_conjunction {fuel : Nat} (ih : ReadsAll fuel) (subject : Option Node) :
    Reads (conjunction (fuel + 1) subject) := by
  unfold conjunction
  exact reads_bind (ih.unary subject) fun left => ih.conjuncts left

theorem reads_conjuncts {fuel : Nat} (ih : ReadsAll fuel) (left : Node) :
    Reads (conjuncts (fuel + 1) left) := by
  unfold conjuncts
  apply reads_bind (reads_check _)
  intro more
  apply reads_ite _ (reads_pure _)
  exact reads_skip (reads_bind (ih.unary none) fun _ => ih.conjuncts _)

theorem reads_unary {fuel : Nat} (ih : ReadsAll fuel) (subject : Option Node) :
    Reads (unary (fuel + 1) subject) := by
  unfold unary
  cases subject with
  | some left => exact ih.comparison left
  | none =>
      apply reads_bind reads_atNegation
      intro negation
      apply reads_ite
      · exact reads_skip (reads_bind (ih.unary none) fun _ => reads_pure _)
      apply reads_bind (reads_check _)
      intro parenthesis
      apply reads_ite
      · apply reads_skip
        exact reads_bind (ih.disjunction none) fun _ => reads_past _ (reads_pure _)
      · exact reads_bind ih.operand fun left => ih.comparison left

theorem reads_comparison {fuel : Nat} (ih : ReadsAll fuel) (left : Node) :
    Reads (comparison (fuel + 1) left) := by
  unfold comparison
  apply reads_bind reads_peek
  intro t
  split
  · exact reads_skip (reads_bind ih.operand fun _ => reads_pure _)
  · exact reads_unexpected _

theorem reads_operand {fuel : Nat} (ih : ReadsAll fuel) : Reads (operand (fuel + 1)) := by
  have path (position : Nat) : Reads (do return relative position (← steps fuel)) :=
    reads_bind ih.steps fun _ => reads_pure _
  unfold operand
  apply reads_bind reads_peek
  intro t
  split
  · exact reads_bind reads_advance reads_numberLiteral
  · exact reads_bind reads_advance fun _ => reads_pure _
  · apply reads_ite (reads_skip (reads_pure _))
    apply reads_bind ih.namedStep
    intro step
    exact reads_bind ih.steps fun _ => reads_pure _
  · exact reads_skip (reads_bind ih.steps fun _ => reads_pure _)
  · exact reads_skip (path _)
  · exact reads_bind reads_atStep fun _ => reads_ite (path _) (reads_unexpected _)

theorem readsAll (fuel : Nat) : ReadsAll fuel := by
  induction fuel with
  | zero => constructor <;> intros <;> exact reads_tooDeep
  | succ fuel ih =>
      exact {
        steps := reads_steps ih
        afterDot := reads_afterDot ih
        namedStep := reads_namedStep ih
        arguments := reads_arguments ih
        argument := reads_argument ih
        disjunction := reads_disjunction ih
        disjuncts := reads_disjuncts ih
        conjunction := reads_conjunction ih
        conjuncts := reads_conjuncts ih
        unary := reads_unary ih
        comparison := reads_comparison ih
        operand := reads_operand ih }

/-! ### Whole queries -/

theorem fuelFor_sized {s s' : TokenStream} (same : s.rest.length = s'.rest.length) :
    fuelFor s = fuelFor s' := by
  rw [fuelFor, fuelFor, same]

theorem reads_headStep : Reads headStep := by
  apply reads_bind reads_peek
  intro t
  apply reads_ite _ (reads_pure _)
  apply reads_get
  · intro s s' same
    rw [fuelFor_sized same]
  · intro s
    exact reads_bind (readsAll _).namedStep fun _ => reads_pure _

theorem reads_trailingCondition (pathIsEmpty : Bool) : Reads (trailingCondition pathIsEmpty) := by
  apply reads_get
  · intro s s' same
    rw [fuelFor_sized same]
  · intro s
    have condition (subject : Option Node) :
        Reads (do return some (← disjunction (fuelFor s) subject)) :=
      reads_bind ((readsAll _).disjunction subject) fun _ => reads_pure _
    apply reads_bind reads_peek
    intro t
    split
    · exact condition _
    · exact reads_unexpected _
    · exact reads_unexpected _
    · exact reads_ite (condition none) (reads_pure _)

theorem reads_finish {p : Parser α} (what : String) (hp : Reads p) :
    Reads (do
      if ← check .finish then discard advance
      else unexpected what
      p) := by
  apply reads_bind (reads_check _)
  intro finish
  exact reads_ite (reads_skip hp) (reads_bind (reads_unexpected _) fun _ => hp)

theorem reads_queryBehind (rootPosition : Nat) : Reads (queryBehind rootPosition) := by
  apply reads_bind reads_headStep
  intro first
  apply reads_get
  · intro s s' same
    rw [fuelFor_sized same]
  intro s
  apply reads_bind (readsAll _).steps
  intro rest
  apply reads_bind reads_peek
  intro t
  apply reads_bind (reads_trailingCondition _)
  intro condition
  apply reads_bind reads_atStep
  intro step
  apply reads_ite
  · apply reads_bind reads_peek
    intro t
    exact reads_bind (reads_failAt _ _) fun _ => reads_finish _ (reads_pure _)
  · exact reads_finish _ (reads_pure _)

theorem reads_query : Reads query := by
  apply reads_bind reads_peek
  intro t
  apply reads_bind (reads_check _)
  intro root
  apply reads_ite
  · exact reads_skip (reads_queryBehind _)
  · exact reads_queryBehind _

end Parser

/-- A reading that is the parser runs on the tokens of a text by number, refuses no access, and
gives the query or the error. -/
theorem exists_reading_of_query : ∃ r : Reading Query, Parser.query = r.onStream ∧
    ∀ text ts, tokenize text = .ok ts →
      r.onCursor? (Guarded.Cursor.ofTokens ts) = some (Query.parse text) := by
  obtain ⟨r, same⟩ := Parser.reads_query
  refine ⟨r, same, fun text ts tokens => ?_⟩
  obtain ⟨body, closed, -⟩ := (Scanner.tokens_tile tokens).finish_last
  have start : (Guarded.Cursor.ofTokens ts).Shows (.ofTokens ts) := by
    apply Guarded.Cursor.ofTokens_shows
    intro t last _
    rw [closed, List.getLast?_concat, Option.some.injEq] at last
    rw [← last]
  have parsed : Query.parse text = Parser.outcome (Parser.query (.ofTokens ts)) := by
    rw [Query.parse, tokens]
    change Query.ofTokens ts = _
    rw [Query.ofTokens, EStateM.run]
    cases Parser.query (.ofTokens ts) <;> rfl
  rw [r.onCursor?_eq start, ← same, parsed]

end PathQuery
