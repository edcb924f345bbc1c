import PathQuery.Proofs.Access.ParserReading
import PathQuery.Proofs.Query.Completeness
import PathQuery.Proofs.Query.Soundness

/-!
The parser comes to an end by itself. Its fuel is in proportion to the tokens that are left; with
that much it never gives up, and any more of it changes no answer. What is behind this is that each
loop takes a token before it goes round, which the end of the query is not.
-/

namespace PathQuery

/-! ### Going on in a stream -/

namespace TokenStream

/-- The stream some tokens further on. -/
def drop (s : TokenStream) (n : Nat) : TokenStream :=
  { s with rest := s.rest.drop n }

@[simp] theorem drop_zero (s : TokenStream) : s.drop 0 = s := rfl

@[simp] theorem drop_drop (s : TokenStream) (m n : Nat) : (s.drop m).drop n = s.drop (m + n) := by
  simp [drop, List.drop_drop]

theorem tail_eq_drop (s : TokenStream) : s.tail = s.drop 1 := by
  simp [tail, drop]

theorem length_drop_le (s : TokenStream) (n : Nat) : (s.drop n).rest.length ≤ s.rest.length := by
  simp [drop]

theorem length_tail_le (s : TokenStream) : s.tail.rest.length ≤ s.rest.length := by
  simp [tail]

/-- Behind a token other than the end, fewer are left. -/
theorem length_tail_lt {s : TokenStream} (h : s.head.kind ≠ .finish) :
    s.tail.rest.length < s.rest.length := by
  rw [congrArg (fun s => s.rest.length) (eq_prepend_head h), length_rest_prepend]
  simp

end TokenStream

/-- Where a run of the parser stands when it answers or fails. -/
def Parser.reached {α : Type} : EStateM.Result SyntaxError TokenStream α → TokenStream
  | .ok _ s => s
  | .error _ s => s

/-- A reading only goes on in its stream. -/
theorem Reading.onStream_drop {α : Type} (r : Reading α) (s : TokenStream) :
    ∃ n, Parser.reached (r.onStream s) = s.drop n := by
  induction r generalizing s with
  | answer a => exact ⟨0, rfl⟩
  | fail e => exact ⟨0, rfl⟩
  | look n next ih => exact ih _ s
  | left next ih => exact ih _ s
  | take next ih =>
      obtain ⟨n, hn⟩ := ih s.head s.tail
      refine ⟨1 + n, hn.trans ?_⟩
      rw [TokenStream.tail_eq_drop, TokenStream.drop_drop]

namespace Parser

variable {α β : Type} {s m : TokenStream} {fuel fuel' : Nat}

theorem Reads.reached_drop {p : Parser α} (hp : Reads p) (s : TokenStream) :
    ∃ n, reached (p s) = s.drop n := by
  obtain ⟨r, rfl⟩ := hp
  exact r.onStream_drop s

theorem Reads.length_le {p : Parser α} {a : α} (hp : Reads p) (h : p s = .ok a m) :
    m.rest.length ≤ s.rest.length := by
  obtain ⟨n, hn⟩ := hp.reached_drop s
  rw [h] at hn
  rw [show m = s.drop n from hn]
  exact s.length_drop_le n

/-- What is read with a phrase of at least one token leaves fewer. -/
theorem length_lt_of_reads {P : List Token → Prop} (h : Grammar.Reads s m P)
    (some : ∀ ts, P ts → ts ≠ []) : m.rest.length < s.rest.length := by
  obtain ⟨ts, rfl, hp⟩ := h
  have := List.length_pos_iff.2 (some ts hp)
  rw [TokenStream.length_rest_prepend]
  omega

theorem length_lt_of_bracket {node : Node} (h : bracket s = .ok node m) :
    m.rest.length < s.rest.length := by
  refine length_lt_of_reads (Grammar.bracket_sound h) ?_
  rintro ts ⟨opening, us, closing, rfl, -⟩
  simp

theorem length_lt_of_keyGroup {keys : List String} (h : keyGroup s = .ok keys m) :
    m.rest.length < s.rest.length := by
  refine length_lt_of_reads (Grammar.keyGroup_sound h) fun ts group => ?_
  obtain ⟨t, u, us, rfl, -⟩ := group.begins
  simp

theorem length_lt_of_omissionGroup {node : Node} (h : omissionGroup s = .ok node m) :
    m.rest.length < s.rest.length := by
  unfold omissionGroup at h
  obtain ⟨_, behind, bang, h₁⟩ := bind_eq_ok h
  obtain ⟨keys, _, group, h₂⟩ := bind_eq_ok h₁
  cases bang
  cases h₂
  exact (length_lt_of_keyGroup group).trans_le s.length_tail_le

/-! ### Answers that more fuel does not change -/

/-- The second run answers like the first, which does not give up. -/
def Settled (r r' : EStateM.Result SyntaxError TokenStream α) : Prop :=
  r' = r ∧ ∀ e m, r = .error e m → e.fault ≠ .nestingTooDeep

theorem settled_pure (a : α) (s : TokenStream) :
    Settled ((pure a : Parser α) s) ((pure a : Parser α) s) :=
  ⟨rfl, by rintro e m ⟨⟩⟩

theorem settled_failAt {fault : SyntaxFault} (position : Nat) (s : TokenStream)
    (h : fault ≠ .nestingTooDeep) :
    Settled ((failAt position fault : Parser α) s) ((failAt position fault : Parser α) s) :=
  ⟨rfl, by rintro e m ⟨⟩; exact h⟩

theorem settled_unexpected (what : String) (s : TokenStream) :
    Settled ((unexpected what : Parser α) s) ((unexpected what : Parser α) s) :=
  settled_failAt _ s (by simp)

theorem settled_bind {p p' : Parser α} {q q' : α → Parser β} (hp : Settled (p s) (p' s))
    (hq : ∀ a m, p s = .ok a m → Settled (q a m) (q' a m)) :
    Settled ((p >>= q) s) ((p' >>= q') s) := by
  rw [bind_run, bind_run, hp.1]
  cases run : p s with
  | ok a m => exact hq a m run
  | error e m =>
      refine ⟨rfl, ?_⟩
      rintro _ _ ⟨⟩
      exact hp.2 e m run

theorem settled_map {p p' : Parser α} (f : α → β) (hp : Settled (p s) (p' s)) :
    Settled ((f <$> p) s) ((f <$> p') s) := by
  rw [map_run, map_run, hp.1]
  cases run : p s with
  | ok a m => exact settled_pure (f a) m
  | error e m =>
      refine ⟨rfl, ?_⟩
      rintro _ _ ⟨⟩
      exact hp.2 e m run

theorem settled_ite {c : Prop} [Decidable c] {p p' q q' : Parser α}
    (hp : c → Settled (p s) (p' s)) (hq : ¬c → Settled (q s) (q' s)) :
    Settled ((if c then p else q) s) ((if c then p' else q') s) := by
  split
  · exact hp ‹_›
  · exact hq ‹_›

theorem settled_expect (kind : Token.Kind) (s : TokenStream) :
    Settled (expect kind s) (expect kind s) := by
  refine ⟨rfl, fun e m h => ?_⟩
  rw [expect_run] at h
  split at h
  · cases h
  · cases h
    simp

theorem settled_discard {p p' : Parser α} (hp : Settled (p s) (p' s)) :
    Settled ((discard p : Parser Unit) s) ((discard p' : Parser Unit) s) :=
  settled_map (fun _ => ()) hp

theorem settled_peek {f f' : Token → Parser α} (hf : Settled (f s.head s) (f' s.head s)) :
    Settled ((peek >>= f) s) ((peek >>= f') s) :=
  hf

theorem settled_get {f f' : TokenStream → Parser α} (hf : Settled (f s s) (f' s s)) :
    Settled ((get >>= f) s) ((get >>= f') s) :=
  hf

theorem settled_advance {f f' : Token → Parser α}
    (hf : Settled (f s.head s.tail) (f' s.head s.tail)) :
    Settled ((advance >>= f) s) ((advance >>= f') s) :=
  hf

theorem settled_skip {p p' : Parser α} (hp : Settled (p s.tail) (p' s.tail)) :
    Settled ((do discard advance; p) s) ((do discard advance; p') s) :=
  hp

/-- Answers once what is expected is there. -/
theorem settled_past (kind : Token.Kind) (a : α) (s : TokenStream) :
    Settled ((do discard (expect kind); return a) s) ((do discard (expect kind); return a) s) :=
  settled_bind (settled_discard (settled_expect kind s)) fun _ m _ => settled_pure a m

/-! ### Brackets and key groups -/

theorem settled_quotedKeys (h : s.rest.length ≤ fuel) (h' : s.rest.length ≤ fuel') :
    Settled (quotedKeys fuel s) (quotedKeys fuel' s) := by
  induction fuel generalizing s fuel' with
  | zero =>
      have ends : s.head.kind ≠ .comma := fun hc => by
        have := TokenStream.length_tail_lt (s := s) (by simp [hc])
        omega
      rw [Grammar.quotedKeys_none ends, Grammar.quotedKeys_none ends]
      exact settled_pure [] s
  | succ fuel ih =>
      by_cases hc : s.head.kind = .comma
      · have short := TokenStream.length_tail_lt (s := s) (by simp [hc])
        obtain ⟨fuel', rfl⟩ := Nat.exists_eq_add_of_le' (show 1 ≤ fuel' by omega)
        unfold quotedKeys
        refine settled_ite (fun _ => settled_skip ?_) fun _ => settled_pure [] s
        refine settled_bind (settled_expect _ _) fun key m read => ?_
        have left := (reads_expect _).length_le read
        exact settled_bind (ih (by omega) (by omega)) fun keys m _ => settled_pure _ m
      · rw [Grammar.quotedKeys_none hc, Grammar.quotedKeys_none hc]
        exact settled_pure [] s

theorem settled_groupKeys (h : s.rest.length < fuel) (h' : s.rest.length < fuel') :
    Settled (groupKeys fuel s) (groupKeys fuel' s) := by
  induction fuel generalizing s fuel' with
  | zero => omega
  | succ fuel ih =>
      obtain ⟨fuel', rfl⟩ := Nat.exists_eq_add_of_le' (show 1 ≤ fuel' by omega)
      -- only a key, which is not the end, is behind the next round
      have key (some : s.head.kind ≠ .finish) : Settled
          ((do
            let key ← advance
            if ← check .comma then
              discard advance
              return key.text :: (← groupKeys fuel)
            else return [key.text]) s)
          ((do
            let key ← advance
            if ← check .comma then
              discard advance
              return key.text :: (← groupKeys fuel')
            else return [key.text]) s) := by
        have short := TokenStream.length_tail_lt some
        have behind := s.tail.length_tail_le
        refine settled_ite (fun _ => settled_skip ?_) fun _ => settled_pure _ _
        exact settled_bind (ih (by omega) (by omega)) fun keys m _ => settled_pure _ m
      unfold groupKeys
      apply settled_peek
      cases hk : s.head.kind
      case property => exact key (by simp [hk])
      case string => exact key (by simp [hk])
      all_goals exact settled_unexpected _ s

theorem settled_integer? (s : TokenStream) : Settled (integer? s) (integer? s) := by
  unfold integer?
  refine settled_ite (fun _ => ?_) fun _ => settled_pure none s
  apply settled_advance
  cases Number.int64OfText? s.head.text with
  | none => exact settled_failAt _ _ (by simp)
  | some n => exact settled_pure _ _

theorem settled_sliceStep (s : TokenStream) : Settled (sliceStep s) (sliceStep s) := by
  unfold sliceStep
  refine settled_ite (fun _ => settled_skip ?_) fun _ => settled_pure none s
  refine settled_peek (settled_bind (settled_integer? _) fun step m _ => ?_)
  exact settled_ite (fun _ => settled_failAt _ _ (by simp)) fun _ => settled_pure step m

theorem settled_indexOrSlice (s : TokenStream) : Settled (indexOrSlice s) (indexOrSlice s) := by
  unfold indexOrSlice
  refine settled_bind (settled_integer? s) fun start m _ => ?_
  refine settled_ite (fun _ => settled_skip ?_) fun _ => ?_
  · refine settled_bind (settled_integer? _) fun stop m _ => ?_
    exact settled_bind (settled_sliceStep m) fun step m _ => settled_past _ _ m
  · refine settled_bind (settled_discard (settled_expect _ m)) fun _ m _ => ?_
    cases start with
    | none => exact settled_unexpected _ m
    | some i => exact settled_pure _ m

theorem settled_bracket (s : TokenStream) : Settled (bracket s) (bracket s) := by
  unfold bracket
  refine settled_bind (settled_expect _ s) fun opening m _ => ?_
  apply settled_peek
  cases m.head.kind
  case star => exact settled_skip (settled_past _ _ _)
  case string =>
    refine settled_advance (settled_get ?_)
    exact settled_bind (settled_quotedKeys le_rfl le_rfl) fun keys m _ => settled_past _ _ m
  case number => exact settled_indexOrSlice m
  case colon => exact settled_indexOrSlice m
  case closeBracket => exact settled_failAt _ m (by simp)
  all_goals exact settled_unexpected _ m

theorem settled_keyGroup (s : TokenStream) : Settled (keyGroup s) (keyGroup s) := by
  unfold keyGroup
  refine settled_bind (settled_expect _ s) fun opening m _ => ?_
  refine settled_ite (fun _ => settled_failAt _ m (by simp)) fun _ => ?_
  refine settled_get (settled_bind ?_ fun keys m _ => settled_past _ _ m)
  exact settled_groupKeys (Nat.lt_succ_self _) (Nat.lt_succ_self _)

theorem settled_omissionGroup (s : TokenStream) : Settled (omissionGroup s) (omissionGroup s) :=
  settled_skip (settled_bind (settled_keyGroup _) fun _ m _ => settled_pure _ m)

theorem settled_numberLiteral (t : Token) (s : TokenStream) :
    Settled (numberLiteral t s) (numberLiteral t s) := by
  unfold numberLiteral
  cases Number.ofText? t.text with
  | none => exact settled_failAt _ s (by simp)
  | some n => exact settled_pure _ s

/-! ### Paths, arguments and conditions -/

/-- With these amounts of fuel, each production answers alike wherever both are enough for the
tokens left: eight for each of them, and one for each production that is entered before a token is
taken. -/
structure Settling (fuel fuel' : Nat) : Prop where
  steps {s : TokenStream} (h : 8 * s.rest.length + 1 ≤ min fuel fuel') :
    Settled (steps fuel s) (steps fuel' s)
  namedStep {s : TokenStream} (h : 8 * s.rest.length + 1 ≤ min fuel fuel') :
    Settled (namedStep fuel s) (namedStep fuel' s)
  afterDot {s : TokenStream} (position : Nat) (h : 8 * s.rest.length + 2 ≤ min fuel fuel') :
    Settled (afterDot fuel position s) (afterDot fuel' position s)
  operand {s : TokenStream} (h : 8 * s.rest.length + 2 ≤ min fuel fuel') :
    Settled (operand fuel s) (operand fuel' s)
  comparison {s : TokenStream} (left : Node) (h : 8 * s.rest.length + 1 ≤ min fuel fuel') :
    Settled (comparison fuel left s) (comparison fuel' left s)
  unary {s : TokenStream} (subject : Option Node) (h : 8 * s.rest.length + 3 ≤ min fuel fuel') :
    Settled (unary fuel subject s) (unary fuel' subject s)
  conjuncts {s : TokenStream} (left : Node) (h : 8 * s.rest.length + 1 ≤ min fuel fuel') :
    Settled (conjuncts fuel left s) (conjuncts fuel' left s)
  conjunction {s : TokenStream} (subject : Option Node)
    (h : 8 * s.rest.length + 4 ≤ min fuel fuel') :
    Settled (conjunction fuel subject s) (conjunction fuel' subject s)
  disjuncts {s : TokenStream} (left : Node) (h : 8 * s.rest.length + 1 ≤ min fuel fuel') :
    Settled (disjuncts fuel left s) (disjuncts fuel' left s)
  disjunction {s : TokenStream} (subject : Option Node)
    (h : 8 * s.rest.length + 5 ≤ min fuel fuel') :
    Settled (disjunction fuel subject s) (disjunction fuel' subject s)
  argument {s : TokenStream} (h : 8 * s.rest.length + 6 ≤ min fuel fuel') :
    Settled (argument fuel s) (argument fuel' s)
  arguments {s : TokenStream} (h : 8 * s.rest.length + 7 ≤ min fuel fuel') :
    Settled (arguments fuel s) (arguments fuel' s)

theorem settling_steps (ih : Settling fuel fuel')
    (h : 8 * s.rest.length + 1 ≤ min (fuel + 1) (fuel' + 1)) :
    Settled (steps (fuel + 1) s) (steps (fuel' + 1) s) := by
  -- the step takes a token, so that the fuel left is enough for the others
  have more {step : Step} {m : TokenStream} (short : m.rest.length < s.rest.length) :
      Settled ((do return step :: (← steps fuel)) m) ((do return step :: (← steps fuel')) m) :=
    settled_bind (ih.steps (by omega)) fun rest m _ => settled_pure _ m
  unfold steps
  apply settled_peek
  cases hk : s.head.kind
  case dot =>
    have short := TokenStream.length_tail_lt (s := s) (by simp [hk])
    refine settled_skip (settled_bind (ih.afterDot _ (by omega)) fun step m read => more ?_)
    have := ((readsAll _).afterDot _).length_le read
    omega
  case openBracket =>
    exact settled_bind (settled_bracket s) fun node m read => more (length_lt_of_bracket read)
  case openBrace =>
    exact settled_bind (settled_keyGroup s) fun keys m read => more (length_lt_of_keyGroup read)
  case bang =>
    refine settled_ite (fun _ => ?_) fun _ => settled_pure [] s
    exact settled_bind (settled_omissionGroup s) fun node m read =>
      more (length_lt_of_omissionGroup read)
  all_goals exact settled_pure [] s

theorem settling_afterDot (ih : Settling fuel fuel') (position : Nat)
    (h : 8 * s.rest.length + 2 ≤ min (fuel + 1) (fuel' + 1)) :
    Settled (afterDot (fuel + 1) position s) (afterDot (fuel' + 1) position s) := by
  unfold afterDot
  apply settled_peek
  cases s.head.kind
  case property => exact ih.namedStep (by omega)
  case string => exact settled_advance (settled_pure _ _)
  case star => exact settled_skip (settled_pure _ _)
  case openBrace => exact settled_bind (settled_keyGroup s) fun keys m _ => settled_pure _ m
  case bang =>
    refine settled_ite (fun _ => ?_) fun _ => settled_unexpected _ s
    exact settled_bind (settled_omissionGroup s) fun node m _ => settled_pure _ m
  all_goals exact settled_unexpected _ s

theorem settling_namedStep (ih : Settling fuel fuel')
    (h : 8 * s.rest.length + 1 ≤ min (fuel + 1) (fuel' + 1)) :
    Settled (namedStep (fuel + 1) s) (namedStep (fuel' + 1) s) := by
  unfold namedStep
  refine settled_advance (settled_ite (fun call => settled_skip ?_) fun _ => settled_pure _ _)
  refine settled_ite (fun _ => settled_skip (settled_pure _ _)) fun _ => ?_
  have name := s.length_tail_le
  have opening := TokenStream.length_tail_lt (s := s.tail) (by simp_all)
  exact settled_bind (ih.arguments (by omega)) fun args m _ => settled_pure _ m

theorem settling_arguments (ih : Settling fuel fuel')
    (h : 8 * s.rest.length + 7 ≤ min (fuel + 1) (fuel' + 1)) :
    Settled (arguments (fuel + 1) s) (arguments (fuel' + 1) s) := by
  unfold arguments
  refine settled_bind (ih.argument (by omega)) fun arg m read => ?_
  have left := (readsAll _).argument.length_le read
  refine settled_ite (fun comma => settled_skip ?_) fun _ => settled_past _ _ m
  have short := TokenStream.length_tail_lt (s := m) (by simp_all)
  exact settled_bind (ih.arguments (by omega)) fun args m _ => settled_pure _ m

theorem settling_argument (ih : Settling fuel fuel')
    (h : 8 * s.rest.length + 6 ≤ min (fuel + 1) (fuel' + 1)) :
    Settled (argument (fuel + 1) s) (argument (fuel' + 1) s) := by
  unfold argument
  refine settled_ite (fun _ => ih.disjunction none (by omega)) fun _ => ?_
  refine settled_bind (ih.operand (by omega)) fun left m read => ?_
  have behind := (readsAll _).operand.length_le read
  apply settled_peek
  cases m.head.kind
  case comparator op => exact ih.disjunction (some left) (by omega)
  case and => exact settled_unexpected _ m
  case or => exact settled_unexpected _ m
  all_goals exact settled_pure left m

theorem settling_disjunction (ih : Settling fuel fuel') (subject : Option Node)
    (h : 8 * s.rest.length + 5 ≤ min (fuel + 1) (fuel' + 1)) :
    Settled (disjunction (fuel + 1) subject s) (disjunction (fuel' + 1) subject s) := by
  unfold disjunction
  refine settled_bind (ih.conjunction subject (by omega)) fun left m read => ?_
  have behind := ((readsAll _).conjunction subject).length_le read
  exact ih.disjuncts left (by omega)

theorem settling_disjuncts (ih : Settling fuel fuel') (left : Node)
    (h : 8 * s.rest.length + 1 ≤ min (fuel + 1) (fuel' + 1)) :
    Settled (disjuncts (fuel + 1) left s) (disjuncts (fuel' + 1) left s) := by
  unfold disjuncts
  refine settled_ite (fun more => settled_skip ?_) fun _ => settled_pure left s
  have short := TokenStream.length_tail_lt (s := s) (by simp_all)
  refine settled_bind (ih.conjunction none (by omega)) fun right m read => ?_
  have behind := ((readsAll _).conjunction none).length_le read
  exact ih.disjuncts _ (by omega)

theorem settling_conjunction (ih : Settling fuel fuel') (subject : Option Node)
    (h : 8 * s.rest.length + 4 ≤ min (fuel + 1) (fuel' + 1)) :
    Settled (conjunction (fuel + 1) subject s) (conjunction (fuel' + 1) subject s) := by
  unfold conjunction
  refine settled_bind (ih.unary subject (by omega)) fun left m read => ?_
  have behind := ((readsAll _).unary subject).length_le read
  exact ih.conjuncts left (by omega)

theorem settling_conjuncts (ih : Settling fuel fuel') (left : Node)
    (h : 8 * s.rest.length + 1 ≤ min (fuel + 1) (fuel' + 1)) :
    Settled (conjuncts (fuel + 1) left s) (conjuncts (fuel' + 1) left s) := by
  unfold conjuncts
  refine settled_ite (fun more => settled_skip ?_) fun _ => settled_pure left s
  have short := TokenStream.length_tail_lt (s := s) (by simp_all)
  refine settled_bind (ih.unary none (by omega)) fun right m read => ?_
  have behind := ((readsAll _).unary none).length_le read
  exact ih.conjuncts _ (by omega)

theorem settling_unary (ih : Settling fuel fuel') (subject : Option Node)
    (h : 8 * s.rest.length + 3 ≤ min (fuel + 1) (fuel' + 1)) :
    Settled (unary (fuel + 1) subject s) (unary (fuel' + 1) subject s) := by
  unfold unary
  cases subject with
  | some left => exact ih.comparison left (by omega)
  | none =>
      refine settled_ite (fun negation => settled_skip ?_) fun _ => ?_
      · have bang := TokenStream.head_of_negationAhead negation
        have short := TokenStream.length_tail_lt (s := s) (by simp [bang])
        exact settled_bind (ih.unary none (by omega)) fun inner m _ => settled_pure _ m
      refine settled_ite (fun opening => settled_skip ?_) fun _ => ?_
      · have short := TokenStream.length_tail_lt (s := s) (by simp_all)
        exact settled_bind (ih.disjunction none (by omega)) fun inner m _ => settled_past _ _ m
      · refine settled_bind (ih.operand (by omega)) fun left m read => ?_
        have behind := (readsAll _).operand.length_le read
        exact ih.comparison left (by omega)

theorem settling_comparison (ih : Settling fuel fuel') (left : Node)
    (h : 8 * s.rest.length + 1 ≤ min (fuel + 1) (fuel' + 1)) :
    Settled (comparison (fuel + 1) left s) (comparison (fuel' + 1) left s) := by
  unfold comparison
  apply settled_peek
  cases hk : s.head.kind
  case comparator op =>
    have short := TokenStream.length_tail_lt (s := s) (by simp [hk])
    refine settled_skip (settled_bind (ih.operand (by omega)) fun right m _ => ?_)
    exact settled_pure _ m
  all_goals exact settled_unexpected _ s

theorem settling_operand (ih : Settling fuel fuel')
    (h : 8 * s.rest.length + 2 ≤ min (fuel + 1) (fuel' + 1)) :
    Settled (operand (fuel + 1) s) (operand (fuel' + 1) s) := by
  have behind := s.length_tail_le
  have path (position : Nat) {m : TokenStream} (left : m.rest.length ≤ s.rest.length) :
      Settled ((do return relative position (← steps fuel)) m)
        ((do return relative position (← steps fuel')) m) :=
    settled_bind (ih.steps (by omega)) fun rest m _ => settled_pure _ m
  unfold operand
  apply settled_peek
  cases s.head.kind
  case number => exact settled_advance (settled_numberLiteral _ _)
  case string => exact settled_advance (settled_pure _ _)
  case property =>
    refine settled_ite (fun _ => settled_skip (settled_pure _ _)) fun _ => ?_
    refine settled_bind (ih.namedStep (by omega)) fun step m read => ?_
    have left := (readsAll _).namedStep.length_le read
    exact settled_bind (ih.steps (by omega)) fun rest m _ => settled_pure _ m
  case root =>
    exact settled_skip (settled_bind (ih.steps (by omega)) fun rest m _ => settled_pure _ m)
  case current => exact settled_skip (path _ behind)
  all_goals exact settled_ite (fun _ => path _ le_rfl) fun _ => settled_unexpected _ s

theorem settling (fuel fuel' : Nat) : Settling fuel fuel' := by
  induction fuel generalizing fuel' with
  | zero => constructor <;> intros <;> omega
  | succ fuel ih =>
      cases fuel' with
      | zero => constructor <;> intros <;> omega
      | succ fuel' =>
          exact {
            steps := settling_steps (ih fuel')
            afterDot := settling_afterDot (ih fuel')
            namedStep := settling_namedStep (ih fuel')
            arguments := settling_arguments (ih fuel')
            argument := settling_argument (ih fuel')
            disjunction := settling_disjunction (ih fuel')
            disjuncts := settling_disjuncts (ih fuel')
            conjunction := settling_conjunction (ih fuel')
            conjuncts := settling_conjuncts (ih fuel')
            unary := settling_unary (ih fuel')
            comparison := settling_comparison (ih fuel')
            operand := settling_operand (ih fuel') }

/-! ### Whole queries -/

theorem settled_headStep (s : TokenStream) : Settled (headStep s) (headStep s) := by
  unfold headStep
  refine settled_peek (settled_ite (fun _ => settled_get ?_) fun _ => settled_pure [] s)
  refine settled_bind ((settling _ _).namedStep ?_) fun step m _ => settled_pure _ m
  simp [fuelFor]

theorem settled_trailingCondition (pathIsEmpty : Bool) (s : TokenStream) :
    Settled (trailingCondition pathIsEmpty s) (trailingCondition pathIsEmpty s) := by
  have condition (subject : Option Node) :
      Settled ((do return some (← disjunction (fuelFor s) subject)) s)
        ((do return some (← disjunction (fuelFor s) subject)) s) := by
    refine settled_bind ((settling _ _).disjunction subject ?_) fun node m _ => settled_pure _ m
    simp [fuelFor]
  unfold trailingCondition
  apply settled_get
  apply settled_peek
  cases s.head.kind
  case comparator op => exact condition _
  case and => exact settled_unexpected _ s
  case or => exact settled_unexpected _ s
  all_goals exact settled_ite (fun _ => condition none) fun _ => settled_pure none s

theorem settled_finish {p p' : Parser α} (what : String)
    (hp : s.head.kind = .finish → Settled (p s.tail) (p' s.tail)) :
    Settled
      ((do
        if ← check .finish then discard advance
        else unexpected what
        p) s)
      ((do
        if ← check .finish then discard advance
        else unexpected what
        p') s) := by
  refine settled_ite (fun finish => hp (by simpa using finish)) fun _ => ?_
  refine settled_bind (settled_unexpected (α := PUnit) what s) ?_
  rintro _ _ ⟨⟩

theorem settled_queryBehind (rootPosition : Nat) (s : TokenStream) :
    Settled (queryBehind rootPosition s) (queryBehind rootPosition s) := by
  unfold queryBehind
  refine settled_bind (settled_headStep s) fun first m _ => settled_get ?_
  refine settled_bind ((settling _ _).steps (by simp [fuelFor])) fun rest m _ => settled_peek ?_
  refine settled_bind (settled_trailingCondition _ m) fun condition m _ => ?_
  refine settled_ite (fun _ => ?_) fun _ => settled_finish _ fun _ => settled_pure _ _
  refine settled_peek (settled_bind (settled_failAt (α := PUnit) _ m (by simp)) ?_)
  rintro _ _ ⟨⟩

theorem settled_query (s : TokenStream) : Settled (query s) (query s) := by
  rw [query_run]
  exact settled_queryBehind _ _

/-- The recursion and the loops that a query is read with come to an end by themselves: the fuel
they are given is enough, and with more of it they would answer the same. -/
structure Terminates (s : TokenStream) : Prop where
  query : ∀ e m, query s = .error e m → e.fault ≠ .nestingTooDeep
  namedStep {fuel : Nat} (h : fuelFor s ≤ fuel) :
    Settled (namedStep (fuelFor s) s) (namedStep fuel s)
  steps {fuel : Nat} (h : fuelFor s ≤ fuel) : Settled (steps (fuelFor s) s) (steps fuel s)
  disjunction {fuel : Nat} (subject : Option Node) (h : fuelFor s ≤ fuel) :
    Settled (disjunction (fuelFor s) subject s) (disjunction fuel subject s)
  quotedKeys {fuel : Nat} (h : s.rest.length ≤ fuel) :
    Settled (quotedKeys s.rest.length s) (quotedKeys fuel s)
  groupKeys {fuel : Nat} (h : s.rest.length + 1 ≤ fuel) :
    Settled (groupKeys (s.rest.length + 1) s) (groupKeys fuel s)

theorem terminates (s : TokenStream) : Terminates s where
  query := (settled_query s).2
  namedStep h := (settling _ _).namedStep (by unfold fuelFor at *; omega)
  steps h := (settling _ _).steps (by unfold fuelFor at *; omega)
  disjunction subject h := (settling _ _).disjunction subject (by unfold fuelFor at *; omega)
  quotedKeys h := settled_quotedKeys le_rfl h
  groupKeys h := settled_groupKeys (Nat.lt_succ_self _) h

end Parser

end PathQuery
