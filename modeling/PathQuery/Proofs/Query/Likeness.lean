import PathQuery.Proofs.Access.TokenCursor
import PathQuery.Proofs.Query.RoundTrip
import PathQuery.Proofs.Query.Steps

/-!
Queries that are read alike from two texts: the trees differ at most in positions, and an error has
the same message at a place that can be told from the other. Since the parser never looks at a
position, texts with the same tokens at other places are read alike.
-/

namespace PathQuery

open Scanner

variable (f g : Nat → Nat)

/-! ### Positions that nothing shows -/

theorem Node.relocate_relocate (n : Node) : (n.relocate f).relocate g = n.relocate (g ∘ f) := by
  induction n using Node.induction with
  | leaf n h => cases n <;> first | rfl | cases h
  | path steps ih =>
      simp only [Node.relocate, Node.relocateSteps_eq_map, List.map_map]
      refine congrArg _ (List.map_congr_left fun s hs => ?_)
      simp only [Function.comp_apply, Step.relocate, ih s hs]
  | call name args ih =>
      simp only [Node.relocate, Node.relocateAll_eq_map, List.map_map]
      exact congrArg _ (List.map_congr_left ih)
  | comparison op left right hl hr => simp only [Node.relocate, hl, hr]
  | condition op left right hl hr => simp only [Node.relocate, hl, hr]
  | not inner ih => simp only [Node.relocate, ih]

theorem Query.bare_relocate (q : Query) : (q.relocate f).bare = q.bare := by
  refine congrArg Query.mk ?_
  rw [Query.relocate, List.map_map]
  refine List.map_congr_left fun s _ => ?_
  simp only [Step.relocate, Function.comp_apply, Node.relocate_relocate, Function.comp_def]

theorem Node.chars_relocate (n : Node) : (n.relocate f).chars = n.chars := by
  induction n using Node.induction with
  | leaf n h => cases n <;> first | rfl | cases h
  | path steps ih =>
      simp only [Node.relocate, Node.relocateSteps_eq_map, Node.chars]
      induction steps with
      | nil => rfl
      | cons s rest ihs =>
          rw [List.forall_mem_cons] at ih
          rw [List.map_cons, Step.relocate, Node.stepChars, Node.stepChars, ih.1, ihs ih.2]
  | call name args ih =>
      simp only [Node.relocate, Node.relocateAll_eq_map, Node.chars]
      congr 4
      induction args with
      | nil => rfl
      | cons arg rest iha =>
          rw [List.forall_mem_cons] at ih
          cases rest with
          | nil => simp only [List.map_cons, List.map_nil, Node.argumentChars, ih.1]
          | cons arg' rest =>
              have others := iha ih.2
              simp only [List.map_cons] at others
              simp only [List.map_cons, Node.argumentChars, ih.1, others]
  | comparison op left right hl hr => simp only [Node.relocate, Node.chars, hl, hr]
  | condition op left right hl hr => simp only [Node.relocate, Node.chars, hl, hr]
  | not inner ih => simp only [Node.relocate, Node.chars, ih]

@[simp] theorem Node.text_relocate (n : Node) : (n.relocate f).text = n.text :=
  congrArg String.ofList (n.chars_relocate f)

theorem SyntaxFault.message_relocate (fault : SyntaxFault) :
    (fault.relocate f).message = fault.message := by
  cases fault with
  | expected what got =>
      have same : (got.relocate f).description = got.description := rfl
      exact congrArg (fun text => "Expected " ++ what ++ ", got " ++ text) same
  | _ => rfl

theorem SyntaxError.message_relocate (e : SyntaxError) : (e.relocate f).message = e.message :=
  e.fault.message_relocate f

/-! ### Readings that are alike -/

/-- The same query but for positions, or the same message at the place that `move` gives. -/
inductive Query.Alike (move : Nat → Nat) :
    Except SyntaxError Query → Except SyntaxError Query → Prop
  | ok {q q' : Query} : q'.bare = q.bare → Alike move (.ok q) (.ok q')
  | error {e e' : SyntaxError} :
      e'.message = e.message → e'.position = move e.position → Alike move (.error e) (.error e')

variable {f}

theorem Query.alike_error (e : SyntaxError) : Alike f (.error e) (.error (e.relocate f)) :=
  .error (e.message_relocate f) rfl

/-- What moves with its tokens is read alike. -/
theorem Parser.Moves.alike {p p' : Parser Query} (h : Moves f (Query.relocate f) p p')
    (s : TokenStream) : Query.Alike f (outcome (p s)) (outcome (p' (s.relocate f))) := by
  rw [h s]
  cases p s with
  | ok q m => exact .ok (q.bare_relocate f)
  | error e m => exact Query.alike_error e

theorem ofTokens_eq_outcome (body : List Token) (finish : Token) (hf : finish.kind = .finish) :
    Query.ofTokens (body ++ [finish]) = Parser.outcome (Parser.query ⟨body, finish.position⟩) := by
  have stream : TokenStream.ofTokens (body ++ [finish]) = ⟨body, finish.position⟩ := by
    simp [TokenStream.ofTokens, hf]
  rw [ofTokens_eq, stream]
  cases Parser.query ⟨body, finish.position⟩ <;> rfl

/-- Tokens at other places are read alike. -/
theorem ofTokens_alike (f : Nat → Nat) {ts : List Token}
    (closed : ∃ body finish, ts = body ++ [finish] ∧ finish.kind = .finish) :
    Query.Alike f (Query.ofTokens ts) (Query.ofTokens (ts.map (Token.relocate f))) := by
  obtain ⟨body, finish, rfl, hf⟩ := closed
  rw [List.map_append, List.map_singleton, ofTokens_eq_outcome body finish hf,
    ofTokens_eq_outcome _ (finish.relocate f) hf]
  exact Parser.moves_query.alike ⟨body, finish.position⟩

/-- Texts whose tokens differ in their positions alone write one query. -/
theorem parse_of_same_tokens {text text' : String} {ts ts' : List Token}
    (h : tokenize text = .ok ts) (h' : tokenize text' = .ok ts')
    (same : ts.map (Token.relocate fun _ => 0) = ts'.map (Token.relocate fun _ => 0)) {q : Query}
    (read : Query.parse text = .ok q) : ∃ q', Query.parse text' = .ok q' ∧ q'.bare = q.bare := by
  obtain ⟨body, finish, closed, hf, -⟩ := tokens_sound h
  obtain ⟨body', finish', closed', hf', -⟩ := tokens_sound h'
  have alike := ofTokens_alike (fun _ => 0) ⟨body, finish, closed, hf⟩
  have alike' := ofTokens_alike (fun _ => 0) ⟨body', finish', closed', hf'⟩
  rw [parse_of_tokenize h] at read
  rw [parse_of_tokenize h']
  rw [read, same] at alike
  generalize Query.ofTokens (ts'.map (Token.relocate fun _ => 0)) = r at alike alike'
  generalize Query.ofTokens ts' = r' at alike'
  cases alike with
  | ok bare =>
      cases alike' with
      | ok bare' => exact ⟨_, rfl, bare'.symm.trans bare⟩

end PathQuery
