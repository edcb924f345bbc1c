import PathQuery.Proofs.Query.Extent
import PathQuery.Proofs.Query.Language
import PathQuery.Proofs.Query.Steps

/-!
Where the steps of a query stand. Steps occur at every depth, in the arguments of calls and on both
sides of comparisons; the position of each is that of a token. This needs no second look at the
grammar: the parser moves with the positions of its tokens, so a map of positions that leaves all
tokens where they are leaves the query as it is.
-/

namespace PathQuery

/-! ### Positions that a map leaves alone -/

section

variable {f : Nat → Nat}

mutual

theorem Node.fixed_innerSteps (n : Node) (h : n.relocate f = n) :
    ∀ s ∈ n.innerSteps, f s.position = s.position := by
  match n with
  | .call name args =>
      simp only [Node.relocate, Node.call.injEq, true_and] at h
      exact Node.fixed_innerStepsOfAll args h
  | .comparison op left right | .condition op left right =>
      simp only [Node.relocate, Node.comparison.injEq, Node.condition.injEq, true_and] at h
      rw [Node.innerSteps, List.forall_mem_append]
      exact ⟨Node.fixed_innerSteps left h.1, Node.fixed_innerSteps right h.2⟩
  | .not inner =>
      simp only [Node.relocate, Node.not.injEq] at h
      exact Node.fixed_innerSteps inner h
  | .path steps =>
      simp only [Node.relocate, Node.path.injEq] at h
      exact Node.fixed_withInnerSteps steps h
  | .root | .current | .property _ | .index _ | .slice _ | .wildcard | .multiKey _ | .omission _
  | .literal _ =>
      intro s hs
      cases hs

theorem Node.fixed_innerStepsOfAll (ns : List Node) (h : Node.relocateAll f ns = ns) :
    ∀ s ∈ Node.innerStepsOfAll ns, f s.position = s.position := by
  match ns with
  | [] =>
      intro s hs
      cases hs
  | n :: rest =>
      rw [Node.relocateAll, List.cons.injEq] at h
      rw [Node.innerStepsOfAll, List.forall_mem_append]
      exact ⟨Node.fixed_innerSteps n h.1, Node.fixed_innerStepsOfAll rest h.2⟩

theorem Node.fixed_withInnerSteps (steps : List (Located Node))
    (h : Node.relocateSteps f steps = steps) :
    ∀ s ∈ Node.withInnerSteps steps, f s.position = s.position := by
  match steps with
  | [] =>
      intro s hs
      cases hs
  | ⟨n, position⟩ :: rest =>
      rw [Node.relocateSteps, List.cons.injEq, Located.mk.injEq] at h
      obtain ⟨⟨inside, here⟩, behind⟩ := h
      rw [Node.withInnerSteps, List.forall_mem_cons, List.forall_mem_append]
      exact ⟨here, Node.fixed_innerSteps n inside, Node.fixed_withInnerSteps rest behind⟩

end

end

/-! ### Positions of tokens -/

/-- Moves all positions but the given ones. -/
def movingAllBut (kept : List Nat) (n : Nat) : Nat :=
  if n ∈ kept then n else n + 1

theorem mem_of_movingAllBut {kept : List Nat} {n : Nat} (h : movingAllBut kept n = n) :
    n ∈ kept := by
  by_contra outside
  rw [movingAllBut, if_neg outside] at h
  omega

/-- The tokens stay where they are when all but their positions move. -/
theorem TokenStream.relocate_movingAllBut (ts : List Token) (finish : Nat) :
    TokenStream.relocate (movingAllBut (finish :: ts.map Token.position)) ⟨ts, finish⟩ =
      ⟨ts, finish⟩ := by
  have kept {n : Nat} (h : n ∈ finish :: ts.map Token.position) :
      movingAllBut (finish :: ts.map Token.position) n = n := if_pos h
  have tokens : ts.map (Token.relocate (movingAllBut (finish :: ts.map Token.position))) = ts := by
    refine (List.map_congr_left fun t ht => ?_).trans (List.map_id ts)
    rw [Token.relocate, kept (List.mem_cons_of_mem _ (List.mem_map_of_mem ht)), id_eq]
  rw [TokenStream.relocate, tokens, kept List.mem_cons_self]

/-- Every step stands at a token or at the end of the query. -/
theorem position_of_query {ts : List Token} {finish : Nat} {q : Query} {s' : TokenStream}
    (h : Parser.query ⟨ts, finish⟩ = .ok q s') :
    ∀ s ∈ q.allSteps, s.position ∈ finish :: ts.map Token.position := by
  intro s hs
  have moved := Parser.moves_query (f := movingAllBut (finish :: ts.map Token.position))
    ⟨ts, finish⟩
  rw [TokenStream.relocate_movingAllBut, h] at moved
  simp only [EStateM.Result.ok.injEq] at moved
  have fixed : Node.relocateSteps (movingAllBut (finish :: ts.map Token.position)) q.steps =
      q.steps := by
    rw [Node.relocateSteps_eq_map]
    exact (congrArg Query.steps moved.1).symm
  exact mem_of_movingAllBut (Node.fixed_withInnerSteps q.steps fixed s hs)

/-- An error stands at a token or at the end of the query. -/
theorem position_of_query_error {ts : List Token} {finish : Nat} {e : SyntaxError}
    {s' : TokenStream} (h : Parser.query ⟨ts, finish⟩ = .error e s') :
    e.position ∈ finish :: ts.map Token.position := by
  have moved := Parser.moves_query (f := movingAllBut (finish :: ts.map Token.position))
    ⟨ts, finish⟩
  rw [TokenStream.relocate_movingAllBut, h] at moved
  simp only [EStateM.Result.error.injEq] at moved
  exact mem_of_movingAllBut (congrArg SyntaxError.position moved.1).symm

/-- Every step of a query stands at a token of its text. -/
theorem position_of_parse {text : String} {q : Query} (h : Query.parse text = .ok q) :
    ∃ ts, tokenize text = .ok ts ∧ ∀ s ∈ q.allSteps, ∃ t ∈ ts, t.position = s.position := by
  obtain ⟨ts, ht, read⟩ := exists_tokens_of_parse h
  refine ⟨ts, ht, fun s hs => ?_⟩
  obtain ⟨us, finish, rfl, hf, -⟩ := Scanner.tokens_sound ht
  obtain ⟨s', read⟩ := (ofTokens_append_finish hf q).1 read
  rcases List.mem_cons.1 (position_of_query read s hs) with he | he
  · exact ⟨finish, by simp, he.symm⟩
  · obtain ⟨t, hm, he⟩ := List.mem_map.1 he
    exact ⟨t, by simp [hm], he⟩

/-- No step stands behind the end of the text. -/
theorem position_le_of_parse {text : String} {q : Query} (h : Query.parse text = .ok q) :
    ∀ s ∈ q.allSteps, s.position ≤ text.utf8ByteSize := by
  obtain ⟨ts, tokenized, positions⟩ := position_of_parse h
  intro s hs
  obtain ⟨t, ht, he⟩ := positions s hs
  rw [← he]
  exact position_le_of_tokenize tokenized t ht

end PathQuery
