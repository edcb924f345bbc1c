import PathQuery.Proofs.Query.RoundTrip

/-!
The language of queries. A sequence of tokens is read exactly when the grammar derives it, as the
tree of the derivation, and the grammar derives no sequence with two different trees.
-/

namespace PathQuery

open Grammar

/-- The tokens, the last of which marks the end, are a query with this tree. -/
inductive Grammar.DerivesText : List Token → Query → Prop
  | mk {body : List Token} {finish : Token} {q : Query} :
      finish.kind = .finish → DerivesQuery finish.position body q →
        DerivesText (body ++ [finish]) q

/-- Tokens that are closed by an end token, and by no other, are read as the tokens before it. -/
theorem ofTokens_append_finish {body : List Token} {finish : Token}
    (hf : finish.kind = .finish) (q : Query) :
    Query.ofTokens (body ++ [finish]) = .ok q ↔
      ∃ s', Parser.query ⟨body, finish.position⟩ = .ok q s' := by
  have stream : TokenStream.ofTokens (body ++ [finish]) = ⟨body, finish.position⟩ := by
    simp [TokenStream.ofTokens, hf]
  rw [ofTokens_eq, stream]
  cases Parser.query ⟨body, finish.position⟩ with
  | ok q' s' => simp
  | error e s' => simp

/-- One sequence of tokens has one tree. -/
theorem Grammar.DerivesQuery.unique {finish : Nat} {ts : List Token} {q q' : Query}
    (ht : ∀ t ∈ ts, t.kind ≠ .finish) (h : DerivesQuery finish ts q)
    (h' : DerivesQuery finish ts q') : q = q' := by
  obtain ⟨s, read⟩ := (query_iff ht).2 h
  obtain ⟨s', read'⟩ := (query_iff ht).2 h'
  rw [read] at read'
  cases read'
  rfl

theorem exists_tokens_of_parse {text : String} {q : Query} (h : Query.parse text = .ok q) :
    ∃ ts, tokenize text = .ok ts ∧ Query.ofTokens ts = .ok q := by
  cases ht : tokenize text with
  | error e =>
      unfold Query.parse at h
      rw [ht] at h
      cases h
  | ok ts =>
      rw [parse_of_tokenize ht] at h
      exact ⟨ts, rfl, h⟩

/-- The tokens of a text are read as a query exactly when the grammar derives them, and the tree is
the one of the derivation, of which there is no other. -/
theorem ofTokens_eq_ok_iff {text : String} {ts : List Token} (h : tokenize text = .ok ts)
    (q : Query) :
    (Query.ofTokens ts = .ok q ↔ DerivesText ts q) ∧
      ∀ q', DerivesText ts q → DerivesText ts q' → q = q' := by
  obtain ⟨body, finish, rfl, hf, kinds⟩ := Scanner.tokens_sound h
  have open_ : ∀ t ∈ body, t.kind ≠ .finish := fun t ht => (kinds t ht).1
  have derives (q : Query) :
      DerivesText (body ++ [finish]) q ↔ DerivesQuery finish.position body q := by
    constructor
    · intro hd
      generalize hts : body ++ [finish] = ts at hd
      cases hd with
      | mk _ hd =>
          obtain ⟨rfl, he⟩ := List.append_inj' hts rfl
          cases he
          exact hd
    · exact fun hd => .mk hf hd
  refine ⟨?_, fun q' hq hq' => ?_⟩
  · rw [ofTokens_append_finish hf, query_iff open_, derives]
  · exact ((derives q).1 hq).unique open_ ((derives q').1 hq')

/-- A call with a condition among its arguments and a slice, compared behind them, and a condition
joined to the comparison. -/
theorem derivesText_condition_behind_call :
    ∃ ts q, tokenize "a.f(!(b < $), @)[:] == 'x' || !{c} != $.d" = .ok ts ∧
      Query.ofTokens ts = .ok q ∧ DerivesText ts q ∧ ∀ q', DerivesText ts q' → q = q' := by
  have parsed : Query.parse "a.f(!(b < $), @)[:] == 'x' || !{c} != $.d" = .ok
      ⟨[⟨.root, 0⟩, ⟨.property "a", 0⟩,
        ⟨.call "f" [.not (.comparison .lt (.path [⟨.current, 6⟩, ⟨.property "b", 6⟩])
          (.path [⟨.root, 10⟩])), .current], 2⟩,
        ⟨.slice ⟨none, none, none⟩, 16⟩,
        ⟨.condition .or (.comparison .eq .current (.literal (.string "x")))
          (.comparison .ne (.path [⟨.current, 30⟩, ⟨.omission ["c"], 30⟩])
            (.path [⟨.root, 38⟩, ⟨.property "d", 40⟩])), 20⟩]⟩ := by cbv
  obtain ⟨ts, tokenized, read⟩ := exists_tokens_of_parse parsed
  obtain ⟨exact_, unique⟩ := ofTokens_eq_ok_iff tokenized _
  have derived := exact_.1 read
  exact ⟨ts, _, tokenized, read, derived, fun q' hq => unique q' derived hq⟩

end PathQuery
