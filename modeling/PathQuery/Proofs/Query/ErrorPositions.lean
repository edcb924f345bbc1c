import PathQuery.Proofs.Query.Positions
import PathQuery.Proofs.Query.Tiling

/-!
Where syntax errors stand. A scanner that fails names the place it is at, or one it passed since the
last token; either lies in the text. A parser that fails names the position of a token, which shows
without a second look at its productions: an error moves with the positions of the tokens, so a map
that leaves all of these where they are leaves the error there too.
-/

namespace PathQuery

/-! ### Errors of the scanner -/

/-- The error stands at a place that is reached by taking characters. -/
def Place.Names (p : Place) (e : SyntaxError) : Prop :=
  ∃ q, p.Reaches q ∧ e.position = q.offset

namespace Place.Names

variable {p q : Place} {e : SyntaxError}

theorem here (fault : SyntaxFault) (p : Place) : p.Names ⟨fault, p.offset⟩ :=
  ⟨p, .refl p, rfl⟩

theorem behind (h : p.Reaches q) (hq : q.Names e) : p.Names e := by
  obtain ⟨r, hr, he⟩ := hq
  exact ⟨r, h.trans hr, he⟩

end Place.Names

namespace Scanner

theorem StringScan.eq_error_of_cons {c : Char} {s : StringScan} {e : SyntaxError} {q : Place}
    (h : s.cons c = (.error e, q)) : s = (.error e, q) := by
  unfold cons at h
  split at h
  · cases h
  · exact h

/-- An error in a string stands where the string began, or at an escape inside it. -/
theorem stringBody_names {quote : Char} {start offset : Nat} {cs : List Char} {e : SyntaxError}
    {q : Place} (h : stringBody quote start cs offset = (.error e, q)) :
    e.position = start ∨ (Place.mk cs offset).Names e := by
  fun_induction stringBody quote start cs offset with
  | case1 | case2 =>
      cases h
      exact .inl rfl
  | case3 a b c d rest offset x hx ih =>
      refine (ih (StringScan.eq_error_of_cons h)).imp_right fun inside => ?_
      exact .behind (reaches_unicodeEscape hx rest offset) inside
  | case4 | case5 | case7 =>
      cases h
      exact .inr (.here _ _)
  | case6 c rest offset _ _ x hx ih =>
      refine (ih (StringScan.eq_error_of_cons h)).imp_right fun inside => ?_
      exact .behind (reaches_escape c rest offset) inside
  | case8 => cases h
  | case9 c rest offset _ _ _ _ _ ih =>
      refine (ih (StringScan.eq_error_of_cons h)).imp_right fun inside => ?_
      exact .behind (.cons _ _ _) inside

theorem scanString_names {quote : Char} {rest : List Char} {offset : Nat} {e : SyntaxError}
    {q : Place} (h : scanString quote rest ⟨quote :: rest, offset⟩ = (.error e, q)) :
    (Place.mk (quote :: rest) offset).Names e := by
  unfold scanString at h
  dsimp only at h
  split at h
  · cases h
  · rename_i failed
    cases h
    rcases stringBody_names failed with start | inside
    · exact ⟨_, .refl _, start⟩
    · exact .behind (.cons _ _ _) inside

theorem scan_names {dot : Bool} {p q : Place} {e : SyntaxError}
    (h : scan dot p = (.error e, q)) : p.Names e := by
  obtain ⟨rest, offset⟩ := p
  unfold scan at h
  split at h
  · cases h
  rename_i c rest hr
  subst hr
  dsimp only at h
  split at h
  · cases h
  split at h
  · cases h
  · cases h
    exact .here _ _
  split at h
  · exact scanString_names h
  split at h
  · cases h
  split at h
  · unfold scanNumber at h
    dsimp only at h
    split at h
    · cases h
      exact .here _ _
    · cases h
  split at h
  · cases h
  · cases h
    exact .here _ _

theorem next_names {s m : Scanner} {e : SyntaxError} (h : s.next = (.error e, m)) :
    s.toPlace.Names e := by
  unfold next at h
  split at h
  · cases h
  · rename_i failed
    cases h
    exact .behind (.skipBlanks _) (scan_names failed)

/-- The induction is along the tokens before the error. -/
theorem tokens_names {s : Scanner} {e : SyntaxError} (h : s.tokens = .error e) :
    s.toPlace.Names e := by
  induction s using tokens.induct with
  | case1 s e' m hn =>
      rw [tokens_eq, hn] at h
      cases h
      exact next_names hn
  | case2 s t m hn hk =>
      rw [tokens_eq, hn] at h
      dsimp only at h
      rw [if_pos hk] at h
      cases h
  | case3 s t m hn hk ih =>
      rw [tokens_eq, hn] at h
      dsimp only at h
      rw [if_neg hk] at h
      have reached : s.toPlace.Reaches m.toPlace := by
        have := next_reaches s
        rwa [hn] at this
      cases hm : m.tokens with
      | error e' =>
          rw [hm] at h
          cases h
          exact .behind reached (ih hm)
      | ok us =>
          rw [hm] at h
          cases h

end Scanner

/-! ### Rejected texts -/

/-- A text is rejected by the scanner, or by the parser on its tokens. -/
theorem parse_eq_error {text : String} {e : SyntaxError} (h : Query.parse text = .error e) :
    tokenize text = .error e ∨ ∃ ts, tokenize text = .ok ts ∧ Query.ofTokens ts = .error e := by
  cases ht : tokenize text with
  | error e' =>
      unfold Query.parse at h
      rw [ht] at h
      cases h
      exact .inl rfl
  | ok ts =>
      rw [parse_of_tokenize ht] at h
      exact .inr ⟨ts, rfl, h⟩

/-- An error of the scanner stands where a character of the text begins, or at its end. -/
theorem isValid_of_tokenize_error {text : String} {e : SyntaxError}
    (h : tokenize text = .error e) : (String.Pos.Raw.mk e.position).IsValid text := by
  obtain ⟨q, ⟨taken, split, reached⟩, he⟩ := Scanner.tokens_names h
  have offset : e.position = width taken := by
    rw [he, reached]
    exact Nat.zero_add _
  rw [offset]
  exact isValid_of_append split

theorem isValid_of_token {text : String} {ts : List Token} (h : tokenize text = .ok ts) :
    ∀ t ∈ ts, (String.Pos.Raw.mk t.position).IsValid text := by
  intro t ht
  obtain ⟨before, after, split, position⟩ := (Scanner.tokens_tile h).position_eq t ht
  rw [position]
  exact (Nat.zero_add (width before)).symm ▸ isValid_of_append split

/-- An error of the parser stands at a token. -/
theorem position_of_ofTokens_error {text : String} {ts : List Token} {e : SyntaxError}
    (h : tokenize text = .ok ts) (rejected : Query.ofTokens ts = .error e) :
    ∃ t ∈ ts, t.position = e.position := by
  obtain ⟨body, finish, rfl, hf, -⟩ := Scanner.tokens_sound h
  have stream : TokenStream.ofTokens (body ++ [finish]) = ⟨body, finish.position⟩ := by
    simp [TokenStream.ofTokens, hf]
  rw [ofTokens_eq, stream] at rejected
  cases hq : Parser.query ⟨body, finish.position⟩ with
  | ok q s' =>
      rw [hq] at rejected
      cases rejected
  | error e' s' =>
      rw [hq] at rejected
      cases rejected
      rcases List.mem_cons.1 (position_of_query_error hq) with he | he
      · exact ⟨finish, by simp, he.symm⟩
      · obtain ⟨t, ht, he⟩ := List.mem_map.1 he
        exact ⟨t, by simp [ht], he⟩

/-- A syntax error points into the text it is about: at a place where a character begins, or at the
end, and if the text has tokens, at one of them. -/
theorem syntax_error_position {text : String} {e : SyntaxError}
    (h : Query.parse text = .error e) :
    e.position ≤ text.utf8ByteSize ∧ (String.Pos.Raw.mk e.position).IsValid text ∧
      ∀ ts, tokenize text = .ok ts → ∃ t ∈ ts, t.position = e.position := by
  have valid : (String.Pos.Raw.mk e.position).IsValid text := by
    rcases parse_eq_error h with failed | ⟨ts, tokenized, rejected⟩
    · exact isValid_of_tokenize_error failed
    · obtain ⟨t, ht, he⟩ := position_of_ofTokens_error tokenized rejected
      exact he ▸ isValid_of_token tokenized t ht
  refine ⟨valid.le_rawEndPos, valid, fun ts tokenized => ?_⟩
  rcases parse_eq_error h with failed | ⟨us, tokenized', rejected⟩
  · rw [tokenized] at failed
    cases failed
  · rw [tokenized] at tokenized'
    cases tokenized'
    exact position_of_ofTokens_error tokenized rejected

/-- A comparison without its right side, and an escape that there is not, behind letters of two
bytes. -/
theorem syntax_error_position_behind_letters :
    (∃ e, Query.parse "é.né == " = .error e ∧ e.position = 10 ∧
      (e.position ≤ "é.né == ".utf8ByteSize ∧
        (String.Pos.Raw.mk e.position).IsValid "é.né == " ∧
        ∀ ts, tokenize "é.né == " = .ok ts → ∃ t ∈ ts, t.position = e.position)) ∧
    ∃ e, Query.parse "é == 'ü\\x'" = .error e ∧ e.position = 9 ∧
      (e.position ≤ "é == 'ü\\x'".utf8ByteSize ∧
        (String.Pos.Raw.mk e.position).IsValid "é == 'ü\\x'" ∧
        ∀ ts, tokenize "é == 'ü\\x'" = .ok ts → ∃ t ∈ ts, t.position = e.position) := by
  have rejected : Query.parse "é.né == " = .error ⟨.expected "value" ⟨.finish, "", 10⟩, 10⟩ ∧
      Query.parse "é == 'ü\\x'" = .error ⟨.invalidEscape 'x', 9⟩ :=
    ⟨by cbv, by cbv⟩
  exact ⟨⟨_, rejected.1, rfl, syntax_error_position rejected.1⟩,
    ⟨_, rejected.2, rfl, syntax_error_position rejected.2⟩⟩

end PathQuery
