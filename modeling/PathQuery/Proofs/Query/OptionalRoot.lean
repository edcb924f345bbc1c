import PathQuery.Proofs.Query.Extent
import PathQuery.Proofs.Query.Fuel
import PathQuery.Proofs.Query.Likeness
import PathQuery.Proofs.Query.Offsets
import PathQuery.Proofs.Query.TokenForms

/-!
The root at the start of a query may be left out, and a name at the start stands for a step: with
`$`, or with `$.` in front of a name, the same query is read, as many bytes further on.
-/

namespace PathQuery

/-! ### Readings that are alike -/

namespace Query.Alike

variable {f g : Nat → Nat} {r r' r'' : Except SyntaxError Query}

theorem trans (h : Alike f r r') (h' : Alike g r' r'') : Alike (g ∘ f) r r'' := by
  cases h with
  | ok same =>
      cases h' with
      | ok same' => exact .ok (same'.trans same)
  | error message position =>
      cases h' with
      | error message' position' =>
          exact .error (message'.trans message) (by rw [position', position, Function.comp_apply])

end Query.Alike

/-! ### Behind the root -/

namespace Parser

/-- The path that a query begins with, behind its root. -/
def pathBehind : Parser (List Step) := do
  let first ← headStep
  return first ++ (← steps (fuelFor (← get)))

/-- What a query reads behind its path. -/
def queryEnd (rootPosition : Nat) (path : List Step) : Parser Query := do
  let conditionPosition := (← peek).position
  let condition ← trailingCondition path.isEmpty
  let last := condition.toList.map (⟨·, conditionPosition⟩)
  if condition.isSome && (← atStep) then
    failAt (← peek).position .stepAfterCondition
  if ← check .finish then discard advance
  else unexpected "path step, comparison or end of query"
  return ⟨⟨.root, rootPosition⟩ :: (path ++ last)⟩

theorem queryBehind_run (rootPosition : Nat) (s : TokenStream) :
    queryBehind rootPosition s = (pathBehind >>= queryEnd rootPosition) s := by
  unfold queryBehind pathBehind
  rw [bind_run, bind_run, bind_run]
  cases headStep s with
  | error e m => rfl
  | ok first m =>
      dsimp only
      rw [get_bind, get_bind, bind_run, bind_run]
      cases steps (fuelFor m) m <;> rfl

/-- Where the root stands is all that it changes. -/
theorem queryEnd_alike (position position' : Nat) (path : List Step) (s : TokenStream) :
    Query.Alike id (outcome (queryEnd position path s)) (outcome (queryEnd position' path s)) := by
  unfold queryEnd
  rw [peek_bind, peek_bind, bind_run, bind_run]
  cases trailingCondition path.isEmpty s with
  | error e m => exact .error rfl rfl
  | ok condition m =>
      dsimp only
      rw [atStep_bind, atStep_bind]
      split_ifs
      · exact .error rfl rfl
      rw [check_bind, check_bind]
      split_ifs
      · exact .ok rfl
      · exact .error rfl rfl

theorem queryBehind_alike (position position' : Nat) (s : TokenStream) :
    Query.Alike id (outcome (queryBehind position s)) (outcome (queryBehind position' s)) := by
  rw [queryBehind_run, queryBehind_run, bind_run, bind_run]
  cases pathBehind s with
  | error e m => exact .error rfl rfl
  | ok path m => exact queryEnd_alike _ _ path m

theorem pathBehind_name {s : TokenStream} (name : s.head.kind = .property)
    (word : isKeyword s.head = false) :
    pathBehind s =
      (do
        let step ← namedStep (fuelFor s)
        return step :: (← steps (fuelFor (← get)))) s := by
  unfold pathBehind headStep
  rw [bind_run, peek_bind, if_pos (by simp [name, word]), get_bind, bind_run, bind_run]
  cases namedStep (fuelFor s) s <;> rfl

theorem pathBehind_step {s : TokenStream} {dot : Token} (hd : dot.kind = .dot)
    (name : s.head.kind = .property) {fuel : Nat} (enough : fuelFor (s.prepend [dot]) = fuel + 2) :
    pathBehind (s.prepend [dot]) =
      (do
        let step ← namedStep fuel
        return step :: (← steps (fuel + 1))) s := by
  have none : headStep (s.prepend [dot]) = .ok [] (s.prepend [dot]) := by
    simp [headStep, hd]
  have step : afterDot (fuel + 1) dot.position s = namedStep fuel s := by
    rw [afterDot, peek_bind, name]
  unfold pathBehind
  rw [bind_run, none]
  dsimp only
  rw [get_bind, enough, bind_run, steps, peek_bind, TokenStream.head_prepend_cons, hd]
  dsimp only
  rw [discard_advance_bind, bind_run, step, bind_run]
  cases namedStep fuel s with
  | error e m => rfl
  | ok first m =>
      dsimp only
      rw [bind_run]
      cases steps (fuel + 1) m <;> rfl

/-- A dot in front of a name at the start changes nothing. -/
theorem pathBehind_dot {s : TokenStream} {dot : Token} (hd : dot.kind = .dot)
    (name : s.head.kind = .property) (word : isKeyword s.head = false) :
    pathBehind (s.prepend [dot]) = pathBehind s := by
  have enough : fuelFor (s.prepend [dot]) = 8 * s.rest.length + 14 + 2 := by
    rw [fuelFor, TokenStream.length_rest_prepend, List.length_singleton]
    omega
  rw [pathBehind_name name word, pathBehind_step hd name enough]
  -- both ways there is fuel enough for what is read
  have named : Settled (namedStep (fuelFor s) s) (namedStep (8 * s.rest.length + 14) s) :=
    (settling _ _).namedStep (by unfold fuelFor; omega)
  refine (settled_bind named fun step m read => ?_).1
  have short := (readsAll _).namedStep.length_le read
  rw [get_bind]
  exact settled_bind ((settling _ _).steps (by unfold fuelFor; omega)) fun rest m _ =>
    settled_pure _ m

/-- With the root and a dot in front, a query that begins with a name is read as behind its root. -/
theorem query_dot {s : TokenStream} {root dot : Token} (hr : root.kind = .root)
    (hd : dot.kind = .dot) (name : s.head.kind = .property) (word : isKeyword s.head = false) :
    query (s.prepend [root, dot]) = queryBehind root.position s := by
  have behind : (s.prepend [root, dot]).tail = s.prepend [dot] := rfl
  rw [query_run, TokenStream.head_prepend_cons, if_pos hr, behind, queryBehind_run, queryBehind_run,
    bind_run, bind_run, pathBehind_dot hd name word]

end Parser

/-! ### The tokens behind the marks -/

namespace Scanner

theorem next_single {c : Char} {kind : Token.Kind} (h : single? c = some kind) (cs : List Char)
    (offset : Nat) (dot : Bool) : next ⟨⟨c :: cs, offset⟩, dot⟩ =
      (.ok ⟨kind, String.ofList [c], offset⟩, ⟨⟨cs, offset + width [c]⟩, kind == .dot⟩) := by
  have nonblank := (single?_nonblank h).1
  have noBlanks : skipBlanks ⟨c :: cs, offset⟩ = ⟨c :: cs, offset⟩ := by
    simp [skipBlanks, skip, nonblank, width]
  have scanned : scan dot ⟨c :: cs, offset⟩ = take kind [c] ⟨c :: cs, offset⟩ := by
    simp only [scan, h]
  have taken : take kind [c] ⟨c :: cs, offset⟩ = _ := take_append kind [c] cs offset
  unfold next
  rw [noBlanks, scanned, taken]

theorem tokens_root (cs : List Char) (offset : Nat) : tokens ⟨⟨'$' :: cs, offset⟩, false⟩ =
    (tokens ⟨⟨cs, offset + 1⟩, false⟩).map (⟨.root, "$", offset⟩ :: ·) := by
  rw [tokens_eq, next_single rfl cs offset false]
  rfl

theorem tokens_dot (cs : List Char) (offset : Nat) : tokens ⟨⟨'.' :: cs, offset⟩, false⟩ =
    (tokens ⟨⟨cs, offset + 1⟩, true⟩).map (⟨.dot, ".", offset⟩ :: ·) := by
  rw [tokens_eq, next_single rfl cs offset false]
  rfl

/-- What behind a dot is a name again begins the same tokens there. -/
theorem tokens_behindDot {p : Place} {t : Token} {m : Scanner} (h : next ⟨p, false⟩ = (.ok t, m))
    (ht : t.kind = .property) : tokens ⟨p, true⟩ = tokens ⟨p, false⟩ := by
  obtain ⟨text, offset⟩ := p
  obtain ⟨gap, rest, blank, start, split, scanned, -⟩ := scan_of_next h
  dsimp only at split scanned
  subst split
  rw [tokens_eq, tokens_eq, next_of_scan blank start scanned,
    next_of_scan blank start (scan_name_behindDot scanned ht)]

/-- The tokens of a text begin with the first that is scanned. -/
theorem next_of_tokens {s : Scanner} {t : Token} {ts : List Token} (h : s.tokens = .ok (t :: ts)) :
    ∃ m, s.next = (.ok t, m) := by
  rw [tokens_eq] at h
  cases hn : s.next with
  | mk answer m =>
      rw [hn] at h
      cases answer with
      | error e => cases h
      | ok u =>
          dsimp only at h
          split at h
          · cases h
            exact ⟨m, rfl⟩
          · cases hm : m.tokens with
            | error e =>
                rw [hm] at h
                cases h
            | ok us =>
                rw [hm] at h
                cases h
                exact ⟨m, rfl⟩

/-- No token of a text that does not begin with a dollar sign is the root at the start. -/
theorem next_ne_root {s m : Scanner} {t : Token}
    (h : (s.rest.dropWhile Unicode.isWhiteSpace).head? ≠ some '$') (hn : s.next = (.ok t, m)) :
    t.kind ≠ .root := by
  intro ht
  obtain ⟨gap, rest, blank, start, split, scanned, -⟩ := scan_of_next hn
  rw [split, dropWhile_gap blank start] at h
  exact h (scan_root scanned ht)

end Scanner

/-! ### Texts with a root in front -/

section

open Scanner

variable {text text' : String} {n : Nat} {marks : List Token}

theorem head_of_next {s m : Scanner} {t finish : Token} {body : List Token}
    (h : s.tokens = .ok (body ++ [finish])) (hf : finish.kind = .finish)
    (hn : s.next = (.ok t, m)) (ht : t.kind ≠ .finish) :
    (TokenStream.mk body finish.position).head = t := by
  cases body with
  | nil =>
      obtain ⟨_, first⟩ := next_of_tokens h
      rw [hn] at first
      cases first
      exact absurd hf ht
  | cons u us =>
      obtain ⟨_, first⟩ := next_of_tokens h
      rw [hn] at first
      cases first
      rfl

theorem head_ne_root {s : Scanner} {finish : Token} {body : List Token}
    (noRoot : (s.rest.dropWhile Unicode.isWhiteSpace).head? ≠ some '$')
    (h : s.tokens = .ok (body ++ [finish])) :
    (TokenStream.mk body finish.position).head.kind ≠ .root := by
  cases body with
  | nil => simp [TokenStream.head, TokenStream.ahead, TokenStream.endToken]
  | cons t us =>
      obtain ⟨_, first⟩ := next_of_tokens h
      exact next_ne_root noRoot first

/-- Behind marks that stand for its root alone, a text is read as without them. -/
theorem parse_alike_behind
    (noRoot : (text.toList.dropWhile Unicode.isWhiteSpace).head? ≠ some '$')
    (tokens : tokenize text' =
      (movedAnswer (· + n) (List.map (Token.relocate (· + n))) (tokenize text)).map (marks ++ ·))
    (marked : ∀ body finish, tokenize text = .ok (body ++ [finish]) → finish.kind = .finish →
      ∃ position, Parser.query (((TokenStream.mk body finish.position).relocate (· + n)).prepend
        marks) = Parser.queryBehind position
          ((TokenStream.mk body finish.position).relocate (· + n))) :
    Query.Alike (· + n) (Query.parse text) (Query.parse text') := by
  unfold Query.parse
  cases ht : tokenize text with
  | error e =>
      rw [tokens, ht]
      exact Query.alike_error e
  | ok ts =>
      obtain ⟨body, finish, rfl, hf, -⟩ := tokens_sound ht
      have plain := head_ne_root noRoot ht
      obtain ⟨position, read⟩ := marked body finish ht hf
      have text_read : Query.ofTokens (body ++ [finish]) = Parser.outcome
          (Parser.queryBehind (TokenStream.mk body finish.position).head.position
            ⟨body, finish.position⟩) := by
        rw [ofTokens_eq_outcome body finish hf, Parser.query_run, if_neg plain]
      have text'_read : Query.ofTokens
          (marks ++ (body ++ [finish]).map (Token.relocate (· + n))) = Parser.outcome
            (Parser.queryBehind position
              ((TokenStream.mk body finish.position).relocate (· + n))) := by
        rw [List.map_append, List.map_singleton, ← List.append_assoc,
          ofTokens_eq_outcome _ (finish.relocate (· + n)) hf, ← read]
        rfl
      rw [tokens, ht]
      change Query.Alike _ (Query.ofTokens (body ++ [finish]))
        (Query.ofTokens (marks ++ (body ++ [finish]).map (Token.relocate (· + n))))
      rw [text_read, text'_read]
      exact ((Parser.moves_queryBehind _).alike _).trans (Parser.queryBehind_alike _ _ _)

theorem tokenize_dollar (text : String) : tokenize ("$" ++ text) =
    (movedAnswer (· + 1) (List.map (Token.relocate (· + 1))) (tokenize text)).map
      ([⟨.root, "$", 0⟩] ++ ·) := by
  unfold tokenize
  rw [← tokens_onward 1 (ofString text), ofString, String.toList_append]
  exact tokens_root text.toList 0

theorem tokenize_dollar_dot {t : Token} {m : Scanner}
    (h : (ofString text).next = (.ok t, m)) (ht : t.kind = .property) :
    tokenize ("$." ++ text) =
      (movedAnswer (· + 2) (List.map (Token.relocate (· + 2))) (tokenize text)).map
        ([⟨.root, "$", 0⟩, ⟨.dot, ".", 1⟩] ++ ·) := by
  have named : ((ofString text).onward 2).next = (.ok (t.relocate (· + 2)), m.onward 2) := by
    rw [next_onward, h]
    rfl
  have dotted : tokens ⟨⟨'.' :: text.toList, 1⟩, false⟩ =
      (tokens ⟨⟨text.toList, 2⟩, false⟩).map (⟨.dot, ".", 1⟩ :: ·) := by
    rw [tokens_dot]
    exact congrArg _ (tokens_behindDot named ht)
  unfold tokenize
  rw [← tokens_onward 2 (ofString text), ofString, String.toList_append]
  calc tokens ⟨⟨'$' :: '.' :: text.toList, 0⟩, false⟩
      = (tokens ⟨⟨'.' :: text.toList, 1⟩, false⟩).map (⟨.root, "$", 0⟩ :: ·) := tokens_root _ 0
    _ = ((tokens ⟨⟨text.toList, 2⟩, false⟩).map _).map (⟨.root, "$", 0⟩ :: ·) := by rw [dotted]
    _ = (tokens ⟨⟨text.toList, 2⟩, false⟩).map ([⟨.root, "$", 0⟩, ⟨.dot, ".", 1⟩] ++ ·) := by
      cases tokens ⟨⟨text.toList, 2⟩, false⟩ <;> rfl

/-- A query without the root at the start is read as with it. -/
theorem parse_dollar_alike
    (noRoot : (text.toList.dropWhile Unicode.isWhiteSpace).head? ≠ some '$') :
    Query.Alike (· + 1) (Query.parse text) (Query.parse ("$" ++ text)) := by
  refine parse_alike_behind noRoot (tokenize_dollar text) fun body finish _ _ => ⟨0, ?_⟩
  rw [Parser.query_run, TokenStream.head_prepend_cons, if_pos rfl]
  rfl

/-- The root at the start of a query may be left out: with it the same query is read, or the same
message comes one byte later. A name at the start goes without the dot as well. -/
theorem leading_root_optional (text : String)
    (noRoot : (text.toList.dropWhile Unicode.isWhiteSpace).head? ≠ some '$') :
    Query.Alike (· + 1) (Query.parse text) (Query.parse ("$" ++ text)) ∧
      ∀ t m, (ofString text).next = (.ok t, m) → t.kind = .property →
        Parser.isKeyword t = false →
          Query.Alike (· + 2) (Query.parse text) (Query.parse ("$." ++ text)) := by
  refine ⟨parse_dollar_alike noRoot, fun t m first name word => ?_⟩
  refine parse_alike_behind noRoot (tokenize_dollar_dot first name)
    fun body finish tokens hf => ⟨0, ?_⟩
  have head := head_of_next tokens hf first (by simp [name])
  have head' : ((TokenStream.mk body finish.position).relocate (· + 2)).head =
      t.relocate (· + 2) := by rw [TokenStream.head_relocate, head]
  refine Parser.query_dot rfl rfl ?_ ?_
  · rw [head']
    exact name
  · rw [head']
    exact word

/-- A bracket that is not closed: it is reported one byte later behind the root, and two bytes later
behind the root and a dot. -/
theorem leading_root_optional_unclosed :
    Query.Alike (· + 1) (Query.parse "a['é'") (Query.parse "$a['é'") ∧
      Query.Alike (· + 2) (Query.parse "a['é'") (Query.parse "$.a['é'") ∧
        ∃ fault, Query.parse "a['é'" = .error ⟨fault, 6⟩ := by
  have first : (ofString "a['é'").next =
      (.ok ⟨.property, "a", 0⟩, ⟨⟨['[', '\'', 'é', '\''], 1⟩, false⟩) := rfl
  have unclosed : Query.parse "a['é'" = .error ⟨.expected "']'" ⟨.finish, "", 6⟩, 6⟩ := by cbv
  have both := leading_root_optional "a['é'" (by decide)
  exact ⟨both.1, both.2 _ _ first rfl rfl, _, unclosed⟩

end

end PathQuery
