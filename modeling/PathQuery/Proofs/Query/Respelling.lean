import PathQuery.Proofs.Query.Language
import PathQuery.Proofs.Query.Likeness
import PathQuery.Proofs.Query.Offsets
import PathQuery.Proofs.Query.OptionalRoot

/-!
Other spellings of a query. A query has a text with the root in front, and any number of blanks may
stand behind the root: unless the query is the root alone, it has as many spellings as there are
numbers.
-/

namespace PathQuery

namespace Scanner

variable {s s' : Scanner}

/-- Where the first scanner gives tokens the second gives the same, positions apart. -/
def Follows (s s' : Scanner) : Prop :=
  ∀ ⦃ts⦄, s.tokens = .ok ts → ∃ ts', s'.tokens = .ok ts' ∧
    ts'.map (Token.relocate fun _ => 0) = ts.map (Token.relocate fun _ => 0)

theorem follows_offset (cs : List Char) (offset offset' : Nat) (dot : Bool) :
    Follows ⟨⟨cs, offset⟩, dot⟩ ⟨⟨cs, offset'⟩, dot⟩ := by
  intro ts h
  have moved (n : Nat) := tokens_onward n ⟨⟨cs, 0⟩, dot⟩
  have front (n : Nat) : onward n ⟨⟨cs, 0⟩, dot⟩ = ⟨⟨cs, n⟩, dot⟩ := by
    simp [onward, Place.onward]
  rw [← front, moved] at h ⊢
  cases hm : tokens ⟨⟨cs, 0⟩, dot⟩ with
  | error e =>
      rw [hm] at h
      cases h
  | ok us =>
      rw [hm] at h
      cases h
      exact ⟨_, rfl, by simp [Token.relocate]⟩

end Scanner

open Scanner

theorem parse_of_follows {text text' : String} {q : Query}
    (h : Follows (ofString text) (ofString text')) (read : Query.parse text = .ok q) :
    ∃ q', Query.parse text' = .ok q' ∧ q'.bare = q.bare := by
  obtain ⟨ts, tokens, -⟩ := exists_tokens_of_parse read
  obtain ⟨ts', tokens', same⟩ := h tokens
  exact parse_of_same_tokens tokens tokens' same.symm read

/-- The root, some blanks, and what is behind it. -/
def spreadRoot (cs : List Char) (n : Nat) : String :=
  String.ofList ('$' :: (List.replicate n ' ' ++ cs))

/-- The tokens of a text are the root and the tokens of `cs`, somewhere. -/
def RootedAt (text : String) (cs : List Char) : Prop :=
  ∃ position offset, tokenize text =
    (tokens ⟨⟨cs, offset⟩, false⟩).map (⟨.root, "$", position⟩ :: ·)

variable {text text' : String} {cs : List Char}

/-- A text that begins with the root, white space apart. -/
theorem exists_rootedAt (h : (text.toList.dropWhile Unicode.isWhiteSpace).head? = some '$') :
    ∃ cs, StartsAtOnce cs ∧ RootedAt text cs := by
  obtain ⟨gap, blank, split⟩ := exists_gap text.toList
  obtain ⟨rest, hr⟩ := List.head?_eq_some_iff.1 h
  obtain ⟨gap', blank', split'⟩ := exists_gap rest
  refine ⟨_, startsAtOnce_dropWhile rest, width gap, width gap + 1 + width gap', ?_⟩
  rw [← tokens_skip blank', ← split', ← tokens_root, ← hr]
  have skipped := tokens_skip blank (text.toList.dropWhile Unicode.isWhiteSpace) 0 false
  rw [← split, Nat.zero_add] at skipped
  exact skipped

theorem rootedAt_spreadRoot (cs : List Char) (n : Nat) : RootedAt (spreadRoot cs n) cs := by
  have blank : Blank (List.replicate n ' ') := by
    intro c hc
    rw [List.eq_of_mem_replicate hc]
    decide
  refine ⟨0, 1 + width (List.replicate n ' '), ?_⟩
  rw [← tokens_skip blank]
  unfold tokenize ofString spreadRoot
  rw [String.toList_ofList]
  exact tokens_root _ 0

/-- Texts with the same behind the root write the same query. -/
theorem parse_of_rootedAt {q : Query} (h : RootedAt text cs) (h' : RootedAt text' cs)
    (read : Query.parse text = .ok q) : ∃ q', Query.parse text' = .ok q' ∧ q'.bare = q.bare := by
  obtain ⟨position, offset, split⟩ := h
  obtain ⟨position', offset', split'⟩ := h'
  refine parse_of_follows (fun ts tokens => ?_) read
  rw [show (ofString text).tokens = _ from split] at tokens
  cases behind : Scanner.tokens ⟨⟨cs, offset⟩, false⟩ with
  | error e =>
      rw [behind] at tokens
      cases tokens
  | ok us =>
      rw [behind] at tokens
      cases tokens
      obtain ⟨us', behind', same⟩ := follows_offset cs offset offset' false behind
      refine ⟨⟨.root, "$", position'⟩ :: us', ?_, by simp [same, Token.relocate]⟩
      rw [show (ofString text').tokens = _ from split', behind']
      rfl

/-- Behind the root there is something, unless the query is the root. -/
theorem ne_nil_of_rootedAt {q : Query} (h : RootedAt text cs) (read : Query.parse text = .ok q)
    (more : q.bare ≠ ⟨[⟨.root, 0⟩]⟩) : cs ≠ [] := by
  rintro rfl
  obtain ⟨position, offset, split⟩ := h
  have alone : tokens ⟨⟨[], offset⟩, false⟩ = .ok [⟨.finish, "", offset⟩] := by
    rw [tokens_eq]
    rfl
  rw [alone] at split
  rw [parse_of_tokenize split] at read
  cases read
  exact more rfl

/-- A query other than the root is written with any number of blanks behind the root. -/
theorem exists_spreadRoot {q : Query} (read : Query.parse text = .ok q)
    (more : q.bare ≠ ⟨[⟨.root, 0⟩]⟩) : ∃ cs, cs ≠ [] ∧ StartsAtOnce cs ∧
      ∀ n, ∃ q', Query.parse (spreadRoot cs n) = .ok q' ∧ q'.bare = q.bare := by
  -- with the root written out, if need be
  obtain ⟨rooted, q', first, read', bare⟩ : ∃ rooted q',
      (rooted.toList.dropWhile Unicode.isWhiteSpace).head? = some '$' ∧
        Query.parse rooted = .ok q' ∧ q'.bare = q.bare := by
    by_cases first : (text.toList.dropWhile Unicode.isWhiteSpace).head? = some '$'
    · exact ⟨text, q, first, read, rfl⟩
    · have dollar : ("$" ++ text).toList = '$' :: text.toList := String.toList_append
      have front : (("$" ++ text).toList.dropWhile Unicode.isWhiteSpace).head? = some '$' := by
        rw [dollar]
        rfl
      have alike := parse_dollar_alike first
      rw [read] at alike
      generalize read' : Query.parse ("$" ++ text) = answer at alike
      cases alike with
      | ok bare => exact ⟨_, _, front, read', bare⟩
  obtain ⟨cs, start, rooted⟩ := exists_rootedAt first
  refine ⟨cs, ne_nil_of_rootedAt rooted read' (bare ▸ more), start, fun n => ?_⟩
  obtain ⟨q'', spread, bare'⟩ := parse_of_rootedAt rooted (rootedAt_spreadRoot cs n) read'
  exact ⟨q'', spread, bare'.trans bare⟩

end PathQuery
