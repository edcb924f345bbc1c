import PathQuery.Proofs.Query.Likeness
import PathQuery.Proofs.Query.Offsets
import PathQuery.Proofs.Query.TokenEnds

/-!
White space between tokens means nothing. Wherever it is put in, in front of a token or of the end
of the query, the tokens are the same but for their positions, and so is what is parsed from them.
-/

namespace PathQuery

open Scanner

variable (blanks : Nat → List Char)

/-! ### Putting in white space -/

/-- The text from an offset on, with `blanks n` in front of the character at each offset `n`, and
behind the last one. -/
def spaced : List Char → Nat → List Char
  | [], offset => blanks offset
  | c :: cs, offset => blanks offset ++ c :: spaced cs (offset + c.utf8Size)

/-- How much is put in before an offset. -/
def putIn (n : Nat) : Nat :=
  ∑ m ∈ Finset.range n, width (blanks m)

/-- Where the character at an offset is once everything is put in. -/
def movedTo (n : Nat) : Nat :=
  n + putIn blanks (n + 1)

/-- The text with white space put in. -/
def respace (text : String) : String :=
  String.ofList (spaced blanks text.toList 0)

variable {blanks}

theorem width_pos {cs : List Char} (some : cs ≠ []) : 0 < width cs := by
  obtain ⟨c, cs, rfl⟩ := List.exists_cons_of_ne_nil some
  exact Nat.add_pos_left c.utf8Size_pos _

theorem putIn_succ (n : Nat) : putIn blanks (n + 1) = putIn blanks n + width (blanks n) :=
  Finset.sum_range_succ _ n

theorem putIn_eq {a b : Nat} (h : a ≤ b) (none : ∀ n, a ≤ n → n < b → blanks n = []) :
    putIn blanks b = putIn blanks a := by
  induction b, h using Nat.le_induction with
  | base => rfl
  | succ b hb ih =>
      rw [putIn_succ, ih fun n hn hlt => none n hn (hlt.trans (Nat.lt_succ_self b)),
        none b hb (Nat.lt_succ_self b)]
      rfl

theorem spaced_append {xs : List Char} (ys : List Char) {offset : Nat}
    (none : ∀ n, offset ≤ n → n < offset + width xs → blanks n = []) :
    spaced blanks (xs ++ ys) offset = xs ++ spaced blanks ys (offset + width xs) := by
  induction xs generalizing offset with
  | nil => rfl
  | cons c xs ih =>
      have size := c.utf8Size_pos
      rw [width] at none ⊢
      rw [List.cons_append, spaced, none offset le_rfl (by omega),
        ih fun n hn hlt => none n (by omega) (by omega), Nat.add_assoc]
      rfl

/-- In front of a token white space is put in, and none into it. -/
theorem spaced_span {span : List Char} (some : span ≠ []) (rest : List Char) {offset : Nat}
    (none : ∀ n, offset < n → n < offset + width span → blanks n = []) :
    spaced blanks (span ++ rest) offset =
      blanks offset ++ (span ++ spaced blanks rest (offset + width span)) := by
  obtain ⟨c, cs, rfl⟩ := List.exists_cons_of_ne_nil some
  have size := c.utf8Size_pos
  rw [width] at none ⊢
  rw [List.cons_append, spaced, spaced_append rest fun n hn hlt => none n (by omega) (by omega),
    Nat.add_assoc]
  rfl

/-- The text begins as before, up to the end or the first blank that is put in. -/
theorem exists_spaced (blank : ∀ n, Blank (blanks n)) (cs : List Char) (offset : Nat) :
    ∃ w x y, cs = w ++ x ∧ AtBlank y ∧ spaced blanks cs offset = w ++ y := by
  induction cs generalizing offset with
  | nil => exact ⟨[], [], _, rfl, atBlank_of_blank (blank offset), rfl⟩
  | cons d cs ih =>
      rw [spaced]
      cases hb : blanks offset with
      | cons c y =>
          refine ⟨[], d :: cs, _, rfl, fun c' hc => ?_, rfl⟩
          exact blank offset c' (by simp_all)
      | nil =>
          obtain ⟨w, x, y, rfl, hy, split⟩ := ih (offset + d.utf8Size)
          exact ⟨d :: w, x, y, rfl, hy, by rw [split]; rfl⟩

namespace Scanner

variable {dot : Bool} {t : Token} {s m : Scanner} {ts : List Token}

/-- A token stays as it is when white space is put into the text behind it. -/
theorem scan_spaced (blank : ∀ n, Blank (blanks n)) {span rest : List Char} {offset offset' : Nat}
    (some : span ≠ []) (h : scan dot ⟨span ++ rest, offset⟩ = (.ok t, ⟨rest, offset'⟩)) :
    scan dot ⟨span ++ spaced blanks rest offset', offset⟩ =
      (.ok t, ⟨spaced blanks rest offset', offset'⟩) := by
  obtain ⟨w, x, y, rfl, hy, split⟩ := exists_spaced blank rest offset'
  rw [split]
  exact scan_before_blank hy some h

/-- The scanner at the same place of the text with white space put in. -/
def spacedAt (blanks : Nat → List Char) (s : Scanner) : Scanner :=
  ⟨⟨spaced blanks s.rest s.offset, s.offset + putIn blanks s.offset⟩, s.afterDot⟩

/-- The next token is the same, at its new place, when white space is put in at no other places than
in front of it and behind it. -/
theorem next_spaced (blank : ∀ n, Blank (blanks n)) (h : s.next = (.ok t, m))
    (ht : t.kind ≠ .finish) (before : ∀ n, s.offset ≤ n → n < t.position → blanks n = [])
    (within : ∀ n, t.position < n → n < m.offset → blanks n = []) :
    (s.spacedAt blanks).next = (.ok (t.relocate (movedTo blanks)), m.spacedAt blanks) := by
  obtain ⟨gap, rest, gapBlank, start, split, scanned, flag⟩ := scan_of_next h
  rcases takes_scan scanned with ⟨-, rfl⟩ | taken
  · exact absurd rfl ht
  obtain ⟨span, some, -, hr, ho⟩ := taken.span
  have position : t.position = s.offset + width gap := taken.position
  dsimp only at hr ho
  subst hr
  rw [← position] at scanned ho
  -- the white space put in before the token moves it, and all that is behind it
  have text : spaced blanks s.rest s.offset =
      gap ++ blanks t.position ++ (span ++ spaced blanks m.rest m.offset) := by
    rw [split, spaced_append _ fun n hn hlt => before n hn (by omega), ← position,
      spaced_span some _ fun n hn hlt => within n hn (by omega), ← ho, List.append_assoc]
  have stays := scan_spaced blank some scanned
  have moved := scan_onward (putIn blanks (t.position + 1)) s.afterDot
    ⟨span ++ spaced blanks m.rest m.offset, t.position⟩
  rw [stays] at moved
  have front : putIn blanks t.position = putIn blanks s.offset :=
    putIn_eq (by omega) fun n hn hlt => before n hn hlt
  have behind : putIn blanks m.offset = putIn blanks (t.position + 1) := by
    have size := width_pos some
    exact putIn_eq (by omega) fun n hn hlt => within n hn hlt
  have at_ : s.offset + putIn blanks s.offset + width (gap ++ blanks t.position) =
      t.position + putIn blanks (t.position + 1) := by
    rw [width_append, putIn_succ, front]
    omega
  have scanned' : scan s.afterDot ⟨span ++ spaced blanks m.rest m.offset,
      s.offset + putIn blanks s.offset + width (gap ++ blanks t.position)⟩ =
        (.ok (t.relocate (movedTo blanks)),
          ⟨spaced blanks m.rest m.offset, m.offset + putIn blanks m.offset⟩) := by
    rw [at_, behind]
    exact moved
  unfold spacedAt
  rw [text, flag]
  exact next_of_scan (List.forall_mem_append.2 ⟨gapBlank, blank _⟩)
    (startsAtOnce_append some start _) scanned'

/-- The end of the query moves behind all the white space. -/
theorem finish_spaced (blank : ∀ n, Blank (blanks n)) (h : s.next = (.ok t, m))
    (ht : t.kind = .finish) (before : ∀ n, s.offset ≤ n → n < t.position → blanks n = []) :
    ∃ m', (s.spacedAt blanks).next = (.ok (t.relocate (movedTo blanks)), m') := by
  obtain ⟨gap, rest, gapBlank, -, split, scanned, -⟩ := scan_of_next h
  rcases takes_scan scanned with ⟨rfl, rfl⟩ | taken
  · rw [List.append_nil] at split
    have text : spaced blanks s.rest s.offset = gap ++ blanks (s.offset + width gap) := by
      rw [split, ← List.append_nil gap, spaced_append _ (by simpa using before)]
      simp [spaced]
    have front : putIn blanks (s.offset + width gap) = putIn blanks s.offset :=
      putIn_eq (Nat.le_add_right _ _) before
    have at_ : s.offset + putIn blanks s.offset + width (gap ++ blanks (s.offset + width gap)) =
        movedTo blanks (s.offset + width gap) := by
      rw [movedTo, width_append, putIn_succ, front]
      omega
    have scanned' : scan s.afterDot ⟨[], s.offset + putIn blanks s.offset +
        width (gap ++ blanks (s.offset + width gap))⟩ =
          (.ok ⟨.finish, "", movedTo blanks (s.offset + width gap)⟩,
            ⟨[], movedTo blanks (s.offset + width gap)⟩) := by
      rw [at_]
      rfl
    have next := next_of_scan (List.forall_mem_append.2 ⟨gapBlank, blank _⟩)
      (by simp [StartsAtOnce]) scanned'
    rw [List.append_nil, ← text] at next
    exact ⟨_, next⟩
  · exact absurd ht taken.kind

theorem position_lt_of_next (h : s.next = (.ok t, m)) (ht : t.kind ≠ .finish) :
    s.offset ≤ t.position ∧ t.position < m.offset := by
  obtain ⟨gap, rest, -, -, ⟨-, rfl⟩ | taken⟩ := next_eq_ok h
  · exact absurd rfl ht
  · obtain ⟨span, some, -, -, ho⟩ := taken.span
    have position : t.position = s.offset + width gap := taken.position
    have size := width_pos some
    dsimp only at ho
    omega

/-- White space may be put in where tokens start. The induction is along the tokens. -/
theorem tokens_spaced (blank : ∀ n, Blank (blanks n)) (h : s.tokens = .ok ts)
    (starts : ∀ n, s.offset ≤ n → blanks n ≠ [] → ∃ t ∈ ts, t.position = n) :
    (s.spacedAt blanks).tokens = .ok (ts.map (Token.relocate (movedTo blanks))) := by
  induction s using tokens.induct generalizing ts with
  | case1 s e m hn =>
      rw [tokens_eq, hn] at h
      cases h
  | case2 s t m hn hk =>
      rw [tokens_eq, hn] at h
      dsimp only at h
      rw [if_pos hk] at h
      cases h
      have before (n : Nat) (hn : s.offset ≤ n) (hlt : n < t.position) : blanks n = [] := by
        by_contra some
        obtain ⟨u, hu, position⟩ := starts n hn some
        rw [List.mem_singleton.1 hu] at position
        omega
      obtain ⟨m', next⟩ := finish_spaced blank hn hk before
      rw [tokens_eq, next]
      dsimp only
      rw [if_pos (show (t.relocate _).kind = .finish from hk)]
      rfl
  | case3 s t m hn hk ih =>
      rw [tokens_eq, hn] at h
      dsimp only at h
      rw [if_neg hk] at h
      cases hm : m.tokens with
      | error e =>
          rw [hm] at h
          cases h
      | ok us =>
          rw [hm] at h
          cases h
          obtain ⟨front, short⟩ := position_lt_of_next hn hk
          -- the other tokens are behind the first
          have place (n : Nat) (hs : s.offset ≤ n) (some : blanks n ≠ []) :
              n = t.position ∨ m.offset ≤ n ∧ ∃ u ∈ us, u.position = n := by
            obtain ⟨u, hu, rfl⟩ := starts n hs some
            rcases List.mem_cons.1 hu with rfl | hu
            · exact .inl rfl
            · exact .inr ⟨(tokens_position hm u hu).1, u, hu, rfl⟩
          have first := next_spaced blank hn hk
            (fun n hs hlt => by
              by_contra some
              rcases place n hs some with rfl | ⟨behind, -⟩ <;> omega)
            (fun n hs hlt => by
              by_contra some
              rcases place n (by omega) some with rfl | ⟨behind, -⟩ <;> omega)
          have others := ih hm fun n hs some => by
            rcases place n (by omega) some with rfl | ⟨-, behind⟩
            · omega
            · exact behind
          rw [tokens_eq, first]
          dsimp only
          rw [if_neg (show (t.relocate _).kind ≠ .finish from hk), others]
          rfl

end Scanner

/-- White space at the start of tokens, or of the end of the query, is insignificant: it moves the
tokens and changes nothing about their kinds and texts, and the same query is parsed, or the same
message comes at the place that has moved with them. -/
theorem white_space_insignificant {text : String} {ts : List Token} (h : tokenize text = .ok ts)
    (blank : ∀ n, Blank (blanks n)) (starts : ∀ n, blanks n ≠ [] → ∃ t ∈ ts, t.position = n) :
    tokenize (respace blanks text) = .ok (ts.map (Token.relocate (movedTo blanks))) ∧
      Query.Alike (movedTo blanks) (Query.parse text) (Query.parse (respace blanks text)) := by
  have tokens :
      tokenize (respace blanks text) = .ok (ts.map (Token.relocate (movedTo blanks))) := by
    have spaced := tokens_spaced blank h fun n _ => starts n
    unfold tokenize respace ofString
    rw [String.toList_ofList]
    exact spaced
  refine ⟨tokens, ?_⟩
  obtain ⟨body, finish, closed, hf, -⟩ := tokens_sound h
  rw [parse_of_tokenize h, parse_of_tokenize tokens]
  exact ofTokens_alike _ ⟨body, finish, closed, hf⟩

/-- A blank in front of every token but the first and an operator, and at the end. Behind a dot a
digit is a key, with a blank between the two as well. -/
theorem white_space_insignificant_key :
    let blanks : Nat → List Char := fun n => if n ∈ [1, 2, 5, 8] then [' '] else []
    respace blanks "a.0>=1e2" = "a . 0>= 1e2 " ∧
      (∃ ts, tokenize "a.0>=1e2" = .ok ts ∧
        tokenize "a . 0>= 1e2 " = .ok (ts.map (Token.relocate (movedTo blanks)))) ∧
        Query.Alike (movedTo blanks) (Query.parse "a.0>=1e2") (Query.parse "a . 0>= 1e2 ") := by
  intro blanks
  have spaced : respace blanks "a.0>=1e2" = "a . 0>= 1e2 " := by decide
  have tokens : tokenize "a.0>=1e2" = .ok
      [⟨.property, "a", 0⟩, ⟨.dot, ".", 1⟩, ⟨.property, "0", 2⟩, ⟨.comparator .ge, ">=", 3⟩,
        ⟨.number, "1e2", 5⟩, ⟨.finish, "", 8⟩] := tokenize_eq_within _
  have blank (n : Nat) : Blank (blanks n) := by
    intro c hc
    have space : c = ' ' := by
      dsimp only [blanks] at hc
      split at hc <;> simp_all
    subst space
    decide
  obtain ⟨tokens', read⟩ := white_space_insignificant tokens blank fun n some => by
    have hn : n ∈ [1, 2, 5, 8] := by
      by_contra hn
      exact some (if_neg hn)
    fin_cases hn <;> simp
  rw [spaced] at tokens' read
  exact ⟨spaced, ⟨_, tokens, tokens'⟩, read⟩

end PathQuery
