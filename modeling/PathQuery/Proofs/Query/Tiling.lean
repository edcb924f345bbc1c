import Mathlib
import PathQuery.Proofs.Query.Extent

/-!
Tokens tile their text. Between white space each token covers a piece of the text, which begins at
the position of the token; the pieces and the white space in turn are the whole text, and the end of
the query stands behind it. So no character is lost, and none is read twice.
-/

namespace PathQuery

/-- White space alone. -/
def Blank (cs : List Char) : Prop :=
  ∀ c ∈ cs, Unicode.isWhiteSpace c

/-- What a token may be written as. A string stands between two quotes of one kind, any other token
is written as its text. -/
structure Token.WrittenAs (t : Token) (span : List Char) : Prop where
  plain : t.kind ≠ .string → t.text.toList = span
  quoted : t.kind = .string →
    ∃ quote body, (quote = '"' ∨ quote = '\'') ∧ span = quote :: (body ++ [quote])

/-- The tokens of a text that begins at an offset. White space and the spans of tokens take turns,
up to the end of the query, which covers nothing. -/
inductive Tiles : (offset : Nat) → List Char → List Token → Prop
  | finish {offset : Nat} {gap : List Char} :
      Blank gap → Tiles offset gap [⟨.finish, "", offset + width gap⟩]
  | token {offset : Nat} {gap span rest : List Char} {t : Token} {ts : List Token} :
      Blank gap → t.kind ≠ .finish → t.position = offset + width gap → span ≠ [] →
      t.WrittenAs span → Tiles (offset + width (gap ++ span)) rest ts →
        Tiles offset (gap ++ span ++ rest) (t :: ts)

namespace Scanner

/-! ### One token -/

/-- A scan from one place to another that took a token, other than the end of the query. -/
structure Takes (p : Place) (t : Token) (q : Place) : Prop where
  kind : t.kind ≠ .finish
  position : t.position = p.offset
  span : ∃ span, span ≠ [] ∧ t.WrittenAs span ∧ p.rest = span ++ q.rest ∧
    q.offset = p.offset + width span

theorem single?_ne_string {c : Char} {kind : Token.Kind} (h : single? c = some kind) :
    kind ≠ .string := by
  unfold single? at h
  split at h
  case h_13 => cases h
  all_goals
    cases h
    decide

theorem operator?_ne_string {c : Char} {next : Option Char} {kind : Token.Kind}
    {taken : List Char} (h : operator? c next = some (.ok (kind, taken))) : kind ≠ .string := by
  unfold operator? at h
  split at h <;> (try split at h) <;> simp at h
  all_goals
    obtain ⟨rfl, -⟩ := h
    decide

theorem takes_take {kind : Token.Kind} {taken : List Char} {p q : Place} {t : Token}
    (open_ : kind ≠ .finish) (plain : kind ≠ .string) (ne_nil : taken ≠ [])
    (begins : taken <+: p.rest) (h : take kind taken p = (.ok t, q)) : Takes p t q := by
  cases h
  refine ⟨open_, rfl, taken, ne_nil, ⟨fun _ => String.toList_ofList, fun he => ?_⟩, ?_, rfl⟩
  · exact absurd he plain
  · obtain ⟨rest, hr⟩ := begins
    rw [skip, ← hr, List.drop_left]

theorem StringScan.eq_ok_of_cons {c : Char} {s : StringScan} {text : List Char} {q : Place}
    (h : s.cons c = (.ok text, q)) : ∃ behind, s = (.ok behind, q) := by
  unfold cons at h
  split at h
  · cases h
    exact ⟨_, rfl⟩
  · rename_i failed
    exact absurd h (failed _ _)

/-- A string that was read ends with the quote that it began with. -/
theorem stringBody_closed {quote : Char} {start offset : Nat} {cs text : List Char} {q : Place}
    (h : stringBody quote start cs offset = (.ok text, q)) :
    ∃ body, cs = body ++ quote :: q.rest := by
  fun_induction stringBody quote start cs offset generalizing text with
  | case1 | case2 | case4 | case5 | case7 => cases h
  | case3 a b c d rest offset x hx ih =>
      obtain ⟨_, h⟩ := StringScan.eq_ok_of_cons h
      obtain ⟨body, rfl⟩ := ih h
      exact ⟨'\\' :: 'u' :: a :: b :: c :: d :: body, rfl⟩
  | case6 e rest offset _ _ x hx ih =>
      obtain ⟨_, h⟩ := StringScan.eq_ok_of_cons h
      obtain ⟨body, rfl⟩ := ih h
      exact ⟨'\\' :: e :: body, rfl⟩
  | case8 c rest offset =>
      cases h
      exact ⟨[], rfl⟩
  | case9 c rest offset _ _ _ _ _ ih =>
      obtain ⟨_, h⟩ := StringScan.eq_ok_of_cons h
      obtain ⟨body, rfl⟩ := ih h
      exact ⟨c :: body, rfl⟩

theorem takes_scanString {quote : Char} (hq : quote = '"' ∨ quote = '\'') {rest : List Char}
    {offset : Nat} {q : Place} {t : Token}
    (h : scanString quote rest ⟨quote :: rest, offset⟩ = (.ok t, q)) :
    Takes ⟨quote :: rest, offset⟩ t q := by
  have answer := answers_scanString quote rest offset
  rw [h] at answer
  obtain ⟨⟨span, hspan, reached⟩, at_⟩ := answer
  unfold scanString at h
  dsimp only at h hspan reached
  split at h
  · rename_i closed
    cases h
    obtain ⟨body, hb⟩ := stringBody_closed closed
    -- the span is what was taken up to the closing quote
    have span_eq : span = quote :: (body ++ [quote]) := by
      have spans : span ++ q.rest = quote :: (body ++ [quote]) ++ q.rest := by
        rw [← hspan, hb]
        simp
      exact List.append_cancel_right spans
    refine ⟨by simp, rfl, span, by simp [span_eq], ⟨fun he => ?_, fun _ => ?_⟩, hspan, reached⟩
    · exact absurd rfl he
    · exact ⟨quote, body, hq, span_eq⟩
  · cases h

theorem takes_scanNumber {p q : Place} {t : Token} (h : scanNumber p = (.ok t, q))
    (hp : p.rest.head?.any Char.isDigit = true ∨ p.rest.head? = some '-') : Takes p t q := by
  unfold scanNumber at h
  dsimp only at h
  split at h
  · cases h
  · exact takes_take (by simp) (by simp) (numeral_ne_nil hp) (numeral_begins _) h

/-- A token is the end of the query, with nothing left to read, or it was taken. -/
theorem takes_scan {dot : Bool} {p q : Place} {t : Token} (h : scan dot p = (.ok t, q)) :
    (p.rest = [] ∧ t = ⟨.finish, "", p.offset⟩) ∨ Takes p t q := by
  obtain ⟨rest, offset⟩ := p
  unfold scan at h
  split at h
  · rename_i hr
    cases h
    exact .inl ⟨hr, rfl⟩
  rename_i c rest hr
  subst hr
  refine .inr ?_
  dsimp only at h
  split at h
  · rename_i hs
    exact takes_take (single?_nonblank hs).2.1 (single?_ne_string hs) (by simp) (by simp) h
  split at h
  · rename_i ho
    exact takes_take (operator?_nonblank ho).2.2.1 (operator?_ne_string ho) (operator_ne_nil ho)
      (operator_begins ho) h
  · cases h
  split at h
  · rename_i hc
    exact takes_scanString (by simpa using hc) h
  split at h
  · rename_i hc
    simp only [Bool.and_eq_true, Bool.or_eq_true, decide_eq_true_eq] at hc
    have first : isIdentifierChar c := by
      rcases hc.2 with hd | rfl
      · exact isIdentifierChar_of_isDigit hd
      · decide
    exact takes_take (by simp) (by simp) (by simp [first]) (List.takeWhile_prefix _) h
  split at h
  · rename_i hc
    simp only [Bool.or_eq_true, Bool.and_eq_true, decide_eq_true_eq] at hc
    refine takes_scanNumber h ?_
    rcases hc with hd | hd
    · exact .inl (by simpa using hd)
    · exact .inr (by simp [hd.1])
  split at h
  · rename_i hc
    have word := wordKind_cases ((c :: rest).takeWhile isIdentifierChar)
    refine takes_take ?_ ?_ (by simp [isIdentifierChar_of_starts hc]) (List.takeWhile_prefix _) h
    · rcases word with hk | hk | hk <;> rw [hk] <;> simp
    · rcases word with hk | hk | hk <;> rw [hk] <;> simp
  · cases h

/-! ### White space in front -/

/-- No white space comes first. -/
def StartsAtOnce (cs : List Char) : Prop :=
  ∀ c ∈ cs.head?, Unicode.isWhiteSpace c = false

theorem startsAtOnce_dropWhile (cs : List Char) :
    StartsAtOnce (cs.dropWhile Unicode.isWhiteSpace) := by
  intro c hc
  have first := List.head?_dropWhile_not Unicode.isWhiteSpace cs
  rw [Option.mem_def.1 hc] at first
  exact first

theorem startsAtOnce_append {span xs : List Char} (some : span ≠ []) (h : StartsAtOnce (span ++ xs))
    (ys : List Char) : StartsAtOnce (span ++ ys) := by
  obtain ⟨c, cs, rfl⟩ := List.exists_cons_of_ne_nil some
  exact h

theorem exists_gap (cs : List Char) :
    ∃ gap, Blank gap ∧ cs = gap ++ cs.dropWhile Unicode.isWhiteSpace :=
  ⟨cs.takeWhile Unicode.isWhiteSpace, List.all_eq_true.1 List.all_takeWhile,
    List.takeWhile_append_dropWhile.symm⟩

theorem dropWhile_gap {gap cs : List Char} (blank : Blank gap) (start : StartsAtOnce cs) :
    (gap ++ cs).dropWhile Unicode.isWhiteSpace = cs := by
  rw [List.dropWhile_append_of_pos blank]
  cases cs with
  | nil => rfl
  | cons c cs => exact List.dropWhile_cons_of_neg (by simp [start c rfl])

theorem skipBlanks_append {gap cs : List Char} (blank : Blank gap) (start : StartsAtOnce cs)
    (offset : Nat) : skipBlanks ⟨gap ++ cs, offset⟩ = ⟨cs, offset + width gap⟩ := by
  have none : cs.takeWhile Unicode.isWhiteSpace = [] := by
    cases cs with
    | nil => rfl
    | cons c cs => simpa [StartsAtOnce] using start
  have taken : (gap ++ cs).takeWhile Unicode.isWhiteSpace = gap := by
    rw [List.takeWhile_append_of_pos blank, none, List.append_nil]
  unfold skipBlanks skip
  dsimp only
  rw [taken, List.drop_left]

theorem next_of_scan {gap rest : List Char} {offset : Nat} {dot : Bool} {t : Token} {p : Place}
    (blank : Blank gap) (start : StartsAtOnce rest)
    (h : scan dot ⟨rest, offset + width gap⟩ = (.ok t, p)) :
    next ⟨⟨gap ++ rest, offset⟩, dot⟩ = (.ok t, ⟨p, t.kind == .dot⟩) := by
  unfold next
  rw [skipBlanks_append blank start, h]

/-- A scanner passes white space and scans behind it. -/
theorem scan_of_next {s m : Scanner} {t : Token} (h : s.next = (.ok t, m)) :
    ∃ gap rest, Blank gap ∧ StartsAtOnce rest ∧ s.rest = gap ++ rest ∧
      scan s.afterDot ⟨rest, s.offset + width gap⟩ = (.ok t, m.toPlace) ∧
        m.afterDot = (t.kind == .dot) := by
  obtain ⟨gap, blank, split⟩ := exists_gap s.rest
  have start := startsAtOnce_dropWhile s.rest
  have skipped := skipBlanks_append blank start s.offset
  rw [← split] at skipped
  refine ⟨gap, _, blank, start, split, ?_⟩
  unfold next at h
  rw [skipped] at h
  split at h
  · rename_i scanned
    cases h
    exact ⟨scanned, rfl⟩
  · cases h

/-- Behind white space the text is at its end, or a token is taken. -/
theorem next_eq_ok {s m : Scanner} {t : Token} (h : s.next = (.ok t, m)) :
    ∃ gap rest, Blank gap ∧ s.rest = gap ++ rest ∧
      ((rest = [] ∧ t = ⟨.finish, "", s.offset + width gap⟩) ∨
        Takes ⟨rest, s.offset + width gap⟩ t m.toPlace) := by
  obtain ⟨gap, rest, blank, -, split, scanned, -⟩ := scan_of_next h
  exact ⟨gap, rest, blank, split, takes_scan scanned⟩

/-! ### All tokens -/

/-- White space in front is not part of any token. -/
theorem tokens_skip {gap : List Char} (blank : Blank gap) (cs : List Char) (offset : Nat)
    (dot : Bool) : tokens ⟨⟨gap ++ cs, offset⟩, dot⟩ = tokens ⟨⟨cs, offset + width gap⟩, dot⟩ := by
  obtain ⟨more, blank', split⟩ := exists_gap cs
  have start := startsAtOnce_dropWhile cs
  have same : skipBlanks ⟨gap ++ cs, offset⟩ = skipBlanks ⟨cs, offset + width gap⟩ := by
    rw [split, ← List.append_assoc, skipBlanks_append blank' start,
      skipBlanks_append (List.forall_mem_append.2 ⟨blank, blank'⟩) start, width_append,
      Nat.add_assoc]
  have next : next ⟨⟨gap ++ cs, offset⟩, dot⟩ = next ⟨⟨cs, offset + width gap⟩, dot⟩ := by
    unfold Scanner.next
    rw [same]
  rw [tokens_eq, tokens_eq, next]

/-- The induction is along the tokens, each of which leaves a text for the next. -/
theorem tokens_tile {s : Scanner} {ts : List Token} (h : s.tokens = .ok ts) :
    Tiles s.offset s.rest ts := by
  induction s using tokens.induct generalizing ts with
  | case1 s e m hn =>
      rw [tokens_eq, hn] at h
      cases h
  | case2 s t m hn hk =>
      rw [tokens_eq, hn] at h
      dsimp only at h
      rw [if_pos hk] at h
      cases h
      obtain ⟨gap, rest, blank, split, ⟨rfl, rfl⟩ | taken⟩ := next_eq_ok hn
      · rw [split, List.append_nil]
        exact .finish blank
      · exact absurd hk taken.kind
  | case3 s t m hn hk ih =>
      rw [tokens_eq, hn] at h
      dsimp only at h
      rw [if_neg hk] at h
      cases hm : m.tokens with
      | error e =>
          rw [hm] at h
          cases h
      | ok us =>
          rw [hm] at h
          cases h
          obtain ⟨gap, rest, blank, split, ⟨-, rfl⟩ | taken⟩ := next_eq_ok hn
          · exact absurd rfl hk
          · obtain ⟨span, ne_nil, written, hr, ho⟩ := taken.span
            dsimp only at hr ho
            have behind := ih hm
            rw [ho, Nat.add_assoc, ← width_append] at behind
            rw [split, hr, ← List.append_assoc]
            exact .token blank taken.kind taken.position ne_nil written behind

end Scanner

namespace Tiles

variable {offset : Nat} {cs : List Char} {ts : List Token}

/-- The last token stands behind the text, and it is the only one that ends the query. -/
theorem finish_last (h : Tiles offset cs ts) :
    ∃ body, ts = body ++ [⟨.finish, "", offset + width cs⟩] ∧ ∀ t ∈ body, t.kind ≠ .finish := by
  induction h with
  | finish _ => exact ⟨[], rfl, by simp⟩
  | @token offset gap span rest t ts _ kind _ _ _ _ ih =>
      obtain ⟨body, rfl, kinds⟩ := ih
      refine ⟨t :: body, ?_, List.forall_mem_cons.2 ⟨kind, kinds⟩⟩
      rw [width_append (gap ++ span), Nat.add_assoc]
      rfl

/-- Each token stands behind a beginning of the text. -/
theorem position_eq (h : Tiles offset cs ts) :
    ∀ t ∈ ts, ∃ before after, cs = before ++ after ∧ t.position = offset + width before := by
  induction h with
  | @finish offset gap _ =>
      intro t ht
      obtain rfl := List.mem_singleton.1 ht
      exact ⟨gap, [], (List.append_nil gap).symm, rfl⟩
  | @token offset gap span rest t ts _ _ position _ _ _ ih =>
      rw [List.forall_mem_cons]
      refine ⟨⟨gap, span ++ rest, List.append_assoc _ _ _, position⟩, fun u hu => ?_⟩
      obtain ⟨before, after, rfl, hu⟩ := ih u hu
      refine ⟨gap ++ span ++ before, after, (List.append_assoc _ _ _).symm, ?_⟩
      rw [hu, width_append (gap ++ span), Nat.add_assoc]

end Tiles

/-- Behind a beginning of a text the next character begins. -/
theorem isValid_of_append {text : String} {before after : List Char}
    (h : text.toList = before ++ after) : (String.Pos.Raw.mk (width before)).IsValid text := by
  rw [String.Pos.Raw.isValid_iff_exists_append]
  refine ⟨String.ofList before, String.ofList after, ?_, ?_⟩
  · rw [← String.ofList_append, ← h, String.ofList_toList]
  · rw [← String.toList_ofList (l := before), width_toList, String.toList_ofList]
    rfl

/-- The tokens of a text tile it. Between white space each of them covers a piece of the text, which
begins at its position; the one end of the query is last and stands behind the text; and every
position is one where a character begins, or the end. -/
theorem tokenize_tiles {text : String} {ts : List Token} (h : tokenize text = .ok ts) :
    Tiles 0 text.toList ts ∧
      (∃ body, ts = body ++ [⟨.finish, "", text.utf8ByteSize⟩] ∧
        ∀ t ∈ body, t.kind ≠ .finish) ∧
      ∀ t ∈ ts, (String.Pos.Raw.mk t.position).IsValid text := by
  have tiled : Tiles 0 text.toList ts := Scanner.tokens_tile h
  refine ⟨tiled, ?_, fun t ht => ?_⟩
  · obtain ⟨body, hts, kinds⟩ := tiled.finish_last
    rw [Nat.zero_add, width_toList] at hts
    exact ⟨body, hts, kinds⟩
  · obtain ⟨before, after, split, position⟩ := tiled.position_eq t ht
    rw [position, Nat.zero_add]
    exact isValid_of_append split

/-- Letters of two bytes, a name of digits behind a dot, an operator of two characters, and a quote
that is escaped. -/
theorem tokenize_tiles_escaped_quote :
    ∃ ts, tokenize " $.né .0>= 'a\\'é' " = .ok ts ∧
      Tiles 0 " $.né .0>= 'a\\'é' ".toList ts ∧
      (∃ body, ts = body ++ [⟨.finish, "", " $.né .0>= 'a\\'é' ".utf8ByteSize⟩] ∧
        ∀ t ∈ body, t.kind ≠ .finish) ∧
      ∀ t ∈ ts, (String.Pos.Raw.mk t.position).IsValid " $.né .0>= 'a\\'é' " := by
  have tokens : tokenize " $.né .0>= 'a\\'é' " = .ok
      [⟨.root, "$", 1⟩, ⟨.dot, ".", 2⟩, ⟨.property, "né", 3⟩, ⟨.dot, ".", 7⟩, ⟨.property, "0", 8⟩,
        ⟨.comparator .ge, ">=", 9⟩, ⟨.string, "a'é", 12⟩, ⟨.finish, "", 20⟩] := by cbv
  exact ⟨_, tokens, tokenize_tiles tokens⟩

end PathQuery
