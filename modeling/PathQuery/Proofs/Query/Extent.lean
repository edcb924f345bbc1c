import PathQuery.Proofs.Query.Lexemes

/-!
A scanner stays in its text. Whatever it answers, what it took is the beginning of what was left,
and its offset has grown by the width of that. So every token stands somewhere in the text, and none
before the place where scanning began.
-/

namespace PathQuery

open Scanner

/-- From one place to another by taking characters. -/
def Place.Reaches (p q : Place) : Prop :=
  ∃ taken, p.rest = taken ++ q.rest ∧ q.offset = p.offset + width taken

namespace Place.Reaches

variable {p q r : Place}

theorem refl (p : Place) : p.Reaches p :=
  ⟨[], rfl, rfl⟩

theorem trans (h : p.Reaches q) (h' : q.Reaches r) : p.Reaches r := by
  obtain ⟨taken, hr, ho⟩ := h
  obtain ⟨taken', hr', ho'⟩ := h'
  refine ⟨taken ++ taken', ?_, ?_⟩
  · rw [hr, hr', List.append_assoc]
  · rw [ho', ho, width_append, Nat.add_assoc]

/-- The end of the text is where it was. -/
theorem end_eq (h : p.Reaches q) : q.offset + width q.rest = p.offset + width p.rest := by
  obtain ⟨taken, hr, ho⟩ := h
  rw [hr, ho, width_append, Nat.add_assoc]

theorem offset_le (h : p.Reaches q) : p.offset ≤ q.offset := by
  obtain ⟨taken, -, ho⟩ := h
  omega

theorem skip {taken : List Char} (h : taken <+: p.rest) : p.Reaches (Scanner.skip taken p) := by
  obtain ⟨rest, hr⟩ := h
  refine ⟨taken, ?_, rfl⟩
  rw [Scanner.skip, ← hr, List.drop_left]

theorem skipBlanks (p : Place) : p.Reaches (Scanner.skipBlanks p) :=
  skip (List.takeWhile_prefix _)

theorem cons (c : Char) (rest : List Char) (offset : Nat) :
    (Place.mk (c :: rest) offset).Reaches ⟨rest, offset + c.utf8Size⟩ :=
  ⟨[c], rfl, rfl⟩

end Place.Reaches

theorem width_toList (s : String) : width s.toList = s.utf8ByteSize := by
  suffices h : ∀ cs : List Char, width cs = (String.ofList cs).utf8ByteSize by
    rw [h, String.ofList_toList]
  intro cs
  induction cs with
  | nil => rfl
  | cons c cs ih =>
      rw [width, ih, String.ofList_cons, String.utf8ByteSize_append, String.utf8ByteSize_singleton]

/-! ### Strings -/

theorem reaches_unicodeEscape {a b c d x : Char} (h : unicodeEscape? a b c d = some x)
    (rest : List Char) (offset : Nat) :
    (Place.mk ('\\' :: 'u' :: a :: b :: c :: d :: rest) offset).Reaches ⟨rest, offset + 6⟩ := by
  refine ⟨['\\', 'u', a, b, c, d], rfl, ?_⟩
  unfold unicodeEscape? at h
  obtain ⟨n, code, -⟩ := Option.bind_eq_some_iff.1 h
  rw [width_of_codeUnit? code]

theorem reaches_escape (e : Char) (rest : List Char) (offset : Nat) :
    (Place.mk ('\\' :: e :: rest) offset).Reaches ⟨rest, offset + 1 + e.utf8Size⟩ := by
  refine ⟨['\\', e], rfl, ?_⟩
  have sign : '\\'.utf8Size = 1 := rfl
  simp only [width, sign]
  omega

theorem reaches_badUnicodeEscape (start : Nat) (cs : List Char) :
    (Place.mk ('\\' :: 'u' :: cs) start).Reaches (badUnicodeEscape start cs).2 := by
  have digits : ((cs.take 4).takeWhile fun c => (hexValue? c).isSome) <+: cs :=
    (List.takeWhile_prefix _).trans (List.take_prefix _ _)
  have sign : (Place.mk ('\\' :: 'u' :: cs) start).Reaches ⟨cs, start + 2⟩ :=
    ⟨['\\', 'u'], rfl, rfl⟩
  exact sign.trans (.skip digits)

theorem reaches_stringBody (quote : Char) (start : Nat) (cs : List Char) (offset : Nat) :
    (Place.mk cs offset).Reaches (stringBody quote start cs offset).2 := by
  fun_induction stringBody quote start cs offset with
  | case1 offset => exact .refl _
  | case2 offset => exact .cons _ _ _
  | case3 a b c d rest offset x hx ih =>
      rw [rest_cons]
      exact (reaches_unicodeEscape hx rest offset).trans ih
  | case4 a b c d rest offset hx => exact reaches_badUnicodeEscape _ _
  | case5 rest offset hr => exact reaches_badUnicodeEscape _ _
  | case6 e rest offset _ _ x hx ih =>
      rw [rest_cons]
      exact (reaches_escape e rest offset).trans ih
  | case7 e rest offset => exact .cons _ _ _
  | case8 c rest offset => exact .cons _ _ _
  | case9 c rest offset _ _ _ _ _ ih =>
      rw [rest_cons]
      exact (Place.Reaches.cons _ _ _).trans ih

/-! ### Numerals -/

theorem fraction_begins (cs : List Char) : fraction cs <+: cs := by
  unfold fraction
  split
  · split
    · exact List.cons_prefix_cons.2 ⟨rfl, List.takeWhile_prefix _⟩
    · exact List.nil_prefix
  · exact List.nil_prefix

theorem exponent_begins (cs : List Char) : exponent cs <+: cs := by
  unfold exponent
  split
  · rename_i e s rest
    split
    · split
      · dsimp only
        split
        · exact List.nil_prefix
        · refine List.cons_prefix_cons.2 ⟨rfl, List.cons_prefix_cons.2 ⟨rfl, ?_⟩⟩
          exact List.takeWhile_prefix _
      · dsimp only
        split
        · exact List.nil_prefix
        · exact List.cons_prefix_cons.2 ⟨rfl, List.takeWhile_prefix _⟩
    · exact List.nil_prefix
  · exact List.nil_prefix

/-- A beginning, and a beginning of what is left behind it. -/
theorem append_prefix_of_drop {xs ys cs : List Char} (hx : xs <+: cs)
    (hy : ys <+: cs.drop xs.length) : xs ++ ys <+: cs := by
  obtain ⟨rest, rfl⟩ := hx
  rw [List.drop_left] at hy
  exact (List.prefix_append_right_inj xs).2 hy

theorem numeral_begins (cs : List Char) : numeral cs <+: cs := by
  have sign : (if cs.head? = some '-' then ['-'] else []) <+: cs := by
    split
    · rename_i hc
      cases cs with
      | nil => cases hc
      | cons c rest =>
          cases hc
          exact List.cons_prefix_cons.2 ⟨rfl, List.nil_prefix⟩
    · exact List.nil_prefix
  -- each part begins what the parts before it leave
  have whole := append_prefix_of_drop sign (List.takeWhile_prefix Char.isDigit)
  have part := append_prefix_of_drop whole (fraction_begins _)
  have power := append_prefix_of_drop part (exponent_begins _)
  simpa [numeral, List.drop_drop, Nat.add_assoc] using power

/-! ### Tokens -/

/-- The place that is reached, and where a token stands. -/
def Answers (p : Place) (a : Answer) : Prop :=
  p.Reaches a.2 ∧ ∀ t, a.1 = .ok t → t.position = p.offset

theorem answers_error {p q : Place} (e : SyntaxError) (h : p.Reaches q) :
    Answers p (.error e, q) :=
  ⟨h, by simp⟩

theorem answers_take (kind : Token.Kind) {taken : List Char} {p : Place} (h : taken <+: p.rest) :
    Answers p (take kind taken p) := by
  refine ⟨.skip h, ?_⟩
  rintro t ⟨⟩
  rfl

theorem answers_scanString (quote : Char) (rest : List Char) (offset : Nat) :
    Answers ⟨quote :: rest, offset⟩ (scanString quote rest ⟨quote :: rest, offset⟩) := by
  have body := reaches_stringBody quote offset rest (offset + quote.utf8Size)
  have whole := (Place.Reaches.cons quote rest offset).trans body
  unfold scanString
  dsimp only
  split
  · rename_i he
    rw [he] at whole
    refine ⟨whole, ?_⟩
    rintro t ⟨⟩
    rfl
  · rename_i he
    rw [he] at whole
    exact answers_error _ whole

theorem answers_scanNumber (p : Place) : Answers p (scanNumber p) := by
  unfold scanNumber
  dsimp only
  split
  · refine answers_error _ (.trans (.skip (numeral_begins _)) (.skip (List.takeWhile_prefix _)))
  · exact answers_take _ (numeral_begins _)

theorem operator_begins {c : Char} {rest : List Char} {kind : Token.Kind} {taken : List Char}
    (h : operator? c rest.head? = some (.ok (kind, taken))) : taken <+: c :: rest := by
  have two {d : Char} (hd : rest.head? = some d) : [c, d] <+: c :: rest := by
    cases rest with
    | nil => cases hd
    | cons r rest =>
        cases hd
        simp
  have one : [c] <+: c :: rest := by simp
  unfold operator? at h
  split at h <;> (try split at h) <;> simp at h
  all_goals
    obtain ⟨-, rfl⟩ := h
    first
      | exact two ‹_›
      | exact one

theorem answers_scan (afterDot : Bool) (p : Place) : Answers p (scan afterDot p) := by
  obtain ⟨rest, offset⟩ := p
  unfold scan
  split
  · refine ⟨.refl _, ?_⟩
    rintro t ⟨⟩
    rfl
  rename_i c rest hr
  subst hr
  split
  · exact answers_take _ (by simp)
  split
  · rename_i he
    exact answers_take _ (operator_begins he)
  · exact answers_error _ (.refl _)
  split
  · exact answers_scanString c rest offset
  split
  · exact answers_take _ (List.takeWhile_prefix _)
  split
  · exact answers_scanNumber _
  split
  · exact answers_take _ (List.takeWhile_prefix _)
  · exact answers_error _ (.refl _)

theorem next_reaches (s : Scanner) : s.toPlace.Reaches s.next.2.toPlace := by
  have answer := answers_scan s.afterDot (skipBlanks s.toPlace)
  unfold next
  split
  · rename_i he
    rw [he] at answer
    exact (Place.Reaches.skipBlanks _).trans answer.1
  · rename_i he
    rw [he] at answer
    exact (Place.Reaches.skipBlanks _).trans answer.1

/-- A token stands between where the scanner was and the end of the text. -/
theorem next_within {s m : Scanner} {t : Token} (h : s.next = (.ok t, m)) :
    s.offset ≤ t.position ∧ t.position ≤ s.offset + width s.rest := by
  have answer := answers_scan s.afterDot (skipBlanks s.toPlace)
  have blanks := Place.Reaches.skipBlanks s.toPlace
  have behind := blanks.offset_le
  have same := blanks.end_eq
  unfold next at h
  split at h
  · rename_i u q he
    cases h
    rw [he] at answer
    rw [answer.2 _ rfl]
    omega
  · cases h

/-- All tokens stand between where the scanner was and the end of the text. -/
theorem tokens_position {s : Scanner} {ts : List Token} (h : s.tokens = .ok ts) :
    ∀ t ∈ ts, s.offset ≤ t.position ∧ t.position ≤ s.offset + width s.rest := by
  induction s using tokens.induct generalizing ts with
  | case1 s e m hn =>
      rw [tokens_eq, hn] at h
      cases h
  | case2 s t m hn hk =>
      rw [tokens_eq, hn] at h
      dsimp only at h
      rw [if_pos hk] at h
      cases h
      have within := next_within hn
      simpa using within
  | case3 s t m hn hk ih =>
      rw [tokens_eq, hn] at h
      dsimp only at h
      rw [if_neg hk] at h
      cases hm : m.tokens with
      | error e =>
          rw [hm] at h
          cases h
      | ok us =>
          rw [hm] at h
          cases h
          -- the rest of the text has the same end and does not begin before
          have reached : s.toPlace.Reaches m.toPlace := by
            have := next_reaches s
            rwa [hn] at this
          have same := reached.end_eq
          have behind := reached.offset_le
          intro u hu
          rcases List.mem_cons.1 hu with rfl | hu
          · exact next_within hn
          · have := ih hm u hu
            omega

theorem position_le_of_tokenize {text : String} {ts : List Token} (h : tokenize text = .ok ts) :
    ∀ t ∈ ts, t.position ≤ text.utf8ByteSize := by
  intro t ht
  have within := (tokens_position h t ht).2
  rwa [ofString, width_toList, Nat.zero_add] at within

end PathQuery
