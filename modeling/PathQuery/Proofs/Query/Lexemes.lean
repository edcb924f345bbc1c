import PathQuery.Proofs.Json.Glyphs
import PathQuery.Proofs.Query.Spelling

/-!
Scanning of the pieces that printed text is made of: signs, words, strings and numerals. Each is
scanned as its token wherever it stands, unless what stands behind it would run on from it.
-/

namespace PathQuery.Scanner

/-! ### Scanning on -/

/-- From one scanner to another over tokens before the end. Positions are left out, and a blank may
be passed at any time. -/
inductive Scans : Scanner → List Token → Scanner → Prop
  | none {s : Scanner} : Scans s [] s
  | more {s m e : Scanner} {t : Token} {ts : List Token} :
      s.next = (.ok t, m) → t.kind ≠ .finish → Scans m ts e →
        Scans s (t.relocate (fun _ => 0) :: ts) e
  | blank {cs : List Char} {offset : Nat} {afterDot : Bool} {ts : List Token} {e : Scanner} :
      Scans ⟨⟨cs, offset + 1⟩, afterDot⟩ ts e → Scans ⟨⟨' ' :: cs, offset⟩, afterDot⟩ ts e

theorem Scans.append {s m e : Scanner} {ts us : List Token} (h : Scans s ts m)
    (h' : Scans m us e) : Scans s (ts ++ us) e := by
  induction h with
  | none => exact h'
  | more hn hk _ ih => exact .more hn hk (ih h')
  | blank _ ih => exact .blank (ih h')

theorem tokens_eq (s : Scanner) : s.tokens =
    match s.next with
    | (.error e, _) => .error e
    | (.ok t, m) => if t.kind = .finish then .ok [t] else m.tokens.map (t :: ·) := by
  rw [tokens]
  split
  · rename_i h
    rw [h]
  · rename_i h
    rw [h]
    rfl

/-- The tokens by at most `n` calls, by recursion on `n`, so that they can be computed. -/
def tokensWithin : (n : Nat) → Scanner → Except SyntaxError (List Token)
  | 0, _ => .ok []
  | n + 1, s =>
    match s.next with
    | (.error e, _) => .error e
    | (.ok t, m) => if t.kind = .finish then .ok [t] else (tokensWithin n m).map (t :: ·)

/-- Each token before the end takes a character, so there are enough calls. -/
theorem tokens_eq_within {n : Nat} {s : Scanner} (enough : s.rest.length < n) :
    s.tokens = tokensWithin n s := by
  induction n generalizing s with
  | zero => exact absurd enough (Nat.not_lt_zero _)
  | succ n ih =>
      rw [tokens_eq, tokensWithin]
      match called : s.next with
      | (.error e, _) => rfl
      | (.ok t, m) =>
          dsimp only
          split
          · rfl
          · rename_i more
            rw [ih ((next_lt called more).trans_le (Nat.le_of_lt_succ enough))]

theorem tokenize_eq_within (text : String) :
    tokenize text = tokensWithin (text.toList.length + 1) (ofString text) :=
  tokens_eq_within (Nat.lt_succ_self _)

theorem next_blank (cs : List Char) (offset : Nat) (afterDot : Bool) :
    next ⟨⟨' ' :: cs, offset⟩, afterDot⟩ = next ⟨⟨cs, offset + 1⟩, afterDot⟩ := by
  have blank : Unicode.isWhiteSpace ' ' = true := by decide
  have skipped : skipBlanks ⟨' ' :: cs, offset⟩ = skipBlanks ⟨cs, offset + 1⟩ := by
    simp [skipBlanks, skip, blank, width, Nat.add_assoc]
    rfl
  unfold next
  rw [skipped]

/-- What has been scanned comes first among the tokens of a text. -/
theorem Scans.tokens {s e : Scanner} {ts : List Token} (h : Scans s ts e) :
    ∃ us : List Token, us.map (Token.relocate fun _ => 0) = ts ∧ (∀ u ∈ us, u.kind ≠ .finish) ∧
      s.tokens = e.tokens.map (us ++ ·) := by
  induction h with
  | @none s =>
      refine ⟨[], rfl, by simp, ?_⟩
      cases s.tokens <;> rfl
  | @more s m e t ts hn hk _ ih =>
      obtain ⟨us, rfl, kinds, behind⟩ := ih
      refine ⟨t :: us, rfl, ?_, ?_⟩
      · simpa using ⟨hk, kinds⟩
      · rw [tokens_eq, hn]
        dsimp only
        rw [if_neg hk, behind]
        cases e.tokens <;> rfl
  | @blank cs offset afterDot ts e _ ih =>
      obtain ⟨us, same, kinds, behind⟩ := ih
      refine ⟨us, same, kinds, ?_⟩
      rw [tokens_eq, next_blank, ← tokens_eq, behind]

/-- At any offset, a text is scanned as the tokens up to `rest`. The flags tell whether a dot stands
before the text and before `rest`. -/
def Spells (dot : Bool) (cs : List Char) (ts : List Token) (dot' : Bool) (rest : List Char) :
    Prop :=
  ∀ offset, ∃ offset', Scans ⟨⟨cs, offset⟩, dot⟩ ts ⟨⟨rest, offset'⟩, dot'⟩

section

variable {dot dot' last : Bool} {cs rest end_ : List Char} {ts us : List Token}

theorem spells_nil : Spells dot cs [] dot cs := fun offset => ⟨offset, .none⟩

theorem Spells.append (h : Spells dot cs ts dot' rest) (h' : Spells dot' rest us last end_) :
    Spells dot cs (ts ++ us) last end_ := by
  intro offset
  obtain ⟨middle, first⟩ := h offset
  obtain ⟨offset', second⟩ := h' middle
  exact ⟨offset', first.append second⟩

theorem Spells.cons {t : Token} (h : Spells dot cs [t] dot' rest)
    (h' : Spells dot' rest us last end_) : Spells dot cs (t :: us) last end_ :=
  h.append h'

theorem Spells.blank (h : Spells dot cs ts dot' rest) : Spells dot (' ' :: cs) ts dot' rest := by
  intro offset
  obtain ⟨offset', scans⟩ := h (offset + 1)
  exact ⟨offset', .blank scans⟩

/-- A text that begins with no blank is scanned at once. -/
theorem spells_scan (kind : Token.Kind) {text : String} {c : Char}
    (hc : Unicode.isWhiteSpace c = false) (hk : kind ≠ .finish)
    (h : ∀ offset, ∃ offset', scan dot ⟨c :: cs, offset⟩ =
      (.ok ⟨kind, text, offset⟩, ⟨rest, offset'⟩)) :
    Spells dot (c :: cs) [lexeme kind text] (kind == .dot) rest := by
  intro offset
  obtain ⟨offset', hs⟩ := h offset
  have noBlanks : skipBlanks ⟨c :: cs, offset⟩ = ⟨c :: cs, offset⟩ := by
    simp [skipBlanks, skip, hc, width]
  have next : next ⟨⟨c :: cs, offset⟩, dot⟩ =
      (.ok ⟨kind, text, offset⟩, ⟨⟨rest, offset'⟩, kind == .dot⟩) := by
    simp [Scanner.next, noBlanks, hs]
  exact ⟨offset', .more next hk .none⟩

theorem take_append (kind : Token.Kind) (taken rest : List Char) (offset : Nat) :
    take kind taken ⟨taken ++ rest, offset⟩ =
      (.ok ⟨kind, String.ofList taken, offset⟩, ⟨rest, offset + width taken⟩) := by
  simp [take, skip]

end

/-! ### Signs -/

theorem single?_nonblank {c : Char} {kind : Token.Kind} (h : single? c = some kind) :
    Unicode.isWhiteSpace c = false ∧ kind ≠ .finish ∧ kind ≠ .property := by
  unfold single? at h
  split at h
  case h_13 => simp at h
  all_goals
    cases h
    decide

theorem spells_single {c : Char} {kind : Token.Kind} (text : String) (h : single? c = some kind)
    (ht : String.ofList [c] = text) (dot : Bool) (rest : List Char) :
    Spells dot (c :: rest) [lexeme kind text] (kind == .dot) rest := by
  obtain ⟨hc, hk, -⟩ := single?_nonblank h
  refine spells_scan kind hc hk fun offset => ⟨offset + width [c], ?_⟩
  have answer := take_append kind [c] rest offset
  rw [ht] at answer
  unfold scan
  simp only [h]
  exact answer

theorem operator?_nonblank {c : Char} {next : Option Char} {kind : Token.Kind} {taken : List Char}
    (h : operator? c next = some (.ok (kind, taken))) :
    Unicode.isWhiteSpace c = false ∧ single? c = none ∧ kind ≠ .finish ∧ kind ≠ .dot ∧
      kind ≠ .property := by
  unfold operator? at h
  split at h
  case h_7 => simp at h
  all_goals
    split at h
    all_goals
      simp at h
      first
      | done
      | obtain ⟨rfl, -⟩ := h
        decide

theorem spells_operator {c : Char} {taken : List Char} {kind : Token.Kind} (text : String)
    (dot : Bool) (rest : List Char)
    (h : operator? c (taken ++ rest).head? = some (.ok (kind, c :: taken)))
    (ht : String.ofList (c :: taken) = text) :
    Spells dot (c :: (taken ++ rest)) [lexeme kind text] false rest := by
  obtain ⟨hc, hs, hk, hd, -⟩ := operator?_nonblank h
  have flag : (kind == .dot) = false := by simp [hd]
  rw [← flag]
  refine spells_scan kind hc hk fun offset => ⟨offset + width (c :: taken), ?_⟩
  have answer := take_append kind (c :: taken) rest offset
  rw [ht] at answer
  unfold scan
  simp only [hs, h]
  exact answer

theorem spells_comparator (op : Comparator) (dot : Bool) (rest : List Char) :
    Spells dot (op.symbol.toList ++ ' ' :: rest) [lexeme (.comparator op) op.symbol] false
      (' ' :: rest) := by
  cases op with
  | eq => exact spells_operator (c := '=') _ dot (' ' :: rest) rfl rfl
  | ne => exact spells_operator (c := '!') _ dot (' ' :: rest) rfl rfl
  | lt => exact spells_operator (c := '<') _ dot (' ' :: rest) rfl rfl
  | le => exact spells_operator (c := '<') _ dot (' ' :: rest) rfl rfl
  | gt => exact spells_operator (c := '>') _ dot (' ' :: rest) rfl rfl
  | ge => exact spells_operator (c := '>') _ dot (' ' :: rest) rfl rfl

theorem spells_connective (op : Connective) (dot : Bool) (rest : List Char) :
    Spells dot (op.symbol.toList ++ rest) [lexeme op.kind op.symbol] false rest := by
  cases op with
  | and => exact spells_operator (c := '&') _ dot rest rfl rfl
  | or => exact spells_operator (c := '|') _ dot rest rfl rfl

/-! ### Words -/

theorem contains_points {rs : Unicode.Ranges} {n : Nat} (h : rs.contains n) :
    n ∈ rs.flatMap fun r => List.range' r.1 (r.2 + 1 - r.1) := by
  induction rs with
  | nil => cases h
  | cons r rest ih =>
      obtain ⟨first, last⟩ := r
      unfold Unicode.Ranges.contains at h
      rw [List.flatMap_cons, List.mem_append]
      split at h
      · left
        simp only [decide_eq_true_eq] at h
        simp only [List.mem_range'_1]
        omega
      · exact .inr (ih h)

/-- No blank is part of a name. -/
theorem nonblank_of_isIdentifierChar {c : Char} (h : isIdentifierChar c) :
    Unicode.isWhiteSpace c = false := by
  -- blanks are few, so each is tried
  have blanks : ∀ n ∈ Unicode.whiteSpace.flatMap fun r => List.range' r.1 (r.2 + 1 - r.1),
      Unicode.alphabetic.contains n = false ∧ Unicode.numeric.contains n = false ∧ n ≠ 95 ∧
        n ≠ 45 := by
    decide +kernel
  cases hw : Unicode.isWhiteSpace c with
  | false => rfl
  | true =>
      obtain ⟨ha, hn, hu, hm⟩ := blanks _ (contains_points hw)
      have underscore : c ≠ '_' := by
        rintro rfl
        exact hu rfl
      have minus : c ≠ '-' := by
        rintro rfl
        exact hm rfl
      simp [isIdentifierChar, Unicode.isAlphanumeric, Unicode.isAlphabetic, ha, hn, underscore,
        minus] at h

/-- What begins with a character of a name is a word or a numeral. -/
theorem scan_identifierChar {c : Char} (h : isIdentifierChar c) (dot : Bool) (cs : List Char)
    (offset : Nat) : scan dot ⟨c :: cs, offset⟩ =
      if dot && (c.isDigit || c = '-') then
        take .property ((c :: cs).takeWhile isIdentifierChar) ⟨c :: cs, offset⟩
      else if c.isDigit || (c = '-' && cs.head?.any Char.isDigit) then
        scanNumber ⟨c :: cs, offset⟩
      else if startsIdentifier c then
        take (wordKind ((c :: cs).takeWhile isIdentifierChar))
          ((c :: cs).takeWhile isIdentifierChar) ⟨c :: cs, offset⟩
      else (.error ⟨.unexpectedCharacter c, offset⟩, ⟨c :: cs, offset⟩) := by
  have noSingle : single? c = none := by
    unfold single?
    split
    case h_13 => rfl
    all_goals exact absurd h (by decide)
  have noOperator : operator? c cs.head? = none := by
    unfold operator?
    split
    case h_7 => rfl
    all_goals exact absurd h (by decide)
  have noQuote : (c = '"' || c = '\'') = false := by
    rw [Bool.or_eq_false_iff, decide_eq_false_iff_not, decide_eq_false_iff_not]
    constructor
    · rintro rfl
      exact absurd h (by decide)
    · rintro rfl
      exact absurd h (by decide)
  unfold scan
  simp only [noSingle, noOperator, noQuote]
  rfl

theorem not_isDigit_of_starts {c : Char} (h : startsIdentifier c) :
    c.isDigit = false ∧ c ≠ '-' := by
  refine ⟨?_, ?_⟩
  · cases hd : c.isDigit with
    | false => rfl
    | true =>
        simp only [Char.isDigit, Bool.and_eq_true, decide_eq_true_eq] at hd
        have high : c.toNat ≤ 0x39 := hd.2
        have low : 0x30 ≤ c.toNat := hd.1
        simp only [startsIdentifier, Unicode.isAlphabetic, Bool.or_eq_true, decide_eq_true_eq] at h
        rcases h with h | rfl
        · rw [Unicode.alphabetic, Unicode.Ranges.contains, if_pos (by omega)] at h
          simp only [decide_eq_true_eq] at h
          omega
        · exact absurd high (by decide)
  · rintro rfl
    exact absurd h (by decide)

/-- A name does not go on behind its last character. -/
def EndsName (rest : List Char) : Prop :=
  ∀ c ∈ rest.head?, isIdentifierChar c = false

theorem takeWhile_name {name rest : List Char} (h : ∀ c ∈ name, isIdentifierChar c)
    (hr : EndsName rest) : (name ++ rest).takeWhile isIdentifierChar = name := by
  rw [List.takeWhile_append_of_pos h]
  cases rest with
  | nil => simp
  | cons c cs =>
      have := hr c rfl
      simp [this]

theorem wordKind_cases (word : List Char) :
    wordKind word = .and ∨ wordKind word = .or ∨ wordKind word = .property := by
  unfold wordKind
  split
  · exact .inl rfl
  split
  · exact .inr (.inl rfl)
  · exact .inr (.inr rfl)

theorem spells_word {c : Char} {cs rest : List Char} (hc : startsIdentifier c)
    (h : ∀ d ∈ c :: cs, isIdentifierChar d) (hr : EndsName rest) (dot : Bool) :
    Spells dot (c :: cs ++ rest) [lexeme (wordKind (c :: cs)) (String.ofList (c :: cs))] false
      rest := by
  have first := h c (by simp)
  obtain ⟨digit, minus⟩ := not_isDigit_of_starts hc
  have word : (c :: (cs ++ rest)).takeWhile isIdentifierChar = c :: cs := takeWhile_name h hr
  have flag : (wordKind (c :: cs) == .dot) = false := by
    rcases wordKind_cases (c :: cs) with hk | hk | hk <;> rw [hk] <;> rfl
  have kind : wordKind (c :: cs) ≠ .finish := by
    rcases wordKind_cases (c :: cs) with hk | hk | hk <;> rw [hk] <;> simp
  rw [← flag]
  refine spells_scan _ (nonblank_of_isIdentifierChar first) kind fun offset =>
    ⟨offset + width (c :: cs), ?_⟩
  have answer := take_append (wordKind (c :: cs)) (c :: cs) rest offset
  rw [scan_identifierChar first]
  simpa [digit, minus, hc, word] using answer

/-- What the scanner takes for a name behind a dot. -/
structure IsName (name : List Char) : Prop where
  chars : ∀ c ∈ name, isIdentifierChar c
  first : ∃ c ∈ name.head?, c.isDigit ∨ c = '-' ∨ startsIdentifier c
  word : wordKind name = .property

theorem isName_word {c : Char} {cs : List Char} (hc : startsIdentifier c)
    (hk : wordKind ((c :: cs).takeWhile isIdentifierChar) = .property) :
    IsName ((c :: cs).takeWhile isIdentifierChar) where
  chars := List.all_eq_true.1 List.all_takeWhile
  first := ⟨c, by simp [isIdentifierChar_of_starts hc], .inr (.inr hc)⟩
  word := hk

theorem isName_behindDot {c : Char} {cs : List Char} (hc : c.isDigit ∨ c = '-') :
    IsName ((c :: cs).takeWhile isIdentifierChar) := by
  have head : isIdentifierChar c := by
    rcases hc with hd | rfl
    · exact isIdentifierChar_of_isDigit hd
    · decide
  refine ⟨List.all_eq_true.1 List.all_takeWhile, ⟨c, by simp [head], by tauto⟩, ?_⟩
  -- both connectives begin with a letter
  have letter : c ≠ 'a' ∧ c ≠ 'o' := by
    constructor <;> rintro rfl <;> revert hc <;> decide
  simp [wordKind, head, letter]

theorem take_eq_ok {kind : Token.Kind} {taken : List Char} {p q : Place} {t : Token}
    (h : take kind taken p = (.ok t, q)) : t.kind = kind ∧ t.text.toList = taken := by
  simp only [take, Prod.mk.injEq, Except.ok.injEq] at h
  rw [← h.1]
  exact ⟨rfl, String.toList_ofList⟩

theorem scanString_kind {quote : Char} {rest : List Char} {p q : Place} {t : Token}
    (h : scanString quote rest p = (.ok t, q)) : t.kind = .string := by
  unfold scanString at h
  split at h
  · simp only [Prod.mk.injEq, Except.ok.injEq] at h
    rw [← h.1]
  · simp at h

theorem scanNumber_kind {p q : Place} {t : Token} (h : scanNumber p = (.ok t, q)) :
    t.kind = .number := by
  unfold scanNumber at h
  dsimp only at h
  split at h
  · simp at h
  · exact (take_eq_ok h).1

/-- Tokens of the kind of names are names. -/
theorem scan_property {dot : Bool} {p q : Place} {t : Token} (h : scan dot p = (.ok t, q))
    (ht : t.kind = .property) : IsName t.text.toList := by
  obtain ⟨rest, offset⟩ := p
  cases rest with
  | nil =>
      simp only [scan, Prod.mk.injEq, Except.ok.injEq] at h
      rw [← h.1] at ht
      cases ht
  | cons c rest =>
      unfold scan at h
      dsimp only at h
      split at h
      · rename_i hs
        exact absurd ((take_eq_ok h).1.symm.trans ht) (single?_nonblank hs).2.2
      split at h
      · rename_i ho
        exact absurd ((take_eq_ok h).1.symm.trans ht) (operator?_nonblank ho).2.2.2.2
      · simp at h
      split at h
      · exact absurd ((scanString_kind h).symm.trans ht) (by simp)
      split at h
      · rename_i hc
        simp only [Bool.and_eq_true, Bool.or_eq_true, decide_eq_true_eq] at hc
        rw [(take_eq_ok h).2]
        exact isName_behindDot hc.2
      split at h
      · exact absurd ((scanNumber_kind h).symm.trans ht) (by simp)
      split at h
      · rename_i hc
        rw [(take_eq_ok h).2]
        exact isName_word hc ((take_eq_ok h).1.symm.trans ht)
      · simp at h

theorem next_property {s m : Scanner} {t : Token} (h : s.next = (.ok t, m))
    (ht : t.kind = .property) : IsName t.text.toList := by
  unfold next at h
  split at h
  · rename_i hs
    simp only [Prod.mk.injEq, Except.ok.injEq] at h
    obtain ⟨rfl, -⟩ := h
    exact scan_property hs ht
  · simp at h

/-- The tokens of a text are closed by the end of the query, and by it alone. -/
theorem tokens_sound {s : Scanner} {ts : List Token} (h : s.tokens = .ok ts) :
    ∃ (us : List Token) (finish : Token), ts = us ++ [finish] ∧ finish.kind = .finish ∧
      ∀ u ∈ us, u.kind ≠ .finish ∧ (u.kind = .property → IsName u.text.toList) := by
  induction s using tokens.induct generalizing ts with
  | case1 s e m hn =>
      rw [tokens_eq, hn] at h
      cases h
  | case2 s t m hn hk =>
      rw [tokens_eq, hn] at h
      dsimp only at h
      rw [if_pos hk] at h
      cases h
      exact ⟨[], t, rfl, hk, by simp⟩
  | case3 s t m hn hk ih =>
      rw [tokens_eq, hn] at h
      dsimp only at h
      rw [if_neg hk] at h
      cases hm : m.tokens with
      | error e =>
          rw [hm] at h
          cases h
      | ok vs =>
          rw [hm] at h
          cases h
          obtain ⟨us, finish, rfl, hf, kinds⟩ := ih hm
          refine ⟨t :: us, finish, rfl, hf, ?_⟩
          intro u hu
          rcases List.mem_cons.1 hu with rfl | hu
          · exact ⟨hk, next_property hn⟩
          · exact kinds u hu

theorem spells_name {name rest : List Char} (h : IsName name) (hr : EndsName rest) :
    Spells true (name ++ rest) [lexeme .property (String.ofList name)] false rest := by
  obtain ⟨chars, ⟨c, hc, first⟩, kind⟩ := h
  cases name with
  | nil => cases hc
  | cons _ cs =>
      cases hc
      -- names that no word begins like are names only because of the dot
      by_cases hs : startsIdentifier c
      · rw [← kind]
        exact spells_word hs chars hr true
      have name : (c :: (cs ++ rest)).takeWhile isIdentifierChar = c :: cs :=
        takeWhile_name chars hr
      have behindDot : (c.isDigit || c = '-') = true := by
        rcases first with hd | hd | hd
        · simp [hd]
        · simp [hd]
        · exact absurd hd hs
      have head := chars c (by simp)
      refine spells_scan .property (nonblank_of_isIdentifierChar head) (by simp)
        fun offset => ⟨offset + width (c :: cs), ?_⟩
      have answer := take_append .property (c :: cs) rest offset
      rw [scan_identifierChar head, behindDot]
      simpa [name] using answer

/-! ### Strings -/

section

open Json (Glyph)

variable {g : Glyph} {gs : List Glyph} {taken body : List Char}

/-- The escapes of one letter are those of JSON, and one more. -/
theorem escaped?_of_json {e c : Char} (h : Json.Source.escaped? e = some c) :
    escaped? e = some c := by
  unfold Json.Source.escaped? at h
  split at h
  case h_9 => cases h
  all_goals
    cases h
    rfl

/-- A glyph is read as the character that it stands for. -/
theorem stringBody_glyph (h : g.WrittenAs taken) (whole : g.isHalf = false) (start offset : Nat)
    (rest : List Char) : stringBody '"' start (taken ++ rest) offset =
      (stringBody '"' start rest (offset + width taken)).cons g.char := by
  cases h with
  | @itself c quote slash _ =>
      rw [List.singleton_append, stringBody, if_neg quote]
      · rfl
      all_goals simp_all
  | @escape e c found =>
      have letter := Json.escaped?_ne_u found
      have read := escaped?_of_json found
      have taken : width ['\\', e] = 1 + e.utf8Size := rfl
      rw [taken, ← Nat.add_assoc, List.cons_append, List.singleton_append, stringBody, read]
      · rfl
      all_goals simp_all
  | @code a b c d n found =>
      have read : unicodeEscape? a b c d = some (Char.ofNat n) := by
        simp [unicodeEscape?, found, show isSurrogate n = false from whole]
      rw [width_of_codeUnit? found]
      simp [stringBody, read, Glyph.char]

theorem stringBody_whole (h : Json.Body body gs) (whole : ∀ g ∈ gs, g.isHalf = false)
    (start offset : Nat) (rest : List Char) : stringBody '"' start (body ++ '"' :: rest) offset =
      (.ok (gs.map Glyph.char), ⟨rest, offset + width body + 1⟩) := by
  induction h generalizing offset with
  | nil => rfl
  | cons written _ ih =>
      rw [List.forall_mem_cons] at whole
      rw [List.append_assoc, stringBody_glyph written whole.1, ih whole.2, width_append,
        ← Nat.add_assoc]
      rfl

end

theorem spells_string (text : String) (dot : Bool) (rest : List Char) :
    Spells dot (Json.quote text.toList ++ rest) [lexeme .string text] false rest := by
  unfold Json.quote
  rw [List.cons_append, List.append_assoc]
  refine spells_scan .string (by decide) (by simp) fun offset =>
    ⟨offset + 1 + width (text.toList.flatMap Json.escapeChar) + 1, ?_⟩
  have whole : ∀ g ∈ text.toList.map Json.glyph, g.isHalf = false := by
    simpa using fun c _ => Json.isHalf_glyph c
  have scanned : scanString '"' (text.toList.flatMap Json.escapeChar ++ '"' :: rest)
      ⟨'"' :: (text.toList.flatMap Json.escapeChar ++ '"' :: rest), offset⟩ =
        (.ok ⟨.string, text, offset⟩,
          ⟨rest, offset + 1 + width (text.toList.flatMap Json.escapeChar) + 1⟩) := by
    unfold scanString
    rw [show offset + '"'.utf8Size = offset + 1 from rfl,
      stringBody_whole (Json.body_map_glyph text.toList) whole, Json.map_char_glyph]
    simp
  exact scanned

/-! ### Numerals -/

/-- A numeral does not go on behind its last character. -/
def EndsNumeral (rest : List Char) : Prop :=
  ∀ c ∈ rest.head?, isIdentifierChar c = false ∧ c ≠ '.'

theorem EndsNumeral.endsName {rest : List Char} (h : EndsNumeral rest) : EndsName rest :=
  fun c hc => (h c hc).1

theorem EndsName.head_not_digit {rest : List Char} (h : EndsName rest) :
    ∀ c ∈ rest.head?, c.isDigit = false := by
  intro c hc
  cases hd : c.isDigit with
  | false => rfl
  | true => exact absurd (isIdentifierChar_of_isDigit hd) (by simp [h c hc])

theorem takeWhile_digits {ds rest : List Char} (h : ∀ c ∈ ds, c.isDigit)
    (hr : ∀ c ∈ rest.head?, c.isDigit = false) : (ds ++ rest).takeWhile Char.isDigit = ds := by
  rw [List.takeWhile_append_of_pos h]
  cases rest with
  | nil => simp
  | cons c cs => simp [hr c rfl]

section

variable {n : Numeral} {rest : List Char}

theorem exponent_chars (h : n.WellFormed) (hr : EndsNumeral rest) :
    exponent (n.exponentChars ++ rest) = n.exponentChars := by
  unfold Numeral.exponentChars
  cases he : n.exponent with
  | none =>
      rw [List.nil_append]
      match rest, hr with
      | [], _ => rfl
      | [c], _ => rfl
      | c :: d :: cs, hr =>
          have small : c ≠ 'e' := by
            rintro rfl
            exact absurd (hr 'e' rfl).1 (by decide)
          have capital : c ≠ 'E' := by
            rintro rfl
            exact absurd (hr 'E' rfl).1 (by decide)
          simp [exponent, small, capital]
  | some e =>
      obtain ⟨negative, ds⟩ := e
      obtain ⟨some, digits⟩ := h.exponent _ he
      have taken := takeWhile_digits digits hr.endsName.head_not_digit
      cases negative <;> simp [exponent, taken, some]

theorem head_exponentChars (hr : EndsNumeral rest) :
    ∀ c ∈ (n.exponentChars ++ rest).head?, c.isDigit = false ∧ c ≠ '.' := by
  intro c hc
  unfold Numeral.exponentChars at hc
  split at hc
  · exact ⟨hr.endsName.head_not_digit c hc, (hr c hc).2⟩
  · cases hc
    decide

theorem fraction_chars (h : n.WellFormed) (hr : EndsNumeral rest) :
    fraction (n.fractionChars ++ (n.exponentChars ++ rest)) = n.fractionChars := by
  have stop := head_exponentChars (n := n) hr
  unfold Numeral.fractionChars
  cases hf : n.fraction with
  | nil =>
      rw [List.isEmpty_nil, if_pos rfl, List.nil_append]
      cases hc : n.exponentChars ++ rest with
      | nil => rfl
      | cons c cs =>
          have := (stop c (by rw [hc]; rfl)).2
          unfold fraction
          split
          · simp_all
          · rfl
  | cons d ds =>
      have digits : ∀ c ∈ d :: ds, c.isDigit := hf ▸ h.fraction
      have taken := takeWhile_digits digits fun c hc => (stop c hc).1
      simp only [List.isEmpty_cons, Bool.false_eq_true, if_false, List.cons_append, fraction,
        digits d (by simp), if_true]
      rw [← List.cons_append, taken]

theorem head_fractionChars (hr : EndsNumeral rest) :
    ∀ c ∈ (n.fractionChars ++ (n.exponentChars ++ rest)).head?, c.isDigit = false := by
  intro c hc
  unfold Numeral.fractionChars at hc
  split at hc
  · exact (head_exponentChars hr c hc).1
  · cases hc
    rfl

theorem whole_chars (h : n.WellFormed) (hr : EndsNumeral rest) :
    (n.unsigned ++ rest).takeWhile Char.isDigit = n.whole := by
  unfold Numeral.unsigned
  rw [List.append_assoc, List.append_assoc]
  exact takeWhile_digits h.whole (head_fractionChars hr)

theorem drop_whole (n : Numeral) (rest : List Char) :
    (n.unsigned ++ rest).drop n.whole.length =
      n.fractionChars ++ (n.exponentChars ++ rest) := by
  unfold Numeral.unsigned
  rw [List.append_assoc, List.append_assoc, List.drop_left]

/-- A numeral begins with a digit, behind its sign. -/
theorem unsigned_cons (h : n.WellFormed) : ∃ c cs, n.unsigned = c :: cs ∧ c.isDigit := by
  obtain ⟨c, cs, hw⟩ := List.exists_cons_of_ne_nil h.whole_ne_nil
  refine ⟨c, cs ++ (n.fractionChars ++ n.exponentChars), ?_, h.whole c (by simp [hw])⟩
  rw [Numeral.unsigned, hw, List.cons_append]

/-- All of a numeral is scanned, and nothing behind it. -/
theorem numeral_chars (h : n.WellFormed) (hr : EndsNumeral rest) :
    numeral (n.chars ++ rest) = n.chars := by
  unfold numeral Numeral.chars
  cases hn : n.negative with
  | true =>
      simp only [if_true, List.cons_append, List.head?_cons, List.length_singleton,
        List.drop_succ_cons, List.drop_zero, whole_chars h hr, drop_whole, fraction_chars h hr,
        List.drop_left, exponent_chars h hr]
      simp [Numeral.unsigned]
  | false =>
      obtain ⟨c, cs, hu, hc⟩ := unsigned_cons h
      have noSign : (n.unsigned ++ rest).head? ≠ some '-' := by
        rw [hu, List.cons_append, List.head?_cons, Ne, Option.some.injEq]
        rintro rfl
        exact absurd hc (by decide)
      simp only [Bool.false_eq_true, if_false, noSign, List.length_nil, List.drop_zero,
        whole_chars h hr, drop_whole, fraction_chars h hr, List.drop_left, exponent_chars h hr]
      simp [Numeral.unsigned]

theorem scanNumber_chars (h : n.WellFormed) (hr : EndsNumeral rest) (offset : Nat) :
    scanNumber ⟨n.chars ++ rest, offset⟩ =
      (.ok ⟨.number, String.ofList n.chars, offset⟩, ⟨rest, offset + width n.chars⟩) := by
  have apart : (rest.head?.any fun c => Unicode.isAlphanumeric c || c = '_') = false := by
    cases rest with
    | nil => rfl
    | cons c cs =>
        have := (hr c rfl).1
        simp_all [isIdentifierChar]
  unfold scanNumber
  simp only [numeral_chars h hr, skip, List.drop_left, apart]
  simp [take, skip]

/-- A numeral is scanned as a number, except behind a dot. -/
theorem spells_numeral (h : n.WellFormed) (hr : EndsNumeral rest) :
    Spells false (n.chars ++ rest) [lexeme .number (String.ofList n.chars)] false rest := by
  obtain ⟨c, cs, hu, hc⟩ := unsigned_cons h
  have begins : ∃ d ds, n.chars = d :: ds ∧ isIdentifierChar d ∧
      (d.isDigit || (d = '-' && (ds ++ rest).head?.any Char.isDigit)) = true := by
    unfold Numeral.chars
    split
    · exact ⟨'-', n.unsigned, rfl, by decide, by simp [hu, hc]⟩
    · exact ⟨c, cs, hu, isIdentifierChar_of_isDigit hc, by simp [hc]⟩
  obtain ⟨d, ds, hn, hd, number⟩ := begins
  have scanned := scanNumber_chars h hr
  rw [hn, List.cons_append] at scanned ⊢
  refine spells_scan .number (nonblank_of_isIdentifierChar hd) (by simp)
    fun offset => ⟨offset + width (d :: ds), ?_⟩
  rw [scan_identifierChar hd, if_neg (by simp), if_pos number]
  exact scanned offset

end

end PathQuery.Scanner
