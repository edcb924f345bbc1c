import PathQuery.Proofs.Query.Lexemes
import PathQuery.Proofs.Query.Relocation

/-!
A scanner never looks at its offset. On the same text further on it answers with the same tokens
further on, or fails with the same fault further on.
-/

namespace PathQuery

variable {α : Type} (n : Nat)

/-- The same text, `n` bytes further on. -/
def Place.onward (p : Place) : Place :=
  ⟨p.rest, p.offset + n⟩

/-- An answer with its positions moved, by `g` when it is no error. -/
def movedAnswer (f : Nat → Nat) (g : α → α) : Except SyntaxError α → Except SyntaxError α
  | .ok a => .ok (g a)
  | .error e => .error (e.relocate f)

namespace Scanner

/-- What is answered `n` bytes further on. -/
def answerOnward (g : α → α) (a : Except SyntaxError α × Place) : Except SyntaxError α × Place :=
  (movedAnswer (· + n) g a.1, a.2.onward n)

theorem skip_onward (taken : List Char) (p : Place) :
    skip taken (p.onward n) = (skip taken p).onward n := by
  simp only [skip, Place.onward, Nat.add_right_comm]

theorem skipBlanks_onward (p : Place) : skipBlanks (p.onward n) = (skipBlanks p).onward n :=
  skip_onward n _ p

/-! ### Strings -/

theorem cons_onward (c : Char) (s : StringScan) :
    StringScan.cons c (answerOnward n id s) = answerOnward n id (s.cons c) := by
  obtain ⟨(_ | _), p⟩ := s <;> rfl

theorem badUnicodeEscape_onward (start : Nat) (cs : List Char) :
    badUnicodeEscape (start + n) cs = answerOnward n id (badUnicodeEscape start cs) := by
  simp only [badUnicodeEscape, answerOnward, movedAnswer, SyntaxError.relocate,
    SyntaxFault.relocate, skip, Place.onward, Nat.add_right_comm]

theorem stringBody_onward (quote : Char) (start : Nat) (cs : List Char) (offset : Nat) :
    stringBody quote (start + n) cs (offset + n) =
      answerOnward n id (stringBody quote start cs offset) := by
  fun_induction stringBody quote start cs offset with
  | case1 offset => rfl
  | case2 offset =>
      rw [stringBody, Nat.add_right_comm]
      rfl
  | case3 a b c d rest offset x hx ih =>
      rw [stringBody, hx]
      dsimp only
      rw [Nat.add_right_comm, ih, cons_onward]
  | case4 a b c d rest offset hx =>
      rw [stringBody, hx]
      exact badUnicodeEscape_onward n _ _
  | case5 rest offset short =>
      rw [stringBody]
      · exact badUnicodeEscape_onward n _ _
      · exact short
  | case6 e rest offset _ _ x hx ih =>
      rw [stringBody, hx]
      · dsimp only
        rw [Nat.add_right_comm offset, Nat.add_right_comm (offset + 1), ih, cons_onward]
      all_goals assumption
  | case7 e rest offset _ _ hx =>
      rw [stringBody, hx]
      · dsimp only
        rw [Nat.add_right_comm]
        rfl
      all_goals assumption
  | case8 rest offset =>
      rw [stringBody, if_pos rfl, Nat.add_right_comm]
      · rfl
      all_goals assumption
  | case9 c rest offset _ _ _ _ other ih =>
      rw [stringBody, if_neg other, Nat.add_right_comm, ih, cons_onward]
      all_goals assumption

/-! ### Tokens -/

theorem take_onward (kind : Token.Kind) (taken : List Char) (p : Place) :
    take kind taken (p.onward n) = answerOnward n (Token.relocate (· + n)) (take kind taken p) := by
  rw [take, skip_onward]
  rfl

theorem scanString_onward (quote : Char) (rest : List Char) (p : Place) :
    scanString quote rest (p.onward n) =
      answerOnward n (Token.relocate (· + n)) (scanString quote rest p) := by
  have body := stringBody_onward n quote p.offset rest (p.offset + quote.utf8Size)
  rw [Nat.add_right_comm] at body
  unfold scanString
  dsimp only [Place.onward]
  rw [body]
  obtain ⟨(_ | _), m⟩ := stringBody quote p.offset rest (p.offset + quote.utf8Size) <;> rfl

theorem scanNumber_onward (p : Place) :
    scanNumber (p.onward n) = answerOnward n (Token.relocate (· + n)) (scanNumber p) := by
  unfold scanNumber
  dsimp only
  rw [skip_onward, take_onward, skip_onward]
  split_ifs with letter run run
  · rfl
  · exact absurd letter run
  · exact absurd run letter
  · rfl

theorem operator?_fault {c : Char} {next : Option Char} {fault : SyntaxFault} (f : Nat → Nat)
    (h : operator? c next = some (.error fault)) : fault.relocate f = fault := by
  unfold operator? at h
  split at h <;> (try split at h) <;> cases h <;> rfl

theorem scan_onward (afterDot : Bool) (p : Place) :
    scan afterDot (p.onward n) = answerOnward n (Token.relocate (· + n)) (scan afterDot p) := by
  obtain ⟨rest, offset⟩ := p
  cases rest with
  | nil => rfl
  | cons c rest =>
      simp only [scan, Place.onward]
      cases single? c with
      | some kind => exact take_onward n _ _ ⟨c :: rest, offset⟩
      | none =>
          cases ho : operator? c rest.head? with
          | some answer =>
              cases answer with
              | ok taken => exact take_onward n _ _ ⟨c :: rest, offset⟩
              | error fault =>
                  simp only [answerOnward, movedAnswer, SyntaxError.relocate, operator?_fault _ ho]
                  rfl
          | none =>
              dsimp only
              split_ifs
              · exact scanString_onward n _ _ ⟨c :: rest, offset⟩
              · exact take_onward n _ _ ⟨c :: rest, offset⟩
              · exact scanNumber_onward n ⟨c :: rest, offset⟩
              · exact take_onward n _ _ ⟨c :: rest, offset⟩
              · rfl

/-- The same text, `n` bytes further on. -/
def onward (s : Scanner) : Scanner :=
  ⟨s.toPlace.onward n, s.afterDot⟩

theorem next_onward (s : Scanner) :
    (s.onward n).next =
      (movedAnswer (· + n) (Token.relocate (· + n)) s.next.1, s.next.2.onward n) := by
  unfold next
  rw [onward, skipBlanks_onward, scan_onward]
  obtain ⟨(_ | _), p⟩ := scan s.afterDot (skipBlanks s.toPlace) <;> rfl

/-- The tokens of a text are further on with it. -/
theorem tokens_onward (s : Scanner) :
    (s.onward n).tokens = movedAnswer (· + n) (List.map (Token.relocate (· + n))) s.tokens := by
  induction s using tokens.induct with
  | case1 s e m hn => rw [tokens_eq, tokens_eq s, next_onward, hn]; rfl
  | case2 s t m hn hk =>
      rw [tokens_eq, tokens_eq s, next_onward, hn]
      dsimp only [movedAnswer]
      rw [if_pos hk, if_pos (show (t.relocate (· + n)).kind = .finish from hk)]
      rfl
  | case3 s t m hn hk ih =>
      rw [tokens_eq, tokens_eq s, next_onward, hn]
      dsimp only [movedAnswer]
      rw [if_neg hk, if_neg (show (t.relocate (· + n)).kind ≠ .finish from hk), ih]
      cases m.tokens <;> rfl

end Scanner

end PathQuery
