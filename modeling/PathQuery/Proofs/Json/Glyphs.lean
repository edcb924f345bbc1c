import PathQuery.Json.Printer
import PathQuery.Json.Reader

/-!
Strings of JSON, glyph by glyph: how a glyph may be written between the quotes, which character it
stands for, and which glyph a character is printed as. What a literal holds is read, by any reader,
one glyph after the other.
-/

namespace PathQuery

/-! ### Widths of digits -/

theorem utf8Size_of_le {c : Char} (h : c.toNat < 128) : c.utf8Size = 1 := by
  have : c.val ≤ 0x7F := by
    rw [UInt32.le_iff_toNat_le]
    exact Nat.le_of_lt_succ h
  simp [Char.utf8Size, this]

/-- Hexadecimal digits are one byte wide. -/
theorem utf8Size_of_hexValue? {c : Char} {n : Nat} (h : hexValue? c = some n) : c.utf8Size = 1 := by
  apply utf8Size_of_le
  unfold hexValue? at h
  split at h
  · rename_i hd
    simp only [Char.isDigit, Bool.and_eq_true, decide_eq_true_eq] at hd
    have : c.toNat ≤ 57 := hd.2
    omega
  split at h
  · rename_i hl
    simp only [Bool.and_eq_true, decide_eq_true_eq] at hl
    have : c.toNat ≤ 'f'.toNat := hl.2
    have : 'f'.toNat = 102 := rfl
    omega
  split at h
  · rename_i hu
    simp only [Bool.and_eq_true, decide_eq_true_eq] at hu
    have : c.toNat ≤ 'F'.toNat := hu.2
    have : 'F'.toNat = 70 := rfl
    omega
  · cases h

theorem width_of_codeUnit? {a b c d : Char} {n : Nat} (h : codeUnit? a b c d = some n) :
    width ['\\', 'u', a, b, c, d] = 6 := by
  unfold codeUnit? at h
  simp only [Option.bind_eq_bind, Option.bind_eq_some_iff] at h
  obtain ⟨_, ha, _, hb, _, hc, _, hd, -⟩ := h
  have sign : '\\'.utf8Size = 1 ∧ 'u'.utf8Size = 1 := ⟨rfl, rfl⟩
  simp [width, sign, utf8Size_of_hexValue? ha, utf8Size_of_hexValue? hb, utf8Size_of_hexValue? hc,
    utf8Size_of_hexValue? hd]

namespace Json

/-! ### Characters of glyphs -/

/-- Half of a surrogate pair. -/
def Glyph.isHalf : Glyph → Bool
  | .plain _ => false
  | .codeUnit n => isSurrogate n

/-- The character of a glyph that is no half. -/
def Glyph.char : Glyph → Char
  | .plain c => c
  | .codeUnit n => Char.ofNat n

theorem isHighSurrogate_or_isLowSurrogate (n : Nat) :
    (isHighSurrogate n || isLowSurrogate n) = isSurrogate n := by
  rw [Bool.eq_iff_iff]
  simp only [isHighSurrogate, isLowSurrogate, isSurrogate, Bool.or_eq_true, Bool.and_eq_true,
    decide_eq_true_eq]
  omega

theorem charsOfGlyphs?_cons {g : Glyph} (whole : g.isHalf = false) (gs : List Glyph) :
    charsOfGlyphs? (g :: gs) = (charsOfGlyphs? gs).map (g.char :: ·) := by
  cases g with
  | plain c => rfl
  | codeUnit n =>
      have neither : (isHighSurrogate n || isLowSurrogate n) = false := by
        rwa [isHighSurrogate_or_isLowSurrogate]
      rw [Bool.or_eq_false_iff] at neither
      match gs with
      | [] | .plain _ :: _ | .codeUnit _ :: _ =>
          simp [charsOfGlyphs?, neither, Glyph.char]

theorem charsOfGlyphs?_whole {gs : List Glyph} (whole : ∀ g ∈ gs, g.isHalf = false) :
    charsOfGlyphs? gs = some (gs.map Glyph.char) := by
  induction gs with
  | nil => rfl
  | cons g gs ih =>
      rw [List.forall_mem_cons] at whole
      rw [charsOfGlyphs?_cons whole.1, ih whole.2]
      rfl

/-- A string does not begin with the second half of a pair. -/
theorem isHighSurrogate_of_charsOfGlyphs? {n : Nat} {gs : List Glyph} {cs : List Char}
    (h : charsOfGlyphs? (.codeUnit n :: gs) = some cs) (half : isSurrogate n) :
    isHighSurrogate n := by
  rw [← isHighSurrogate_or_isLowSurrogate, Bool.or_eq_true] at half
  refine half.resolve_right fun low => ?_
  have high : isHighSurrogate n = false := by
    simp only [isLowSurrogate, Bool.and_eq_true, decide_eq_true_eq] at low
    simp only [isHighSurrogate, Bool.and_eq_false_iff, decide_eq_false_iff_not]
    omega
  match gs with
  | [] | .plain _ :: _ | .codeUnit _ :: _ => simp [charsOfGlyphs?, low, high] at h

/-! ### Glyphs as they are written -/

/-- How a literal writes one glyph. -/
inductive Glyph.WrittenAs : Glyph → List Char → Prop
  | itself {c : Char} : c ≠ '"' → c ≠ '\\' → 0x20 ≤ c.toNat → WrittenAs (.plain c) [c]
  | escape {e c : Char} : Source.escaped? e = some c → WrittenAs (.plain c) ['\\', e]
  | code {a b c d : Char} {n : Nat} : codeUnit? a b c d = some n →
      WrittenAs (.codeUnit n) ['\\', 'u', a, b, c, d]

/-- What stands between the quotes of a literal. -/
inductive Body : List Char → List Glyph → Prop
  | nil : Body [] []
  | cons {g : Glyph} {taken cs : List Char} {gs : List Glyph} :
      g.WrittenAs taken → Body cs gs → Body (taken ++ cs) (g :: gs)

/-- No escape of one letter is written with `u`. -/
theorem escaped?_ne_u {e c : Char} (h : Source.escaped? e = some c) : e ≠ 'u' := by
  rintro rfl
  cases h

theorem glyphs?_append {g : Glyph} {taken : List Char} (h : g.WrittenAs taken) (cs : List Char) :
    Source.glyphs? (taken ++ cs) =
      (Source.glyphs? cs).map fun found => (g :: found.1, found.2) := by
  have answer : (Source.glyphs? cs >>= fun found => some (g :: found.1, found.2)) =
      (Source.glyphs? cs).map fun found => (g :: found.1, found.2) := by
    cases Source.glyphs? cs <;> rfl
  rw [← answer]
  cases h with
  | @itself c quote slash control =>
      rw [List.singleton_append, Source.glyphs?, if_neg (by simp [slash, control])]
      · rfl
      all_goals simp_all
  | @escape e c found =>
      have letter := escaped?_ne_u found
      rw [List.cons_append, List.singleton_append, Source.glyphs?, found]
      · rfl
      all_goals simp_all
  | @code a b c d n found =>
      simp only [List.cons_append, List.nil_append, Source.glyphs?]
      rw [found]
      rfl

theorem body_of_glyphs? {cs rest : List Char} {gs : List Glyph}
    (h : Source.glyphs? cs = some (gs, rest)) :
    ∃ body, cs = body ++ '"' :: rest ∧ Body body gs := by
  fun_induction Source.glyphs? cs generalizing gs with
  | case1 => cases h
  | case2 cs =>
      cases h
      exact ⟨[], rfl, .nil⟩
  | case3 a b c d cs ih =>
      simp only [Option.bind_eq_bind, Option.bind_eq_some_iff, Option.pure_def,
        Option.some.injEq, Prod.mk.injEq, Prod.exists] at h
      obtain ⟨n, code, gs', rest', found, rfl, rfl⟩ := h
      obtain ⟨body, rfl, written⟩ := ih found
      exact ⟨_, rfl, .cons (.code code) written⟩
  | case4 e cs _ ih =>
      simp only [Option.bind_eq_bind, Option.bind_eq_some_iff, Option.pure_def,
        Option.some.injEq, Prod.mk.injEq, Prod.exists] at h
      obtain ⟨c, escape, gs', rest', found, rfl, rfl⟩ := h
      obtain ⟨body, rfl, written⟩ := ih found
      exact ⟨_, rfl, .cons (.escape escape) written⟩
  | case5 => cases h
  | case6 c cs quote _ _ plain ih =>
      simp only [Option.bind_eq_bind, Option.bind_eq_some_iff, Option.pure_def,
        Option.some.injEq, Prod.mk.injEq, Prod.exists] at h
      obtain ⟨gs', rest', found, rfl, rfl⟩ := h
      obtain ⟨body, rfl, written⟩ := ih found
      simp only [Bool.or_eq_true, decide_eq_true_eq, not_or, Nat.not_lt] at plain
      exact ⟨_, rfl, .cons (.itself (by simpa using quote) plain.1 plain.2) written⟩

/-- A string goes on to the first quote that stands for itself. -/
theorem glyphs?_eq_some_iff {cs rest : List Char} {gs : List Glyph} :
    Source.glyphs? cs = some (gs, rest) ↔ ∃ body, cs = body ++ '"' :: rest ∧ Body body gs := by
  refine ⟨body_of_glyphs?, ?_⟩
  rintro ⟨body, rfl, written⟩
  induction written with
  | nil => rfl
  | cons first _ ih =>
      rw [List.append_assoc, glyphs?_append first, ih]
      rfl

/-! ### Glyphs as they are printed -/

/-- A control character that has no escape of one letter is written by its code. -/
def glyph (c : Char) : Glyph :=
  if c.toNat < 0x20 ∧ c ∉ ['\n', '\r', '\t', '\x08', '\x0c'] then .codeUnit c.toNat else .plain c

def glyphs (s : String) : List Glyph :=
  s.toList.map glyph

theorem isHalf_glyph (c : Char) : (glyph c).isHalf = false := by
  unfold glyph
  split
  · rename_i control
    simp only [Glyph.isHalf, isSurrogate, Bool.and_eq_false_iff, decide_eq_false_iff_not]
    omega
  · rfl

theorem char_glyph (c : Char) : (glyph c).char = c := by
  unfold glyph
  split
  · exact Char.ofNat_toNat c
  · rfl

theorem codeUnit?_control : ∀ n < 0x20,
    codeUnit? '0' '0' (hexDigit (n / 16)) (hexDigit (n % 16)) = some n := by
  decide

/-- A character is printed as its glyph may be written. -/
theorem writtenAs_glyph (c : Char) : (glyph c).WrittenAs (escapeChar c) := by
  unfold escapeChar
  by_cases quote : c = '"'
  · subst quote
    exact .escape rfl
  by_cases backslash : c = '\\'
  · subst backslash
    exact .escape rfl
  by_cases newline : c = '\n'
  · subst newline
    exact .escape rfl
  by_cases carriage : c = '\r'
  · subst carriage
    exact .escape rfl
  by_cases tab : c = '\t'
  · subst tab
    exact .escape rfl
  by_cases backspace : c = '\x08'
  · subst backspace
    exact .escape rfl
  by_cases feed : c = '\x0c'
  · subst feed
    exact .escape rfl
  simp only [quote, backslash, newline, carriage, tab, backspace, feed, if_false]
  split
  · rename_i control
    have code : glyph c = .codeUnit c.toNat := by
      simp [glyph, control, newline, carriage, tab, backspace, feed]
    rw [code]
    exact .code (codeUnit?_control c.toNat control)
  · rename_i plain
    have itself : glyph c = .plain c := by
      simp [glyph, plain]
    rw [itself]
    exact .itself quote backslash (Nat.le_of_not_lt plain)

theorem body_map_glyph (cs : List Char) : Body (cs.flatMap escapeChar) (cs.map glyph) := by
  induction cs with
  | nil => exact .nil
  | cons c cs ih => exact .cons (writtenAs_glyph c) ih

theorem map_char_glyph (cs : List Char) : (cs.map glyph).map Glyph.char = cs := by
  rw [List.map_map]
  exact List.map_id'' char_glyph cs

end Json

end PathQuery
