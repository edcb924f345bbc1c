import Mathlib
import PathQuery.Proofs.Json.Glyphs
import PathQuery.Proofs.Query.Tiling

/-!
String literals of JSON among the tokens of a query. The grammar of literals and the scanner have
the same escapes and give them the same characters, one at a time. A character beyond the basic
plane stands for itself in both, but a literal may also write it as two escapes, the halves of a
surrogate pair; the scanner takes each half for an escape of its own, and stops at the first. Any
other literal is one token, with the string that it means.
-/

namespace PathQuery

open Scanner

namespace Json

/-! ### Texts that mean strings -/

/-- The text is a string with a character written as two halves. -/
def writesPair (text : String) : Bool :=
  match Source.ofChars? text.toList with
  | some (.string gs) => gs.any Glyph.isHalf
  | _ => false

theorem isWhiteSpace_of_isBlank {c : Char} (h : Source.isBlank c) : Unicode.isWhiteSpace c := by
  simp only [Source.isBlank, Bool.or_eq_true, decide_eq_true_eq] at h
  rcases h with ((rfl | rfl) | rfl) | rfl <;> decide

theorem blank_takeWhile (cs : List Char) : Blank (cs.takeWhile Source.isBlank) :=
  fun _ hc => isWhiteSpace_of_isBlank (List.mem_takeWhile_imp hc)

/-- A value is a string only from a quote on. -/
theorem glyphs?_of_value? {fuel : Nat} {cs rest : List Char} {gs : List Glyph}
    (h : Source.value? fuel cs = some (.string gs, rest)) :
    ∃ body, Source.skipBlanks cs = '"' :: body ∧ Source.glyphs? body = some (gs, rest) := by
  cases fuel with
  | zero => cases h
  | succ fuel =>
      rw [Source.value?] at h
      split at h
      · rename_i body opened
        obtain ⟨found, hb, same⟩ := Option.map_eq_some_iff.1 h
        cases same
        exact ⟨body, opened, hb⟩
      · split at h
        · cases h
        · obtain ⟨found, -, same⟩ := Option.map_eq_some_iff.1 h
          cases same
      · split at h
        · cases h
        · obtain ⟨found, -, same⟩ := Option.map_eq_some_iff.1 h
          cases same
      · split at h
        · rename_i found word
          unfold Source.keyword? at word
          split at word <;> cases word <;> cases h
        · obtain ⟨found, -, same⟩ := Option.map_eq_some_iff.1 h
          cases same

theorem charsOfGlyphs?_of_ofSource? {depth : Nat} {source : Source} {s : String}
    (h : ofSource? depth source = some (.string s)) :
    ∃ gs, source = .string gs ∧ charsOfGlyphs? gs = some s.toList := by
  cases source with
  | null | bool => cases h
  | string gs =>
      obtain ⟨t, means, same⟩ := Option.map_eq_some_iff.1 h
      cases same
      obtain ⟨cs, chars, rfl⟩ := Option.map_eq_some_iff.1 means
      exact ⟨gs, rfl, by rw [chars, String.toList_ofList]⟩
  | number n =>
      obtain ⟨_, -, same⟩ := Option.map_eq_some_iff.1 h
      cases same
  | array items | object members =>
      rw [ofSource?] at h
      split at h
      · cases h
      · obtain ⟨_, -, same⟩ := Option.map_eq_some_iff.1 h
        cases same

/-- A text that means a string, in its parts. -/
theorem parts_of_read? {text s : String} (h : read? text = some (.string s)) :
    ∃ body gs behind, text.toList =
        text.toList.takeWhile Source.isBlank ++ '"' :: (body ++ '"' :: behind) ∧
      Blank behind ∧ Body body gs ∧ charsOfGlyphs? gs = some s.toList ∧
      writesPair text = gs.any Glyph.isHalf := by
  unfold read? at h
  obtain ⟨source, written, means⟩ := Option.bind_eq_some_iff.1 h
  obtain ⟨gs, rfl, chars⟩ := charsOfGlyphs?_of_ofSource? means
  have pair : writesPair text = gs.any Glyph.isHalf := by
    unfold writesPair
    rw [written]
  unfold Source.ofChars? at written
  obtain ⟨⟨source, rest⟩, value, ends⟩ := Option.bind_eq_some_iff.1 written
  dsimp only at ends
  split at ends
  · rename_i blank
    cases ends
    obtain ⟨inside, opened, glyphs⟩ := glyphs?_of_value? value
    obtain ⟨body, rfl, spelled⟩ := body_of_glyphs? glyphs
    refine ⟨body, gs, rest, ?_, ?_, spelled, chars, pair⟩
    · rw [← opened]
      exact (List.takeWhile_append_dropWhile).symm
    · intro c hc
      rw [Source.skipBlanks, List.isEmpty_iff, List.dropWhile_eq_nil_iff] at blank
      exact isWhiteSpace_of_isBlank (blank c hc)
  · cases ends

end Json

/-! ### The scanner in a literal -/

namespace Scanner

open Json (Glyph)

variable {g : Glyph} {gs : List Glyph} {taken body : List Char}

/-- Half of a pair is no escape to the scanner. -/
theorem stringBody_half (h : g.WrittenAs taken) (half : g.isHalf) (start offset : Nat)
    (rest : List Char) : (stringBody '"' start (taken ++ rest) offset).1 =
      .error ⟨.invalidUnicodeEscape, offset⟩ := by
  cases h with
  | itself | escape => cases half
  | @code a b c d n found =>
      have read : unicodeEscape? a b c d = none := by
        simp [unicodeEscape?, found, show isSurrogate n from half]
      simp [stringBody, read, badUnicodeEscape]

theorem StringScan.cons_fst {c : Char} {s : StringScan} {e : SyntaxError} (h : s.1 = .error e) :
    (s.cons c).1 = .error e := by
  obtain ⟨_, p⟩ := s
  cases h
  rfl

/-- The scanner stops at the first half of the first pair. -/
theorem stringBody_pair (h : Json.Body body gs) (half : ∃ g ∈ gs, g.isHalf) {cs : List Char}
    (means : Json.charsOfGlyphs? gs = some cs) (start offset : Nat) (rest : List Char) :
    ∃ before a b c d after n, body = before ++ '\\' :: 'u' :: a :: b :: c :: d :: after ∧
      codeUnit? a b c d = some n ∧ Json.isHighSurrogate n ∧
      (stringBody '"' start (body ++ rest) offset).1 =
        .error ⟨.invalidUnicodeEscape, offset + width before⟩ := by
  induction h generalizing offset cs with
  | nil =>
      obtain ⟨_, hg, -⟩ := half
      cases hg
  | @cons g taken behind gs written _ ih =>
      cases first : g.isHalf with
      | true =>
          have stops := stringBody_half written first start offset (behind ++ rest)
          cases written with
          | itself | escape => cases first
          | @code a b c d n found =>
              refine ⟨[], a, b, c, d, behind, n, rfl, found, ?_, stops⟩
              exact Json.isHighSurrogate_of_charsOfGlyphs? means first
      | false =>
          rw [Json.charsOfGlyphs?_cons first, Option.map_eq_some_iff] at means
          obtain ⟨_, means, -⟩ := means
          rw [List.exists_mem_cons_iff, first] at half
          obtain ⟨before, a, b, c, d, after, n, rfl, found, high, stops⟩ :=
            ih (half.resolve_left Bool.false_ne_true) means (offset + width taken)
          refine ⟨taken ++ before, a, b, c, d, after, n, by simp, found, high, ?_⟩
          rw [List.append_assoc, stringBody_glyph written first, width_append, ← Nat.add_assoc]
          exact StringScan.cons_fst stops

theorem tokens_blank {gap : List Char} (blank : Blank gap) (offset : Nat) (dot : Bool) :
    tokens ⟨⟨gap, offset⟩, dot⟩ = .ok [⟨.finish, "", offset + width gap⟩] := by
  have skipped : skipBlanks ⟨gap, offset⟩ = ⟨[], offset + width gap⟩ := by
    have behind : StartsAtOnce [] := nofun
    simpa using skipBlanks_append blank behind offset
  rw [tokens_eq]
  simp [next, skipped, scan]

/-- A quote begins a string, whatever is in it. -/
theorem next_quote {gap : List Char} (blank : Blank gap) (cs : List Char) (offset : Nat)
    (dot : Bool) : next ⟨⟨gap ++ '"' :: cs, offset⟩, dot⟩ =
      match stringBody '"' (offset + width gap) cs (offset + width gap + 1) with
      | (.ok text, p) => (.ok ⟨.string, String.ofList text, offset + width gap⟩, ⟨p, false⟩)
      | (.error e, p) => (.error e, ⟨p, dot⟩) := by
  have skipped : skipBlanks ⟨gap ++ '"' :: cs, offset⟩ = ⟨'"' :: cs, offset + width gap⟩ :=
    skipBlanks_append blank (by simp [StartsAtOnce]; decide) offset
  have scanned : scan dot ⟨'"' :: cs, offset + width gap⟩ =
      scanString '"' cs ⟨'"' :: cs, offset + width gap⟩ := rfl
  unfold next
  dsimp only
  rw [skipped, scanned]
  unfold scanString
  dsimp only
  rw [show ('"' : Char).utf8Size = 1 from by decide]
  generalize stringBody '"' (offset + width gap) cs (offset + width gap + 1) = read
  rcases read with ⟨_ | _, _⟩ <;> rfl

/-- A literal without pairs is one token. -/
theorem tokens_whole {gap behind : List Char} (before : Blank gap) (after : Blank behind)
    (h : Json.Body body gs) (whole : ∀ g ∈ gs, g.isHalf = false) (offset : Nat) (dot : Bool) :
    tokens ⟨⟨gap ++ '"' :: (body ++ '"' :: behind), offset⟩, dot⟩ =
      .ok [⟨.string, String.ofList (gs.map Glyph.char), offset + width gap⟩,
        ⟨.finish, "", offset + width (gap ++ '"' :: (body ++ '"' :: behind))⟩] := by
  have size : offset + width gap + 1 + width body + 1 + width behind =
      offset + width (gap ++ '"' :: (body ++ '"' :: behind)) := by
    simp only [width_append, width, show ('"' : Char).utf8Size = 1 from by decide]
    omega
  rw [tokens_eq, next_quote before, stringBody_whole h whole]
  dsimp only
  rw [if_neg (by decide), tokens_blank after, size]
  rfl

/-- What is wrong in a string is wrong in the text. -/
theorem tokens_error {gap cs : List Char} (before : Blank gap) {offset : Nat} {e : SyntaxError}
    (h : (stringBody '"' (offset + width gap) cs (offset + width gap + 1)).1 = .error e)
    (dot : Bool) : tokens ⟨⟨gap ++ '"' :: cs, offset⟩, dot⟩ = .error e := by
  rw [tokens_eq, next_quote before]
  generalize stringBody '"' (offset + width gap) cs (offset + width gap + 1) = read at *
  obtain ⟨_, p⟩ := read
  cases h
  rfl

/-- A literal with a pair is an error where the first pair begins. -/
theorem tokens_pair {gap : List Char} (before : Blank gap) (h : Json.Body body gs)
    (half : ∃ g ∈ gs, g.isHalf) {cs : List Char} (means : Json.charsOfGlyphs? gs = some cs)
    (rest : List Char) (offset : Nat) (dot : Bool) :
    ∃ inside a b c d after n,
      gap ++ '"' :: (body ++ rest) = inside ++ '\\' :: 'u' :: a :: b :: c :: d :: after ∧
      codeUnit? a b c d = some n ∧ Json.isHighSurrogate n ∧
      tokens ⟨⟨gap ++ '"' :: (body ++ rest), offset⟩, dot⟩ =
        .error ⟨.invalidUnicodeEscape, offset + width inside⟩ := by
  obtain ⟨inside, a, b, c, d, after, n, rfl, code, high, stops⟩ :=
    stringBody_pair h half means (offset + width gap) (offset + width gap + 1) rest
  have place : offset + width gap + 1 + width inside =
      offset + width (gap ++ '"' :: inside) := by
    simp only [width_append, width, show ('"' : Char).utf8Size = 1 from by decide]
    omega
  rw [place] at stops
  refine ⟨gap ++ '"' :: inside, a, b, c, d, after ++ rest, n, by simp, code, high, ?_⟩
  exact tokens_error before stops dot

end Scanner

/-- A text that means a string to JSON is one token, of that string, just when no character in it is
written as a pair of escapes. Otherwise the first half of the first pair is an error. -/
theorem tokenize_json_string {text s : String} (h : Json.read? text = some (.string s)) :
    (tokenize text = .ok
        [⟨.string, s, width (text.toList.takeWhile Json.Source.isBlank)⟩,
          ⟨.finish, "", text.utf8ByteSize⟩] ↔
      Json.writesPair text = false) ∧
    (Json.writesPair text = true → ∃ before a b c d after n,
      text.toList = before ++ '\\' :: 'u' :: a :: b :: c :: d :: after ∧
      codeUnit? a b c d = some n ∧ Json.isHighSurrogate n ∧
      tokenize text = .error ⟨.invalidUnicodeEscape, width before⟩) := by
  obtain ⟨body, gs, behind, parts, blank, spelled, means, pair⟩ := Json.parts_of_read? h
  have before := Json.blank_takeWhile text.toList
  generalize text.toList.takeWhile Json.Source.isBlank = gap at *
  cases pairs : Json.writesPair text with
  | false =>
      have whole : ∀ g ∈ gs, g.isHalf = false := by
        rw [pairs, eq_comm, List.any_eq_false] at pair
        simpa using pair
      rw [Json.charsOfGlyphs?_whole whole, Option.some.injEq] at means
      have token := tokens_whole before blank spelled whole 0 false
      rw [← parts, means, String.ofList_toList, Nat.zero_add, Nat.zero_add, width_toList] at token
      exact ⟨⟨fun _ => rfl, fun _ => token⟩, nofun⟩
  | true =>
      rw [pairs, eq_comm, List.any_eq_true] at pair
      obtain ⟨inside, a, b, c, d, after, n, split, code, high, error⟩ :=
        tokens_pair before spelled pair means ('"' :: behind) 0 false
      rw [← parts] at split error
      rw [Nat.zero_add] at error
      refine ⟨⟨fun token => ?_, nofun⟩, fun _ => ⟨_, _, _, _, _, _, n, split, code, high, error⟩⟩
      cases error.symm.trans token

/-- Every escape, and a character beyond the basic plane that stands for itself. -/
theorem tokenize_json_string_escapes :
    Json.read? " \"\\\"\\\\\\/\\b\\f\\n\\r\\t\\u00E9é😀\"\n" =
        some (.string "\"\\/\x08\x0c\n\r\téé😀") ∧
      tokenize " \"\\\"\\\\\\/\\b\\f\\n\\r\\t\\u00E9é😀\"\n" = .ok
        [⟨.string, "\"\\/\x08\x0c\n\r\téé😀", 1⟩, ⟨.finish, "", 32⟩] := by
  have means : Json.read? " \"\\\"\\\\\\/\\b\\f\\n\\r\\t\\u00E9é😀\"\n" =
      some (.string "\"\\/\x08\x0c\n\r\téé😀") := by cbv
  have whole : Json.writesPair " \"\\\"\\\\\\/\\b\\f\\n\\r\\t\\u00E9é😀\"\n" = false := by cbv
  exact ⟨means, (tokenize_json_string means).1.2 whole⟩

/-- The two halves of a pair are one character to JSON, and the first of them is an error. -/
theorem surrogate_pair_not_tokenized :
    Json.read? "\"\\ud83d\\ude00\"" = some (.string "😀") ∧
      tokenize "\"\\ud83d\\ude00\"" = .error ⟨.invalidUnicodeEscape, 1⟩ ∧
      ¬∀ text s : String, Json.read? text = some (.string s) → text.toList.head? = some '"' →
        tokenize text = .ok [⟨.string, s, 0⟩, ⟨.finish, "", text.utf8ByteSize⟩] := by
  have means : Json.read? "\"\\ud83d\\ude00\"" = some (.string "😀") := by cbv
  have failed : tokenize "\"\\ud83d\\ude00\"" = .error ⟨.invalidUnicodeEscape, 1⟩ := by cbv
  refine ⟨means, failed, fun agree => ?_⟩
  have token := agree _ _ means rfl
  rw [failed] at token
  cases token

end PathQuery
