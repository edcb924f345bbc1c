import PathQuery.Proofs.Query.NumberForms
import PathQuery.Proofs.Query.TokenEnds

/-!
Numbers in a query text. A number token is the longest text of the form of a number at its position,
and no letter, digit or underscore follows it. So what the parser is given as a number can be read as
one, unless it is no integer of 64 bits and beyond all floats.
-/

namespace PathQuery

/-! ### The longest beginning -/

namespace Scanner

open NumberLiteral

variable {u v cs : List Char} {f : Option Digits} {e : Option ExponentLiteral}

/-- If `g` takes all of `u`, and no more when something comes behind it, what is taken together begins
with `u` and what is behind it. -/
theorem followedBy_longest {g h : List Char → List Char} (begins : u ++ v <+: cs)
    (first : u <+: g cs) (ends : v ≠ [] → g cs = u) (second : ∀ ⦃rest⦄, v <+: rest → v <+: h rest) :
    u ++ v <+: followedBy g h cs := by
  unfold followedBy
  by_cases none : v = []
  · rw [none, List.append_nil]
    exact first.trans (List.prefix_append _ _)
  · rw [ends none]
    obtain ⟨rest, rfl⟩ := begins
    rw [List.append_assoc, List.drop_left]
    exact (List.prefix_append_right_inj u).2 (second (List.prefix_append v rest))

theorem digits_longest (ds : Digits) (begins : ds.chars ++ v <+: cs) :
    ds.chars <+: cs.takeWhile Char.isDigit := by
  obtain ⟨rest, rfl⟩ := begins
  rw [List.append_assoc, List.takeWhile_append_of_pos ds.isDigit]
  exact List.prefix_append _ _

theorem isEmpty_of_digits {ds : Digits} (begins : ds.chars <+: cs) : cs.isEmpty = false := by
  rw [List.isEmpty_eq_false_iff]
  rintro rfl
  exact ds.ne_nil (List.prefix_nil.1 begins)

theorem digits_end (ds : Digits) (begins : ds.chars ++ v <+: cs) (some : v ≠ [])
    (other : ∀ c ∈ v.head?, c.isDigit = false) : cs.takeWhile Char.isDigit = ds.chars := by
  obtain ⟨c, v, rfl⟩ := List.exists_cons_of_ne_nil some
  obtain ⟨rest, rfl⟩ := begins
  have stop : ∀ d ∈ (c :: v ++ rest).head?, d.isDigit = false := other
  rw [List.append_assoc]
  exact (ds.span stop).1

theorem fraction_longest (begins : fractionChars f ++ v <+: cs) : fractionChars f <+: fraction cs := by
  cases f with
  | none => exact List.nil_prefix
  | some ds =>
      obtain ⟨rest, rfl⟩ := begins
      have digits := digits_longest ds (List.prefix_append (ds.chars ++ v) rest)
      simp only [fractionChars, List.cons_append]
      rw [fraction_point, isEmpty_of_digits digits]
      exact List.cons_prefix_cons.2 ⟨rfl, digits⟩

theorem fraction_end (begins : fractionChars f ++ exponentChars e <+: cs)
    (some : exponentChars e ≠ []) : fraction cs = fractionChars f := by
  obtain ⟨rest, rfl⟩ := begins
  cases e with
  | none => exact absurd rfl some
  | some e =>
      obtain ⟨point, digit⟩ := e.mark_ne
      cases f with
      | none => exact fraction_other point _
      | some ds =>
          have digits : List.takeWhile Char.isDigit (ds.chars ++ e.chars ++ rest) = ds.chars :=
            digits_end ds (List.prefix_append _ rest) some (by rintro _ ⟨⟩; exact digit)
          simp only [fractionChars, exponentChars, List.cons_append]
          rw [fraction_point, digits, ds.isEmpty_chars]
          rfl

theorem exponent_signed (e : ExponentLiteral) {c : Char} (sign : c = '+' ∨ c = '-')
    (cs : List Char) : exponent (e.mark :: c :: cs) =
      if (cs.takeWhile Char.isDigit).isEmpty then [] else
        e.mark :: c :: cs.takeWhile Char.isDigit := by
  simp [exponent, e.mark_eq, sign]

theorem exponent_plain (e : ExponentLiteral) {c : Char} (plain : ¬(c = '+' ∨ c = '-'))
    (cs : List Char) : exponent (e.mark :: c :: cs) =
      if ((c :: cs).takeWhile Char.isDigit).isEmpty then [] else
        e.mark :: (c :: cs).takeWhile Char.isDigit := by
  simp [exponent, e.mark_eq, plain]

theorem exponent_longest (begins : exponentChars e <+: cs) : exponentChars e <+: exponent cs := by
  cases e with
  | none => exact List.nil_prefix
  | some e =>
      obtain ⟨rest, rfl⟩ := begins
      have digits := digits_longest e.digits (v := rest) (List.prefix_refl _)
      have some := isEmpty_of_digits digits
      simp only [exponentChars, ExponentLiteral.chars, ExponentLiteral.signChars, List.cons_append]
      cases e.sign with
      | some negative =>
          rw [List.singleton_append, List.cons_append, exponent_signed e (by cases negative <;> simp),
            some]
          exact List.cons_prefix_cons.2 ⟨rfl, List.cons_prefix_cons.2 ⟨rfl, digits⟩⟩
      | none =>
          obtain ⟨d, ds, split, digit⟩ := e.digits.exists_cons
          have plain : ¬(d = '+' ∨ d = '-') := by
            rintro (rfl | rfl) <;> cases digit
          rw [split, List.cons_append] at digits some
          rw [List.nil_append, split, List.cons_append, exponent_plain e plain, some]
          exact List.cons_prefix_cons.2 ⟨rfl, digits⟩

theorem numeral_longest (n : NumberLiteral) (begins : n.chars <+: cs) : n.chars <+: numeral cs := by
  obtain ⟨d, ds, split, digit⟩ := n.whole.exists_cons
  have sign : optional (· = '-') cs = minusChars n.negative := by
    obtain ⟨rest, rfl⟩ := begins
    rw [chars, unsigned, split, optional, minusChars]
    cases n.negative with
    | true => rfl
    | false =>
        have minus : d ≠ '-' := by
          rintro rfl
          cases digit
        simp [minus]
  rw [numeral_eq]
  refine followedBy_longest begins (sign ▸ List.prefix_refl _) (fun _ => sign) ?_
  intro cs begins
  refine followedBy_longest begins (digits_longest n.whole begins)
    (fun some => digits_end n.whole begins some head_behind_digits) ?_
  intro cs begins
  exact followedBy_longest begins (fraction_longest begins) (fraction_end begins)
    fun _ => exponent_longest

/-! ### What is scanned -/

/-- The digits at the front of a text, if there are any. -/
theorem exists_digits {cs : List Char} (some : cs.takeWhile Char.isDigit ≠ []) :
    ∃ ds : Digits, cs.takeWhile Char.isDigit = ds.chars :=
  ⟨⟨_, some, List.all_eq_true.1 List.all_takeWhile⟩, rfl⟩

theorem exists_fraction (cs : List Char) : ∃ f, fraction cs = fractionChars f := by
  cases cs with
  | nil => exact ⟨none, rfl⟩
  | cons c cs =>
      by_cases point : c = '.'
      · subst point
        rw [fraction_point]
        split
        · exact ⟨none, rfl⟩
        · rename_i some
          obtain ⟨ds, digits⟩ := exists_digits (mt List.isEmpty_iff.2 some)
          exact ⟨ds, by rw [digits]; rfl⟩
      · exact ⟨none, fraction_other point cs⟩

theorem exists_exponent (cs : List Char) : ∃ e, exponent cs = exponentChars e := by
  unfold exponent
  split
  · rename_i mark c rest
    split
    · rename_i hm
      obtain ⟨capital, hc⟩ : ∃ capital : Bool, mark = if capital then 'E' else 'e' := by
        rcases (by simpa using hm : mark = 'e' ∨ mark = 'E') with rfl | rfl
        · exact ⟨false, rfl⟩
        · exact ⟨true, rfl⟩
      split <;> dsimp only <;> split
      · exact ⟨none, rfl⟩
      · rename_i sign some
        obtain ⟨ds, digits⟩ := exists_digits (mt List.isEmpty_iff.2 some)
        rcases (by simpa using sign : c = '+' ∨ c = '-') with rfl | rfl
        · exact ⟨.some ⟨capital, .some false, ds⟩, by rw [digits, hc]; rfl⟩
        · exact ⟨.some ⟨capital, .some true, ds⟩, by rw [digits, hc]; rfl⟩
      · exact ⟨none, rfl⟩
      · rename_i some
        obtain ⟨ds, digits⟩ := exists_digits (mt List.isEmpty_iff.2 some)
        exact ⟨.some ⟨capital, none, ds⟩, by rw [digits, hc]; rfl⟩
    · exact ⟨none, rfl⟩
  · exact ⟨none, rfl⟩

theorem exists_numeral {c : Char} {rest : List Char}
    (h : c.isDigit ∨ (c = '-' ∧ rest.head?.any Char.isDigit)) :
    ∃ n : NumberLiteral, numeral (c :: rest) = n.chars := by
  have whole (cs : List Char) (h : cs.head?.any Char.isDigit) :
      ∃ ds f e, followedBy (List.takeWhile Char.isDigit) (followedBy fraction exponent) cs =
        Digits.chars ds ++ (fractionChars f ++ exponentChars e) := by
    have some : cs.takeWhile Char.isDigit ≠ [] := by
      cases cs with
      | nil => cases h
      | cons d cs =>
          have digit : d.isDigit := h
          simp [digit]
    obtain ⟨ds, digits⟩ := exists_digits some
    unfold followedBy
    obtain ⟨f, hf⟩ := exists_fraction (cs.drop (cs.takeWhile Char.isDigit).length)
    rw [hf]
    obtain ⟨e, he⟩ := exists_exponent
      ((cs.drop (cs.takeWhile Char.isDigit).length).drop (fractionChars f).length)
    exact ⟨ds, f, e, by rw [he, digits]⟩
  rw [numeral_eq]
  rcases h with digit | ⟨rfl, digit⟩
  · obtain ⟨ds, f, e, split⟩ := whole (c :: rest) (by simpa using digit)
    have plain : optional (· = '-') (c :: rest) = [] := by
      have minus : c ≠ '-' := by
        rintro rfl
        cases digit
      simp [optional, minus]
    refine ⟨⟨false, ds, f, e⟩, ?_⟩
    rw [followedBy, plain]
    exact split
  · obtain ⟨ds, f, e, split⟩ := whole rest digit
    refine ⟨⟨true, ds, f, e⟩, ?_⟩
    rw [followedBy]
    exact congrArg ('-' :: ·) split

/-- Every token of a text is scanned from a place in it. -/
theorem scanned_of_mem {s : Scanner} {ts : List Token} (h : s.tokens = .ok ts) :
    ∀ t ∈ ts, ∃ dot p q, s.toPlace.Reaches p ∧ scan dot p = (.ok t, q) := by
  have scanned {s m : Scanner} {t : Token} (hn : s.next = (.ok t, m)) :
      ∃ dot p q, s.toPlace.Reaches p ∧ scan dot p = (.ok t, q) := by
    obtain ⟨gap, rest, -, -, split, scanned, -⟩ := scan_of_next hn
    exact ⟨_, _, _, ⟨gap, split, rfl⟩, scanned⟩
  induction s using tokens.induct generalizing ts with
  | case1 s e m hn =>
      rw [tokens_eq, hn] at h
      cases h
  | case2 s t m hn hk =>
      rw [tokens_eq, hn] at h
      dsimp only at h
      rw [if_pos hk] at h
      cases h
      simpa using scanned hn
  | case3 s t m hn hk ih =>
      rw [tokens_eq, hn] at h
      dsimp only at h
      rw [if_neg hk] at h
      cases hm : m.tokens with
      | error e =>
          rw [hm] at h
          cases h
      | ok us =>
          rw [hm] at h
          cases h
          have reached := next_reaches s
          rw [hn] at reached
          refine List.forall_mem_cons.2 ⟨scanned hn, fun u hu => ?_⟩
          obtain ⟨dot, p, q, inside, scanned⟩ := ih hm u hu
          exact ⟨dot, p, q, reached.trans inside, scanned⟩

/-! ### Number tokens -/

/-- A number token is scanned by its form. -/
theorem scanNumber_of_scan {dot : Bool} {c : Char} {rest : List Char} {offset : Nat} {t : Token}
    {q : Place} (h : scan dot ⟨c :: rest, offset⟩ = (.ok t, q)) (ht : t.kind = .number) :
    (c.isDigit ∨ (c = '-' ∧ rest.head?.any Char.isDigit)) ∧
      scanNumber ⟨c :: rest, offset⟩ = (.ok t, q) := by
  obtain ⟨read, form, run⟩ := form_of_scan h
  cases form with
  | sign hs =>
      rw [(take_eq_ok run).1.symm.trans ht] at hs
      unfold single? at hs
      split at hs <;> cases hs
  | operator ho =>
      rw [(take_eq_ok run).1.symm.trans ht] at ho
      unfold operator? at ho
      split at ho <;> (try split at ho) <;> cases ho
  | string _ => exact absurd ((scanString_kind run).symm.trans ht) (by simp)
  | key _ _ => exact absurd ((take_eq_ok run).1.symm.trans ht) (by simp)
  | number _ digits => exact ⟨digits, run⟩
  | word _ =>
      have kind := (take_eq_ok run).1.symm.trans ht
      rcases wordKind_cases ((c :: rest).takeWhile isIdentifierChar) with hk | hk | hk <;>
        rw [hk] at kind <;> cases kind

/-- The text of a number token is the numeral at its position, and nothing runs on behind it. -/
theorem numeral_of_scan {dot : Bool} {p q : Place} {t : Token} (h : scan dot p = (.ok t, q))
    (ht : t.kind = .number) :
    (∃ n : NumberLiteral, t.text.toList = n.chars) ∧ t.position = p.offset ∧
      p.rest = t.text.toList ++ q.rest ∧ numeral p.rest = t.text.toList ∧
        runsOn q.rest = false := by
  obtain ⟨⟨-, rfl⟩⟩ | taken := takes_scan h
  · cases ht
  obtain ⟨span, some, written, split, reached⟩ := taken.span
  obtain ⟨rest, offset⟩ := p
  obtain ⟨rest', offset'⟩ := q
  dsimp only at split reached
  subst split
  obtain ⟨c, cs, rfl⟩ := List.exists_cons_of_ne_nil some
  obtain ⟨digits, run⟩ := scanNumber_of_scan h ht
  obtain ⟨numeral, ends, -⟩ := scanNumber_span (c :: cs) run
  obtain ⟨n, literal⟩ := exists_numeral digits
  have text := written.plain (by simp [ht])
  rw [text]
  exact ⟨⟨n, numeral.symm.trans literal⟩, taken.position, rfl, numeral, ends⟩

end Scanner

theorem Parser.numberLiteral_fails_iff (t : Token) (s : TokenStream) :
    (∃ e m, Parser.numberLiteral t s = .error e m) ↔ Number.ofText? t.text = none := by
  unfold Parser.numberLiteral
  cases Number.ofText? t.text with
  | none => simp
  | some n => simp

/-- A number token of a text has the form of a number, is the longest text of that form at its
position, and nothing runs on behind it. Reading it as a number fails just when it is no integer of 64
bits and its magnitude is one that is rounded beyond the largest float. -/
theorem number_token_well_formed {text : String} {ts : List Token} (h : tokenize text = .ok ts)
    {t : Token} (ht : t ∈ ts) (number : t.kind = .number) :
    (∃ n : NumberLiteral, t.text.toList = n.chars) ∧
    (∃ before after, text.toList = before ++ (t.text.toList ++ after) ∧
      t.position = width before ∧
      (∀ m : NumberLiteral, m.chars <+: t.text.toList ++ after →
        m.chars.length ≤ t.text.toList.length) ∧
      ∀ c ∈ after.head?, Unicode.isAlphanumeric c = false ∧ c ≠ '_') ∧
    ∀ n : NumberLiteral, t.text.toList = n.chars →
      (∀ s, (∃ e m, Parser.numberLiteral t s = .error e m) ↔
        ¬n.IsInt64 ∧ Binary64.overflow ≤ |n.value|) ∧
      (Binary64.overflow ≤ |n.value| → ∀ x : Binary64, |x.value| < |n.value|) := by
  obtain ⟨dot, p, q, ⟨before, split, reached⟩, scanned⟩ := Scanner.scanned_of_mem h t ht
  obtain ⟨form, position, taken, numeral, ends⟩ := Scanner.numeral_of_scan scanned number
  refine ⟨form, ⟨before, q.rest, ?_, ?_, ?_, ?_⟩, ?_⟩
  · rw [← taken]
    exact split
  · rw [position, reached]
    exact Nat.zero_add _
  · intro m begins
    rw [← taken] at begins
    exact numeral ▸ (Scanner.numeral_longest m begins).length_le
  · intro c hc
    rw [Scanner.runsOn, Option.mem_def.1 hc] at ends
    simpa using ends
  · intro n literal
    refine ⟨fun s => ?_, fun beyond x => (Binary64.abs_value_lt_overflow x).trans_le beyond⟩
    rw [Parser.numberLiteral_fails_iff, ← n.ofText?_eq_none_iff, ← literal, String.ofList_toList]

/-- A sign, a fraction and an exponent, beyond all floats. -/
theorem number_token_well_formed_beyond :
    ∃ ts, tokenize "$<-1.5E400" = .ok ts ∧ ⟨.number, "-1.5E400", 2⟩ ∈ ts ∧
      ∃ n : NumberLiteral, "-1.5E400".toList = n.chars ∧ ¬n.IsInt64 ∧
        ∀ x : Binary64, |x.value| < |n.value| := by
  have tokens : tokenize "$<-1.5E400" = .ok
      [⟨.root, "$", 0⟩, ⟨.comparator .lt, "<", 1⟩, ⟨.number, "-1.5E400", 2⟩,
        ⟨.finish, "", 10⟩] := Scanner.tokenize_eq_within _
  have unread : Number.ofText? "-1.5E400" = none := by
    cbv
  obtain ⟨⟨n, literal⟩, -, read⟩ := number_token_well_formed tokens
    (t := ⟨.number, "-1.5E400", 2⟩) (by simp) rfl
  obtain ⟨fails, beyond⟩ := read n literal
  obtain ⟨float, large⟩ := (fails ⟨[], 10⟩).1 ((Parser.numberLiteral_fails_iff _ _).2 unread)
  exact ⟨_, tokens, by simp, n, literal, float, beyond large⟩

end PathQuery
