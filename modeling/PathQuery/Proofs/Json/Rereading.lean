import PathQuery.Json.Printer
import PathQuery.Proofs.Json.Readable
import PathQuery.Proofs.Query.PrintedText

/-!
JSON text read back. Whatever value it is printed from, compact text is of the right grammar, and it
is read as the source form of the value; so it means the value again exactly when that is readable.
-/

namespace PathQuery

open Scanner (EndsNumeral takeWhile_digits head_exponentChars head_fractionChars unsigned_cons)

/-! ### Leading zeros -/

/-- A leading zero stands alone. -/
def Numeral.Plain (n : Numeral) : Prop :=
  n.whole.head? = some '0' → n.whole = ['0']

namespace Number

theorem head_toDigits {n : Nat} (h : n ≠ 0) : (Nat.toDigits 10 n).head? ≠ some '0' := by
  induction n using Nat.strong_induction_on with
  | _ n ih =>
      by_cases small : n < 10
      · rw [Nat.toDigits_of_lt_base small]
        have digits : ∀ d < 10, d ≠ 0 → [d.digitChar].head? ≠ some '0' := by decide
        exact digits n small h
      · rw [Nat.toDigits_of_base_le (by decide) (by omega),
          List.head?_append_of_ne_nil _ Nat.toDigits_ne_nil]
        exact ih (n / 10) (by omega) (by omega)

theorem plain_intNumeral (i : Int) : (intNumeral i).Plain := by
  intro head
  rw [intNumeral] at head ⊢
  by_cases zero : i.natAbs = 0
  · simp [zero]
  · exact absurd head (head_toDigits zero)

theorem plain_positionalNumeral (negative : Bool) {d : Nat} {e : Int} (h : d = 0 → e ≤ 0) :
    (positionalNumeral negative (Nat.toDigits 10 d) e).Plain := by
  intro head
  unfold positionalNumeral at head ⊢
  dsimp only at head ⊢
  by_cases zero : d = 0
  · subst zero
    have he := h rfl
    rw [Nat.toDigits_zero] at head ⊢
    split
    · rw [show e.toNat = 0 by omega]
      rfl
    · rw [if_neg (by simp; omega)]
  · have some : Nat.toDigits 10 d ≠ [] := Nat.toDigits_ne_nil
    have first := head_toDigits zero
    split at head
    · rw [List.head?_append_of_ne_nil _ some] at head
      exact absurd head first
    split at head
    · rw [List.head?_take, if_neg (by omega)] at head
      exact absurd head first
    · rename_i negative_ long
      rw [if_neg negative_, if_neg long]

theorem plain_scientificNumeral (negative : Bool) (ds : List Char) (lead : Int) :
    (scientificNumeral negative ds lead).Plain := by
  intro head
  cases ds with
  | nil => cases head
  | cons d ds =>
      cases head
      rfl

/-- Only zero is printed with the digit zero alone. -/
theorem shortest_zero {x : Binary64} (h : x.shortest.digits = 0) : x.shortest.exponent = 0 := by
  have read := Binary64.ofDecimal_shortest x x.negative
  cases hs : x.shortest with
  | mk d e =>
  obtain rfl : d = 0 := by rw [← h, hs]
  rw [hs, Binary64.ofDecimal_zero, Option.some.injEq] at read
  have zero : x.magnitude = 0 := by
    have := congrArg Binary64.magnitude read
    rw [Binary64.magnitude_eq, Binary64.magnitude_eq] at this
    rw [Binary64.magnitude_eq, ← this]
    rfl
  rw [Binary64.shortest, if_pos zero] at hs
  cases hs
  rfl

theorem plain_floatNumeral (x : Binary64) : (floatNumeral x).Plain := by
  unfold floatNumeral
  dsimp only
  split
  · exact plain_positionalNumeral _ fun h => (shortest_zero h).le
  · exact plain_scientificNumeral _ _ _

end Number

/-! ### Numerals -/

namespace Json.Source

section

variable {n : PathQuery.Numeral} {rest : List Char}

theorem dropWhile_digits {ds rest : List Char} (h : ∀ c ∈ ds, c.isDigit)
    (hr : ∀ c ∈ rest.head?, c.isDigit = false) : (ds ++ rest).dropWhile Char.isDigit = rest := by
  rw [List.dropWhile_append_of_pos h]
  cases rest with
  | nil => rfl
  | cons c cs => simp [hr c rfl]

theorem wholePart?_chars (h : n.WellFormed) (hp : n.Plain) (hr : EndsNumeral rest) :
    wholePart? (n.unsigned ++ rest) =
      some (n.whole, n.fractionChars ++ (n.exponentChars ++ rest)) := by
  have stop := head_fractionChars (n := n) hr
  have taken := takeWhile_digits h.whole stop
  have dropped := dropWhile_digits h.whole stop
  rw [PathQuery.Numeral.unsigned, List.append_assoc, List.append_assoc]
  obtain ⟨c, cs, hw⟩ := List.exists_cons_of_ne_nil h.whole_ne_nil
  by_cases zero : c = '0'
  · have alone : n.whole = ['0'] := hp (by rw [hw, zero]; rfl)
    rw [alone]
    rfl
  · unfold wholePart?
    split
    · rename_i other
      rw [hw] at other
      exact absurd (List.cons.inj other).1 zero
    · rw [taken, dropped]
      simp [h.whole_ne_nil]

theorem fraction?_chars (h : n.WellFormed) (hr : EndsNumeral rest) :
    fraction? (n.fractionChars ++ (n.exponentChars ++ rest)) =
      some (n.fraction, n.exponentChars ++ rest) := by
  have stop := head_exponentChars (n := n) hr
  unfold PathQuery.Numeral.fractionChars
  cases hf : n.fraction with
  | nil =>
      rw [List.isEmpty_nil, if_pos rfl, List.nil_append]
      unfold fraction?
      split
      · rename_i cs point
        exact absurd rfl (stop '.' (by rw [point]; rfl)).2
      · rfl
  | cons d ds =>
      have digits : ∀ c ∈ d :: ds, c.isDigit := hf ▸ h.fraction
      have taken := takeWhile_digits digits fun c hc => (stop c hc).1
      have dropped := dropWhile_digits digits fun c hc => (stop c hc).1
      rw [List.isEmpty_cons, if_neg (by simp), List.cons_append]
      simp only [fraction?, taken, dropped]
      rfl

theorem exponentDigits?_chars {ds : List Char} (negative : Bool) (h : ∀ c ∈ ds, c.isDigit)
    (some_ : ds ≠ []) (hr : EndsNumeral rest) :
    exponentDigits? negative (ds ++ rest) =
      some (if negative then -(Number.natOfDigits ds : Int) else Number.natOfDigits ds, rest) := by
  unfold exponentDigits?
  simp only [takeWhile_digits h hr.endsName.head_not_digit,
    dropWhile_digits h hr.endsName.head_not_digit]
  rw [if_neg (by simpa using some_)]
  rfl

theorem exponent?_chars (h : n.WellFormed) (hr : EndsNumeral rest) :
    ∃ e : Option Int, exponent? (n.exponentChars ++ rest) = some (e, rest) ∧
      e.getD 0 = n.exponentValue ∧ e.isNone = n.exponent.isNone := by
  unfold PathQuery.Numeral.exponentChars PathQuery.Numeral.exponentValue
  cases he : n.exponent with
  | none =>
      refine ⟨none, ?_, rfl, rfl⟩
      cases rest with
      | nil => rfl
      | cons c cs =>
          have other : ¬ (c = 'e' ∨ c = 'E') := by
            rintro (rfl | rfl) <;> exact absurd (hr _ rfl).1 (by decide)
          rw [List.nil_append, exponent?]
          simp [other]
  | some e =>
      obtain ⟨negative, ds⟩ := e
      obtain ⟨some_, digits⟩ := h.exponent _ he
      have read := exponentDigits?_chars negative digits some_ hr
      refine ⟨some _, ?_, rfl, rfl⟩
      cases negative with
      | true =>
          show (exponentDigits? true (ds ++ rest)).map _ = _
          rw [read]
          rfl
      | false =>
          show (exponentDigits? false (ds ++ rest)).map _ = _
          rw [read]
          rfl

theorem numeral?_chars (h : n.WellFormed) (hp : n.Plain) (hr : EndsNumeral rest) :
    numeral? (n.chars ++ rest) = some (n.source, rest) := by
  obtain ⟨e, exponent, value, none⟩ := exponent?_chars h hr
  have joined : natOfDigits (natOfDigits 0 n.whole) n.fraction =
      Number.natOfDigits (n.whole ++ n.fraction) := by
    rw [Number.natOfDigits, List.foldl_append]
    rfl
  have magnitude : magnitude? n.negative (n.unsigned ++ rest) = some (n.source, rest) := by
    unfold magnitude?
    rw [wholePart?_chars h hp hr]
    simp only [Option.bind_eq_bind, Option.bind_some, fraction?_chars h hr, exponent, joined, value,
      none, Option.pure_def]
    rfl
  unfold PathQuery.Numeral.chars
  cases hn : n.negative with
  | true => rw [if_pos rfl, List.cons_append, numeral?, ← hn, magnitude]
  | false =>
      obtain ⟨c, cs, hu, hc⟩ := unsigned_cons h
      rw [if_neg (by simp), ← magnitude, hu, hn, List.cons_append]
      unfold numeral?
      split
      · rename_i minus
        cases minus
        exact absurd hc (by decide)
      · rfl

end

/-! ### Strings -/

theorem glyphs?_quote (s : String) (rest : List Char) :
    glyphs? (s.toList.flatMap escapeChar ++ '"' :: rest) = some (glyphs s, rest) :=
  glyphs?_eq_some_iff.2 ⟨_, rfl, body_map_glyph s.toList⟩

/-! ### Values -/

theorem numeral_chars_cons {n : PathQuery.Numeral} (h : n.WellFormed) :
    ∃ c cs, n.chars = c :: cs ∧ (c = '-' ∨ c.isDigit) := by
  obtain ⟨c, cs, hu, hc⟩ := unsigned_cons h
  unfold PathQuery.Numeral.chars
  cases n.negative with
  | true => exact ⟨'-', n.unsigned, rfl, .inl rfl⟩
  | false => exact ⟨c, cs, hu, .inr hc⟩

theorem value?_numeral {n : PathQuery.Numeral} (h : n.WellFormed) (hp : n.Plain)
    {rest : List Char} (hr : EndsNumeral rest) (fuel : Nat) :
    value? (fuel + 1) (n.chars ++ rest) = some (.number n.source, rest) := by
  have read := numeral?_chars h hp hr
  obtain ⟨c, cs, hn, hc⟩ := numeral_chars_cons h
  rw [hn, List.cons_append] at read ⊢
  have other {d : Char} (hd : d ≠ '-' ∧ d.isDigit = false) : c ≠ d := by
    rintro rfl
    rcases hc with hc | hc
    · exact hd.1 hc
    · rw [hd.2] at hc
      cases hc
  have noBlank : skipBlanks (c :: (cs ++ rest)) = c :: (cs ++ rest) := by
    have blanks : isBlank c = false := by
      simp only [isBlank, Bool.or_eq_false_iff, decide_eq_false_iff_not]
      exact ⟨⟨⟨other (by decide), other (by decide)⟩, other (by decide)⟩, other (by decide)⟩
    rw [skipBlanks, List.dropWhile_cons_of_neg (by simp [blanks])]
  have noKeyword : keyword? (c :: (cs ++ rest)) = none := by
    unfold keyword?
    split
    · rename_i same
      exact absurd (List.cons.inj same).1 (other (by decide))
    · rename_i same
      exact absurd (List.cons.inj same).1 (other (by decide))
    · rename_i same
      exact absurd (List.cons.inj same).1 (other (by decide))
    · rfl
  unfold value?
  rw [noBlank]
  split
  · rename_i same
    exact absurd (List.cons.inj same).1 (other (by decide))
  · rename_i same
    exact absurd (List.cons.inj same).1 (other (by decide))
  · rename_i same
    exact absurd (List.cons.inj same).1 (other (by decide))
  · rw [noKeyword, read]
    rfl

theorem wellFormed_numeral (n : Number) : n.numeral.WellFormed := by
  cases n with
  | int i => exact Number.wellFormed_intNumeral i
  | float x => exact Number.wellFormed_floatNumeral x

theorem plain_numeral (n : Number) : n.numeral.Plain := by
  cases n with
  | int i => exact Number.plain_intNumeral i
  | float x => exact Number.plain_floatNumeral x

theorem chars_numeral (n : Number) : n.numeral.chars = n.chars := by
  cases n with
  | int i => exact Number.chars_intNumeral i
  | float x => exact Number.chars_floatNumeral x

/-- No printed value begins with a blank or a closing bracket. -/
theorem chars_cons (x : Json) :
    ∃ c cs, x.chars = c :: cs ∧ isBlank c = false ∧ c ≠ ']' := by
  have leaf {c : Char} {cs : List Char} (h : isBlank c = false ∧ c ≠ ']') :
      ∃ d ds, c :: cs = d :: ds ∧ isBlank d = false ∧ d ≠ ']' := ⟨c, cs, rfl, h⟩
  match x with
  | .null | .bool true | .bool false | .string _ | .array [] | .array (_ :: _) | .object []
  | .object (_ :: _) =>
      unfold Json.chars
      exact leaf (by decide)
  | .number n =>
      obtain ⟨c, cs, hn, hc⟩ := numeral_chars_cons (wellFormed_numeral n)
      rw [chars_numeral] at hn
      refine ⟨c, cs, hn, ?_⟩
      rcases hc with rfl | hc
      · decide
      · constructor
        · simp only [isBlank, Bool.or_eq_false_iff, decide_eq_false_iff_not]
          refine ⟨⟨⟨?_, ?_⟩, ?_⟩, ?_⟩ <;>
          · rintro rfl
            exact absurd hc (by decide)
        · rintro rfl
          exact absurd hc (by decide)

/-- The printed value is read as its source form, given fuel for its length. -/
def ReadsBack (x : Json) : Prop :=
  ∀ fuel rest, x.chars.length ≤ fuel → EndsNumeral rest →
    value? fuel (x.chars ++ rest) = some (source x, rest)

theorem ends_itemsTail (xs : List Json) (rest : List Char) :
    EndsNumeral (itemsTail xs ++ ']' :: rest) := by
  cases xs with
  | nil => exact endsNumeral_cons (by decide)
  | cons _ _ => exact endsNumeral_cons (by decide)

theorem items?_chars {x : Json} {xs : List Json} (h : ∀ y ∈ x :: xs, ReadsBack y) (fuel : Nat)
    (rest : List Char) (enough : x.chars.length + (itemsTail xs).length < fuel) :
    items? fuel (x.chars ++ (itemsTail xs ++ ']' :: rest)) =
      some (source x :: itemSources xs, rest) := by
  induction xs generalizing x fuel with
  | nil =>
      obtain ⟨f, rfl⟩ := Nat.exists_eq_add_one_of_ne_zero (show fuel ≠ 0 by omega)
      rw [items?, h x (by simp) f _ (by omega) (ends_itemsTail [] rest)]
      rfl
  | cons y ys ih =>
      obtain ⟨f, rfl⟩ := Nat.exists_eq_add_one_of_ne_zero (show fuel ≠ 0 by omega)
      have others := ih (fun z hz => h z (List.mem_cons_of_mem _ hz)) f (by
        simp only [itemsTail, List.length_cons, List.length_append] at enough
        omega)
      rw [items?, h x (by simp) f _ (by omega) (ends_itemsTail (y :: ys) rest), itemsTail,
        List.cons_append, List.append_assoc]
      show (items? f _ >>= _) = _
      rw [others]
      rfl

theorem ends_membersTail (ms : List (String × Json)) (rest : List Char) :
    EndsNumeral (membersTail ms ++ '\x7d' :: rest) := by
  cases ms with
  | nil => exact endsNumeral_cons (by decide)
  | cons _ _ => exact endsNumeral_cons (by decide)

theorem name?_quote (s : String) (rest : List Char) :
    name? (quote s.toList ++ ':' :: rest) = some (glyphs s, rest) := by
  rw [quote, List.cons_append, List.append_assoc]
  show (glyphs? (s.toList.flatMap escapeChar ++ '"' :: (':' :: rest)) >>= _) = _
  rw [glyphs?_quote]
  rfl

theorem members?_chars {name : String} {x : Json} {ms : List (String × Json)}
    (h : ∀ m ∈ (name, x) :: ms, ReadsBack m.2) (fuel : Nat) (rest : List Char)
    (enough : x.chars.length + (membersTail ms).length < fuel) :
    members? fuel (quote name.toList ++ ':' :: (x.chars ++ (membersTail ms ++ '\x7d' :: rest))) =
      some ((glyphs name, source x) :: memberSources ms, rest) := by
  induction ms generalizing name x fuel with
  | nil =>
      obtain ⟨f, rfl⟩ := Nat.exists_eq_add_one_of_ne_zero (show fuel ≠ 0 by omega)
      have first : ReadsBack x := h (name, x) (by simp)
      have read := first f _ (by omega) (ends_membersTail [] rest)
      rw [members?, name?_quote]
      simp only [Option.bind_eq_bind, Option.bind_some, read]
      rfl
  | cons m ms ih =>
      obtain ⟨other, y⟩ := m
      obtain ⟨f, rfl⟩ := Nat.exists_eq_add_one_of_ne_zero (show fuel ≠ 0 by omega)
      have first : ReadsBack x := h (name, x) (by simp)
      have read := first f _ (by omega) (ends_membersTail ((other, y) :: ms) rest)
      have others := ih (fun z hz => h z (List.mem_cons_of_mem _ hz)) f (by
        simp only [membersTail, List.length_cons, List.length_append] at enough
        omega)
      rw [members?, name?_quote]
      simp only [Option.bind_eq_bind, Option.bind_some, read]
      rw [membersTail, List.cons_append]
      simp only [List.append_assoc, List.cons_append]
      show (members? f _ >>= _) = _
      rw [others]
      rfl

/-- No value is printed as the empty text, so there is some fuel. -/
theorem ReadsBack.of_succ {x : Json} (h : ∀ fuel rest, x.chars.length ≤ fuel + 1 →
    EndsNumeral rest → value? (fuel + 1) (x.chars ++ rest) = some (source x, rest)) :
    ReadsBack x := by
  intro fuel rest enough hr
  obtain ⟨c, cs, begins, -, -⟩ := chars_cons x
  have some_ : fuel ≠ 0 := by
    rw [begins, List.length_cons] at enough
    omega
  obtain ⟨f, rfl⟩ := Nat.exists_eq_add_one_of_ne_zero some_
  exact h f rest enough hr

theorem value?_open {cs : List Char} (h : (skipBlanks cs).head? ≠ some ']') (fuel : Nat) :
    value? (fuel + 1) ('[' :: cs) =
      (items? fuel cs).map fun found => (array found.1, found.2) := by
  have noBlank : skipBlanks ('[' :: cs) = '[' :: cs := rfl
  simp only [value?, noBlank]
  split
  · rename_i empty
    rw [empty] at h
    exact absurd rfl h
  · rfl

theorem value?_array {x : Json} {xs : List Json} (h : ∀ y ∈ x :: xs, ReadsBack y) {fuel : Nat}
    (enough : (Json.array (x :: xs)).chars.length ≤ fuel + 1) (rest : List Char) :
    value? (fuel + 1) ((Json.array (x :: xs)).chars ++ rest) =
      some (source (.array (x :: xs)), rest) := by
  rw [Json.chars] at enough ⊢
  simp only [List.length_cons, List.length_append] at enough
  have items := items?_chars h fuel rest (by omega)
  rw [List.cons_append, List.append_assoc, List.append_assoc, List.singleton_append]
  have inhabited : (skipBlanks (x.chars ++ (itemsTail xs ++ ']' :: rest))).head? ≠ some ']' := by
    obtain ⟨c, cs, begins, blank, closing⟩ := chars_cons x
    rw [begins, List.cons_append, skipBlanks, List.dropWhile_cons_of_neg (by simp [blank])]
    simpa using closing
  rw [value?_open inhabited, items]
  rfl

theorem value?_object {name : String} {x : Json} {ms : List (String × Json)}
    (h : ∀ m ∈ (name, x) :: ms, ReadsBack m.2) {fuel : Nat}
    (enough : (Json.object ((name, x) :: ms)).chars.length ≤ fuel + 1) (rest : List Char) :
    value? (fuel + 1) ((Json.object ((name, x) :: ms)).chars ++ rest) =
      some (source (.object ((name, x) :: ms)), rest) := by
  rw [Json.chars] at enough ⊢
  simp only [List.length_cons, List.length_append] at enough
  have members := members?_chars h fuel rest (by omega)
  simp only [List.cons_append, List.append_assoc, List.nil_append]
  show (members? fuel _).map _ = _
  rw [members]
  rfl

theorem readsBack (x : Json) : ReadsBack x := by
  induction x using Json.induct with
  | null => exact .of_succ fun _ _ _ _ => rfl
  | bool b =>
      refine .of_succ fun _ _ _ _ => ?_
      cases b <;> rfl
  | number n =>
      refine .of_succ fun f _ _ hr => ?_
      rw [Json.chars, ← chars_numeral]
      exact value?_numeral (wellFormed_numeral n) (plain_numeral n) hr f
  | string s =>
      refine .of_succ fun f rest _ _ => ?_
      rw [Json.chars, quote, List.cons_append, List.append_assoc]
      show (glyphs? (s.toList.flatMap escapeChar ++ '"' :: rest)).map _ = _
      rw [glyphs?_quote]
      rfl
  | array items ih =>
      refine .of_succ fun _ rest enough _ => ?_
      cases items with
      | nil => rfl
      | cons x xs => exact value?_array ih enough rest
  | object members ih =>
      refine .of_succ fun _ rest enough _ => ?_
      cases members with
      | nil => rfl
      | cons m ms => exact value?_object ih enough rest

theorem ofChars?_chars (x : Json) : ofChars? x.chars = some (source x) := by
  have read := readsBack x (x.chars.length + 1) [] (by omega) (by simp [EndsNumeral])
  rw [List.append_nil] at read
  rw [ofChars?, read]
  rfl

end Source

/-! ### Texts -/

theorem readable_of_read? {text : String} {x : Json} (h : read? text = some x) :
    Readable maxDepth x := by
  unfold read? at h
  simp only [Option.bind_eq_bind, Option.bind_eq_some_iff] at h
  obtain ⟨source, -, hx⟩ := h
  exact readable_of_ofSource? source hx

/-- The values that some text means are the readable ones, and the compact text of a value means
it. -/
theorem read?_compact_iff {x : Json} : read? x.compact = some x ↔ Readable maxDepth x := by
  refine ⟨readable_of_read?, fun h => ?_⟩
  rw [read?, compact, String.toList_ofList, Source.ofChars?_chars]
  exact ofSource?_source h

end Json

end PathQuery
