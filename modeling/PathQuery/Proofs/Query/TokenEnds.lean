import PathQuery.Proofs.Query.TokenForms

/-!
Where a token ends. The scanner may look one or two characters further than it takes, but white
space put in anywhere behind a token leaves the token as it is, and so does the end of the text: no
token goes on with a blank, and one that has ended does not go on elsewhere.
-/

namespace PathQuery.Scanner

/-! ### Beginnings that end before a blank -/

/-- White space comes first, if anything comes. -/
def AtBlank (cs : List Char) : Prop :=
  ∀ c ∈ cs.head?, Unicode.isWhiteSpace c

theorem atBlank_of_blank {cs : List Char} (blank : Blank cs) : AtBlank cs :=
  fun c hc => blank c (List.mem_of_mem_head? hc)

/-- When what `g` takes of a text lies in its beginning `v`, and a blank or the end follows there
instead, it takes the same. -/
def EndsAtBlank (g : List Char → List Char) : Prop :=
  ∀ ⦃v x y : List Char⦄, AtBlank y → g (v ++ x) <+: v → g (v ++ y) = g (v ++ x)

/-- What `g` takes, and what `h` takes behind that. -/
def followedBy (g h : List Char → List Char) (cs : List Char) : List Char :=
  g cs ++ h (cs.drop (g cs).length)

theorem isDigit_blank {c : Char} (h : Unicode.isWhiteSpace c) : c.isDigit = false := by
  cases digit : c.isDigit with
  | false => rfl
  | true =>
      have := nonblank_of_isIdentifierChar (isIdentifierChar_of_isDigit digit)
      simp [h] at this

theorem isIdentifierChar_blank {c : Char} (h : Unicode.isWhiteSpace c) :
    isIdentifierChar c = false := by
  cases letter : isIdentifierChar c with
  | false => rfl
  | true =>
      have := nonblank_of_isIdentifierChar letter
      simp [h] at this

theorem ne_of_blank {c d : Char} (h : Unicode.isWhiteSpace c)
    (hd : Unicode.isWhiteSpace d = false) : c ≠ d := by
  rintro rfl
  simp [h] at hd

/-- What white space has not, what comes first there has not. -/
theorem AtBlank.any_head {y : List Char} (hy : AtBlank y) {p : Char → Bool}
    (hp : ∀ c, Unicode.isWhiteSpace c → p c = false) : y.head?.any p = false := by
  cases y with
  | nil => rfl
  | cons c y => exact hp c (hy c rfl)

theorem endsAtBlank_takeWhile {p : Char → Bool} (hp : ∀ c, Unicode.isWhiteSpace c → p c = false) :
    EndsAtBlank (List.takeWhile p) := by
  intro v x y hy taken
  induction v with
  | nil =>
      rw [List.nil_append, List.nil_append] at *
      rw [List.prefix_nil.1 taken]
      have first := hy.any_head hp
      cases y with
      | nil => rfl
      | cons c y => exact List.takeWhile_cons_of_neg (by simpa using first)
  | cons d v ih =>
      simp only [List.cons_append, List.takeWhile_cons] at taken ⊢
      split
      · rename_i hd
        rw [hd] at taken
        rw [ih (List.cons_prefix_cons.1 taken).2]
      · rfl

theorem endsAtBlank_followedBy {g h : List Char → List Char} (hg : EndsAtBlank g)
    (hh : EndsAtBlank h) : EndsAtBlank (followedBy g h) := by
  intro v x y hy taken
  have first : g (v ++ x) <+: v := (List.prefix_append _ _).trans taken
  have same := hg hy first
  unfold followedBy at taken ⊢
  rw [same]
  generalize g (v ++ x) = k at *
  obtain ⟨w, rfl⟩ := first
  rw [List.append_assoc, List.drop_left] at taken ⊢
  rw [List.append_assoc, List.drop_left, hh hy ((List.prefix_append_right_inj k).1 taken)]

/-- A character of one kind, when there is one. -/
def optional (p : Char → Bool) (cs : List Char) : List Char :=
  if cs.head?.any p then cs.take 1 else []

theorem endsAtBlank_optional {p : Char → Bool} (hp : ∀ c, Unicode.isWhiteSpace c → p c = false) :
    EndsAtBlank (optional p) := by
  intro v x y hy taken
  cases v with
  | nil =>
      rw [List.nil_append, List.nil_append] at *
      rw [List.prefix_nil.1 taken, optional, hy.any_head hp]
      rfl
  | cons d v => rfl

theorem fraction_point (cs : List Char) :
    fraction ('.' :: cs) =
      if (cs.takeWhile Char.isDigit).isEmpty then [] else '.' :: cs.takeWhile Char.isDigit := by
  cases cs with
  | nil => rfl
  | cons d cs =>
      unfold fraction
      cases digit : d.isDigit <;> simp [digit]

theorem fraction_other {c : Char} (h : c ≠ '.') (cs : List Char) : fraction (c :: cs) = [] := by
  unfold fraction
  split
  · rename_i he
    cases he
    exact absurd rfl h
  · rfl

/-- Digits that are taken if there are any. -/
theorem digits_within {k ds w : List Char}
    (h : (if ds.isEmpty then [] else k ++ ds) <+: k ++ w) : ds <+: w := by
  cases ds with
  | nil => exact List.nil_prefix
  | cons d ds => exact (List.prefix_append_right_inj k).1 h

theorem endsAtBlank_fraction : EndsAtBlank fraction := by
  intro v x y hy taken
  cases v with
  | nil =>
      rw [List.nil_append, List.nil_append] at *
      rw [List.prefix_nil.1 taken]
      cases y with
      | nil => rfl
      | cons c y => exact fraction_other (ne_of_blank (hy c rfl) (by decide)) y
  | cons d w =>
      rw [List.cons_append, List.cons_append] at *
      by_cases hd : d = '.'
      · subst hd
        rw [fraction_point] at taken ⊢
        have digits := digits_within (k := ['.']) taken
        rw [endsAtBlank_takeWhile (fun _ => isDigit_blank) hy digits, fraction_point]
      · rw [fraction_other hd, fraction_other hd]

theorem exponent_short {cs : List Char} (h : (exponent cs).length < 2) : exponent cs = [] := by
  unfold exponent at h ⊢
  split
  · dsimp only at h ⊢
    split_ifs at h ⊢ <;> simp_all
  · rfl

theorem endsAtBlank_exponent : EndsAtBlank exponent := by
  intro v x y hy taken
  have digits (w : List Char) (h : List.takeWhile Char.isDigit (w ++ x) <+: w) :=
    endsAtBlank_takeWhile (fun _ => isDigit_blank) hy h
  match v with
  | [] =>
      rw [List.nil_append, List.nil_append] at *
      rw [List.prefix_nil.1 taken]
      match y with
      | [] | [_] => rfl
      | c :: d :: y =>
          have blank := hy c rfl
          have small := ne_of_blank blank (show Unicode.isWhiteSpace 'e' = false by decide)
          have large := ne_of_blank blank (show Unicode.isWhiteSpace 'E' = false by decide)
          simp [exponent, small, large]
  | [e] =>
      have none : exponent ([e] ++ x) = [] :=
        exponent_short (Nat.lt_succ_of_le taken.length_le)
      rw [none]
      cases y with
      | nil => rfl
      | cons c y =>
          have blank := hy c rfl
          have plus := ne_of_blank blank (show Unicode.isWhiteSpace '+' = false by decide)
          have minus := ne_of_blank blank (show Unicode.isWhiteSpace '-' = false by decide)
          simp [exponent, plus, minus, isDigit_blank blank]
  | e :: s :: w =>
      simp only [List.cons_append, exponent] at taken ⊢
      by_cases mark : (e = 'e' || e = 'E') = true
      · rw [if_pos mark] at taken
        rw [if_pos mark, if_pos mark]
        by_cases sign : (s = '+' || s = '-') = true
        · rw [if_pos sign] at taken
          rw [if_pos sign, if_pos sign, digits w (digits_within (k := [e, s]) taken)]
        · rw [if_neg sign] at taken
          have same := digits (s :: w) (digits_within (k := [e]) taken)
          simp only [List.cons_append] at same
          rw [if_neg sign, if_neg sign, same]
      · rw [if_neg mark, if_neg mark]

theorem numeral_eq (cs : List Char) : numeral cs =
    followedBy (optional (· = '-'))
      (followedBy (List.takeWhile Char.isDigit) (followedBy fraction exponent)) cs := by
  have sign : (if cs.head? = some '-' then ['-'] else []) = optional (· = '-') cs := by
    cases cs with
    | nil => rfl
    | cons c cs =>
        by_cases hc : c = '-' <;> simp [optional, hc]
  simp [numeral, followedBy, sign]

theorem endsAtBlank_numeral : EndsAtBlank numeral := by
  rw [funext numeral_eq]
  refine endsAtBlank_followedBy (endsAtBlank_optional fun c hc => ?_) (endsAtBlank_followedBy
    (endsAtBlank_takeWhile fun _ => isDigit_blank)
    (endsAtBlank_followedBy endsAtBlank_fraction endsAtBlank_exponent))
  simpa using ne_of_blank hc (by decide)

/-! ### Tokens -/

variable {dot : Bool} {w x y : List Char} {c : Char} {offset offset' : Nat} {t : Token}

/-- What is taken of a text, when the scanner is at `rest` behind it. -/
theorem take_span (span : List Char) {kind : Token.Kind} {taken rest : List Char}
    (h : take kind taken ⟨span ++ rest, offset⟩ = (.ok t, ⟨rest, offset'⟩))
    (begins : taken <+: span ++ rest) :
    taken = span ∧ ∀ rest', take kind span ⟨span ++ rest', offset⟩ = (.ok t, ⟨rest', offset'⟩) := by
  simp only [take, skip, Prod.mk.injEq, Except.ok.injEq, Place.mk.injEq] at h
  obtain ⟨rfl, behind, rfl⟩ := h
  obtain rfl : taken = span := by
    obtain ⟨rest', split⟩ := begins
    rw [← split, List.drop_left] at behind
    rw [behind] at split
    exact List.append_cancel_right split
  exact ⟨rfl, fun rest' => take_append kind taken rest' offset⟩

theorem no_backslash {rest : List Char} (alone : c = '\\' → rest = [] → False)
    (escape : ∀ e rest', c = '\\' → rest = e :: rest' → False) : c ≠ '\\' := by
  intro hc
  cases rest with
  | nil => exact alone hc rfl
  | cons e rest => exact escape e rest hc rfl

theorem stringBody_plain (h : c ≠ '\\') (quote : Char) (start : Nat) (rest : List Char)
    (offset : Nat) : stringBody quote start (c :: rest) offset =
      if c = quote then (.ok [], ⟨rest, offset + c.utf8Size⟩)
      else (stringBody quote start rest (offset + c.utf8Size)).cons c := by
  rw [stringBody]
  all_goals intros; contradiction

theorem stringBody_behind {quote : Char} {start offset : Nat} {cs text : List Char} {q : Place}
    (h : stringBody quote start cs offset = (.ok text, q)) :
    ∃ body, cs = body ++ q.rest ∧ ∀ rest,
      stringBody quote start (body ++ rest) offset = (.ok text, ⟨rest, q.offset⟩) := by
  fun_induction stringBody quote start cs offset generalizing text with
  | case1 | case2 | case4 | case5 | case7 => cases h
  | case3 a b c d rest offset x hx ih =>
      obtain ⟨behind, read⟩ := StringScan.eq_ok_of_cons h
      obtain ⟨body, split, same⟩ := ih read
      rw [read] at h
      cases h
      refine ⟨'\\' :: 'u' :: a :: b :: c :: d :: body, by rw [split]; rfl, fun rest' => ?_⟩
      simp only [List.cons_append, stringBody, hx, same]
      rfl
  | case6 e rest offset noCode noEscape x hx ih =>
      obtain ⟨behind, read⟩ := StringScan.eq_ok_of_cons h
      obtain ⟨body, split, same⟩ := ih read
      rw [read] at h
      cases h
      refine ⟨'\\' :: e :: body, by rw [split]; rfl, fun rest' => ?_⟩
      rw [List.cons_append, List.cons_append, stringBody, hx, same]
      · rfl
      · exact fun _ _ _ _ _ he _ => noEscape he
      · exact noEscape
  | case8 rest offset alone _ _ escape =>
      cases h
      refine ⟨[quote], rfl, fun rest' => ?_⟩
      rw [List.singleton_append, stringBody_plain (no_backslash alone escape), if_pos rfl]
  | case9 c rest offset alone _ _ escape other ih =>
      obtain ⟨behind, read⟩ := StringScan.eq_ok_of_cons h
      obtain ⟨body, split, same⟩ := ih read
      rw [read] at h
      cases h
      refine ⟨c :: body, by rw [split]; rfl, fun rest' => ?_⟩
      rw [List.cons_append, stringBody_plain (no_backslash alone escape), if_neg other, same]
      rfl

theorem operator?_blank {a : Char} {next : Option Char} {kind : Token.Kind}
    (h : operator? a next = some (.ok (kind, [a]))) (hy : AtBlank y) :
    operator? a y.head? = some (.ok (kind, [a])) := by
  have equals : y.head? ≠ some '=' := fun first => by
    have blank := hy '=' first
    cases blank
  unfold operator? at h ⊢
  split at h <;> (try split at h) <;> cases h <;> simp [equals]

/-- A letter, a digit or an underscore, which no numeral may run into. -/
def runsOn (rest : List Char) : Bool :=
  rest.head?.any fun c => Unicode.isAlphanumeric c || c = '_'

theorem scanNumber_eq_take {span rest : List Char} (h : numeral (span ++ rest) = span)
    (ends : runsOn rest = false) (offset : Nat) :
    scanNumber ⟨span ++ rest, offset⟩ = take .number span ⟨span ++ rest, offset⟩ := by
  unfold scanNumber
  dsimp only
  rw [h, skip, List.drop_left]
  exact if_neg (by simpa [runsOn] using ends)

theorem scanNumber_span (span : List Char) {rest : List Char}
    (h : scanNumber ⟨span ++ rest, offset⟩ = (.ok t, ⟨rest, offset'⟩)) :
    numeral (span ++ rest) = span ∧ runsOn rest = false ∧
      ∀ rest', take .number span ⟨span ++ rest', offset⟩ = (.ok t, ⟨rest', offset'⟩) := by
  unfold scanNumber at h
  dsimp only at h
  split at h
  · cases h
  · rename_i ends
    obtain ⟨taken, same⟩ := take_span span h (numeral_begins _)
    rw [taken, skip, List.drop_left] at ends
    exact ⟨taken, by simpa [runsOn] using ends, same⟩

theorem runsOn_blank (hy : AtBlank y) (h : runsOn (w ++ x) = false) :
    runsOn (w ++ y) = false := by
  cases w with
  | cons d w => exact h
  | nil =>
      refine hy.any_head fun c hc => ?_
      have ends := isIdentifierChar_blank hc
      simp only [isIdentifierChar, Bool.or_eq_false_iff] at ends
      simp [ends]

theorem numeral_minus {rest : List Char} (h : rest.head?.any Char.isDigit) :
    numeral ('-' :: rest) ≠ ['-'] := by
  cases rest with
  | nil => cases h
  | cons d rest =>
      have digit : d.isDigit := h
      simp [numeral, digit]

/-- A token stays as it is when a blank is put in behind it, whatever follows the blank, and when
the text ends there. -/
theorem scan_before_blank (hy : AtBlank y) {span : List Char} (some : span ≠ [])
    (h : scan dot ⟨span ++ (w ++ x), offset⟩ = (.ok t, ⟨w ++ x, offset'⟩)) :
    scan dot ⟨span ++ (w ++ y), offset⟩ = (.ok t, ⟨w ++ y, offset'⟩) := by
  obtain ⟨a, u, rfl⟩ := List.exists_cons_of_ne_nil some
  rw [List.cons_append] at h ⊢
  obtain ⟨read, form, run⟩ := form_of_scan h
  -- what is taken lies in the span, and so in what the two texts begin with alike
  have alike {g : List Char → List Char} (hg : EndsAtBlank g)
      (taken : g (a :: (u ++ (w ++ x))) = a :: u) : g (a :: (u ++ (w ++ y))) = a :: u := by
    rw [← List.cons_append, ← List.append_assoc] at taken ⊢
    have within : g (a :: u ++ w ++ x) <+: a :: u ++ w := by
      rw [taken]
      exact List.prefix_append _ _
    rw [hg hy within, taken]
  have name := alike (endsAtBlank_takeWhile fun _ => isIdentifierChar_blank)
  cases form with
  | sign hs =>
      obtain ⟨one, same⟩ := take_span (a :: u) run (by simp)
      cases one
      rw [(Form.sign hs).scan_eq]
      exact same _
  | operator ho =>
      obtain ⟨rfl, same⟩ := take_span (a :: u) run (operator_begins ho)
      have ahead : operator? a (u ++ (w ++ y)).head? = operator? a (u ++ (w ++ x)).head? := by
        cases u with
        | cons b u => rfl
        | nil =>
            cases w with
            | cons b w => rfl
            | nil => exact (operator?_blank ho hy).trans ho.symm
      rw [(Form.operator (ahead.trans ho)).scan_eq]
      exact same _
  | string hq =>
      rw [(Form.string hq).scan_eq]
      unfold scanString at run ⊢
      dsimp only at run ⊢
      split at run
      · rename_i text q body
        cases run
        obtain ⟨taken, split, same⟩ := stringBody_behind body
        obtain rfl := List.append_cancel_right split
        rw [same]
      · cases run
  | key behind ha =>
      obtain ⟨taken, same⟩ := take_span (a :: u) run (List.takeWhile_prefix _)
      rw [(Form.key behind ha).scan_eq, name taken]
      exact same _
  | number behind ha =>
      obtain ⟨taken, ends, same⟩ := scanNumber_span (a :: u) run
      have digits : a.isDigit ∨ (a = '-' ∧ (u ++ (w ++ y)).head?.any Char.isDigit) := by
        refine ha.imp_right fun ⟨minus, digit⟩ => ⟨minus, ?_⟩
        cases u with
        | cons d u => exact digit
        | nil =>
            subst minus
            exact absurd taken (numeral_minus digit)
      rw [(Form.number behind digits).scan_eq]
      have numeral_alike : numeral (a :: u ++ (w ++ y)) = a :: u :=
        alike endsAtBlank_numeral taken
      exact (scanNumber_eq_take numeral_alike (runsOn_blank hy ends) offset).trans (same _)
  | word ha =>
      obtain ⟨taken, same⟩ := take_span (a :: u) run (List.takeWhile_prefix _)
      rw [(Form.word ha).scan_eq, name taken]
      rw [taken] at same
      exact same _

end PathQuery.Scanner
