import PathQuery.Proofs.Query.Grammar

/-!
The parser finds every derivation. A phrase in front of a token that ends it is read whole, with its
tree as the answer, and what stands behind it is left.

Which tokens end a phrase is a matter of rank: a condition joined by `||` goes on to a comma, a
closing parenthesis or the end, and a token of higher rank ends only the phrases that bind tighter.
-/

namespace PathQuery.Grammar

open PathQuery.Parser

variable {s : TokenStream} {fuel : Nat} {ts us : List Token}

/-! ### What a phrase ends before -/

/-- How tight a phrase must bind to end before a token of this kind: anything ends at rank zero, a
conjunction at one, a comparison at two, an operand at three. -/
def rank : Token.Kind → Nat
  | .comma | .closeParen | .finish => 0
  | .or => 1
  | .and => 2
  | .comparator _ => 3
  | _ => 4

theorem head_of_begins (hb : beginsStep us) (s : TokenStream) :
    startsStep (s.prepend us).head.kind ∨ (s.prepend us).omissionAhead := by
  obtain ⟨t, u, vs, rfl⟩ := beginsStep_cons hb
  simpa [beginsStep, TokenStream.omissionAhead] using hb

/-- Behind a name, steps do not look like the arguments of a call. -/
theorem Derives.head_steps {steps : List Step} (h : Derives .steps us steps)
    (hs : s.head.kind ≠ .openParen) : (s.prepend us).head.kind ≠ .openParen := by
  rcases h.begins_steps with ⟨rfl, -⟩ | ⟨hb, -⟩
  · exact hs
  · rcases head_of_begins hb s with hk | hk
    · intro hp
      simp [hp, startsStep] at hk
    · simp [TokenStream.head_of_omissionAhead hk]

/-- An operand begins with nothing that a condition or the end of a call begins with. -/
theorem head_of_beginsOperand (hb : beginsOperand us) (s : TokenStream) :
    (s.prepend us).head.kind ≠ .openParen ∧ (s.prepend us).head.kind ≠ .closeParen ∧
      (s.prepend us).negationAhead = false := by
  simp only [beginsOperand, Bool.or_eq_true] at hb
  rcases hb with hb | hb
  · rcases head_of_begins hb s with hk | hk
    · refine ⟨?_, ?_, ?_⟩
      · intro hp
        simp [hp, startsStep] at hk
      · intro hp
        simp [hp, startsStep] at hk
      · cases hh : (s.prepend us).head.kind <;>
          simp [hh, startsStep, TokenStream.negationAhead] at hk ⊢
    · simp [TokenStream.head_of_omissionAhead hk, TokenStream.negationAhead, hk]
  · cases us with
    | nil => cases hb
    | cons t us =>
        simp only [List.head?_cons, Option.any_some, Bool.or_eq_true, beq_iff_eq] at hb
        rcases hb with (((hk | hk) | hk) | hk) | hk <;> simp [hk, TokenStream.negationAhead]

theorem head_of_opensCondition (ho : opensCondition us) (s : TokenStream) :
    (s.prepend us).head.kind = .openParen ∨ (s.prepend us).negationAhead := by
  match us, ho with
  | t :: u :: us, ho =>
      simp only [opensCondition, Bool.or_eq_true, beq_iff_eq, Bool.and_eq_true, bne_iff_ne] at ho
      rcases ho with hk | ⟨hk, hn⟩
      · exact .inl hk
      · simp [hk, hn, TokenStream.negationAhead, TokenStream.omissionAhead]

theorem Derives.rank_conjuncts {left node : Node} (h : Derives (.conjuncts left) us node)
    (hs : rank s.head.kind ≤ 1) : rank (s.prepend us).head.kind ≤ 2 := by
  cases h with
  | noConjuncts => exact Nat.le_succ_of_le hs
  | moreConjuncts ht _ _ => simp [ht, rank]

theorem Derives.rank_disjuncts {left node : Node} (h : Derives (.disjuncts left) us node)
    (hs : rank s.head.kind ≤ 0) : rank (s.prepend us).head.kind ≤ 1 := by
  cases h with
  | noDisjuncts => exact Nat.le_succ_of_le hs
  | moreDisjuncts ht _ _ => simp [ht, rank]

/-! ### Brackets and key groups -/

theorem groupKeys_complete {keys : List String} (h : Keys isKey ts keys)
    (hs : s.head.kind ≠ .comma) (hf : ts.length ≤ fuel) :
    groupKeys fuel (s.prepend ts) = .ok keys s := by
  induction h generalizing fuel with
  | @one t ht =>
      obtain ⟨fuel, rfl⟩ : ∃ n, fuel = n + 1 := ⟨fuel - 1, by simp at hf; omega⟩
      have hk : t.kind = .property ∨ t.kind = .string := by simpa [isKey] using ht
      rcases hk with hk | hk <;> simp [groupKeys, hk, hs]
  | @more t comma ts keys ht hc _ ih =>
      obtain ⟨fuel, rfl⟩ : ∃ n, fuel = n + 1 := ⟨fuel - 1, by simp at hf; omega⟩
      have hk : t.kind = .property ∨ t.kind = .string := by simpa [isKey] using ht
      have rest : groupKeys fuel (s.prepend ts) = .ok keys s := ih (by simp at hf; omega)
      rcases hk with hk | hk <;> simp [groupKeys, hk, hc, rest]

theorem head_keys {admits : Token → Bool} {keys : List String} (h : Keys admits ts keys)
    (s : TokenStream) : admits (s.prepend ts).head := by
  cases h <;> assumption

theorem keyGroup_complete {keys : List String} (h : Group ts keys) (s : TokenStream) :
    keyGroup (s.prepend ts) = .ok keys s := by
  cases h with
  | @mk opening closing ts keys ho hk hc =>
      have read : groupKeys ((s.prepend (ts ++ [closing])).rest.length + 1)
          ((s.prepend [closing]).prepend ts) = .ok keys (s.prepend [closing]) :=
        groupKeys_complete hk (by simp [hc]) (by simp [TokenStream.length_rest_prepend]; omega)
      have first : ((s.prepend [closing]).prepend ts).head.kind ≠ .closeBrace := by
        intro hb
        have := head_keys hk (s.prepend [closing])
        simp [isKey, hb] at this
      simp only [TokenStream.prepend_append] at read
      simp [keyGroup, ho, hc, first, read]

theorem quotedKeys_none (hs : s.head.kind ≠ .comma) (fuel : Nat) :
    quotedKeys fuel s = .ok [] s := by
  cases fuel <;> simp [quotedKeys, hs]

theorem quotedKeys_complete {comma : Token} {keys : List String} (hc : comma.kind = .comma)
    (h : Keys (fun t => t.kind == .string) ts keys) (hs : s.head.kind ≠ .comma)
    (hf : ts.length < fuel) : quotedKeys fuel (s.prepend (comma :: ts)) = .ok keys s := by
  induction h generalizing fuel comma with
  | @one t ht =>
      obtain ⟨fuel, rfl⟩ : ∃ n, fuel = n + 1 := ⟨fuel - 1, by simp at hf; omega⟩
      have hk : t.kind = .string := by simpa using ht
      simp [quotedKeys, hc, hk, quotedKeys_none hs]
  | @more t comma' ts keys ht hc' _ ih =>
      obtain ⟨fuel, rfl⟩ : ∃ n, fuel = n + 1 := ⟨fuel - 1, by simp at hf; omega⟩
      have hk : t.kind = .string := by simpa using ht
      have rest : quotedKeys fuel (s.prepend (comma' :: ts)) = .ok keys s :=
        ih hc' (by simp at hf; omega)
      simp [quotedKeys, hc, hk, rest]

theorem integer?_complete {i : Option Int} (h : Bound ts i) (hs : s.head.kind ≠ .number) :
    integer? (s.prepend ts) = .ok i s := by
  cases h with
  | none => simp [integer?, hs]
  | some ht hi => simp [integer?, ht, hi]

theorem sliceStep_complete {i : Option Int} (h : SliceStep ts i)
    (hs : s.head.kind = .closeBracket) : sliceStep (s.prepend ts) = .ok i s := by
  cases h with
  | none => simp [sliceStep, hs]
  | @some colon ts _ hc hb hz =>
      have read : integer? (s.prepend ts) = .ok i s := integer?_complete hb (by simp [hs])
      simp [sliceStep, hc, read, hz]

theorem indexOrSlice_slice {colon closing : Token} {vs : List Token} {start stop step : Option Int}
    (ha : Bound ts start) (hc : colon.kind = .colon) (hb : Bound us stop) (hd : SliceStep vs step)
    (hl : closing.kind = .closeBracket) (s : TokenStream) :
    indexOrSlice (s.prepend (ts ++ colon :: (us ++ vs) ++ [closing])) =
      .ok (.slice ⟨start, stop, step⟩) s := by
  have first : integer? ((s.prepend (colon :: (us ++ vs) ++ [closing])).prepend ts) =
      .ok start (s.prepend (colon :: (us ++ vs) ++ [closing])) :=
    integer?_complete ha (by simp [hc])
  have second : integer? ((s.prepend (vs ++ [closing])).prepend us) =
      .ok stop (s.prepend (vs ++ [closing])) := by
    refine integer?_complete hb ?_
    cases hd with
    | none => simp [hl]
    | some hk _ _ => simp [hk]
  have third : sliceStep ((s.prepend [closing]).prepend vs) = .ok step (s.prepend [closing]) :=
    sliceStep_complete hd hl
  simp only [List.append_assoc, List.cons_append, TokenStream.prepend_append] at *
  simp [indexOrSlice, first, hc, second, third, hl]

theorem bracket_complete {opening closing : Token} {node : Node} (ho : opening.kind = .openBracket)
    (h : Inner ts node) (hl : closing.kind = .closeBracket) (s : TokenStream) :
    bracket (s.prepend (opening :: (ts ++ [closing]))) = .ok node s := by
  cases h with
  | star ht => simp [bracket, ho, ht, hl]
  | key ht => simp [bracket, ho, ht, hl, quotedKeys_none]
  | @keys t comma ts keys ht hc hk =>
      have read : quotedKeys ((s.prepend (comma :: ts ++ [closing])).rest.length)
          ((s.prepend [closing]).prepend (comma :: ts)) = .ok keys (s.prepend [closing]) :=
        quotedKeys_complete hc hk (by simp [hl]) (by simp [TokenStream.length_rest_prepend]; omega)
      have several : keys ≠ [] := by cases hk <;> simp
      rw [← TokenStream.prepend_append, List.cons_append] at read
      simp [bracket, ho, ht, read, hl, several]
  | index ht hi => simp [bracket, indexOrSlice, integer?, ho, ht, hl, hi]
  | @slice colon ts us vs start stop step ha hc hb hd =>
      have read := indexOrSlice_slice ha hc hb hd hl s
      -- the bracket is known for a slice by its first bound, or else by its colon
      have first : (s.prepend (ts ++ colon :: (us ++ vs) ++ [closing])).head.kind = .number ∨
          (s.prepend (ts ++ colon :: (us ++ vs) ++ [closing])).head.kind = .colon := by
        cases ha with
        | none => exact .inr hc
        | some ht _ => exact .inl ht
      have inner : bracket (s.prepend (opening :: (ts ++ colon :: (us ++ vs) ++ [closing]))) =
          indexOrSlice (s.prepend (ts ++ colon :: (us ++ vs) ++ [closing])) := by
        simp only [bracket, bind_run, expect_run, TokenStream.head_prepend_cons, ho, if_true,
          TokenStream.tail_prepend_cons, peek_run]
        rcases first with hk | hk <;> rw [hk]
      rw [inner, read]

/-! ### Phrases -/

/-- The production of a phrase reads `ts` whole, with the tree `r`, in front of any token that ends
the phrase and with fuel in proportion to the tokens. Steps are read one by one, arguments together
with the closing parenthesis. -/
def Accepts : (x : Symbol) → List Token → x.Result → Prop
  | .steps, ts, r => ∀ (s : TokenStream) (fuel : Nat), rank s.head.kind ≤ 3 →
      8 * ts.length + 1 ≤ fuel → steps fuel (s.prepend ts) = .ok r s
  | .step, ts, r => ∀ (s : TokenStream) (fuel : Nat), s.head.kind ≠ .openParen →
      8 * ts.length ≤ fuel → steps (fuel + 1) (s.prepend ts) = ((r :: ·) <$> steps fuel) s
  | .named, ts, r => ∀ (s : TokenStream) (fuel : Nat), s.head.kind ≠ .openParen →
      8 * ts.length ≤ fuel → namedStep fuel (s.prepend ts) = .ok r s
  | .arguments, ts, r => ∀ (s : TokenStream) (fuel : Nat) (closing : Token),
      closing.kind = .closeParen → 8 * ts.length + 5 ≤ fuel →
        arguments fuel ((s.prepend [closing]).prepend ts) = .ok r s
  | .argument, ts, r => ∀ (s : TokenStream) (fuel : Nat), rank s.head.kind ≤ 0 →
      8 * ts.length + 4 ≤ fuel → argument fuel (s.prepend ts) = .ok r s
  | .operand, ts, r => ∀ (s : TokenStream) (fuel : Nat), rank s.head.kind ≤ 3 →
      8 * ts.length + 2 ≤ fuel → operand fuel (s.prepend ts) = .ok r s
  | .compared left, ts, r => ∀ (s : TokenStream) (fuel : Nat), rank s.head.kind ≤ 2 →
      8 * ts.length ≤ fuel → comparison fuel left (s.prepend ts) = .ok r s
  | .unary, ts, r => ∀ (s : TokenStream) (fuel : Nat), rank s.head.kind ≤ 2 →
      8 * ts.length + 1 ≤ fuel → unary fuel none (s.prepend ts) = .ok r s
  | .conjunction, ts, r => ∀ (s : TokenStream) (fuel : Nat), rank s.head.kind ≤ 1 →
      8 * ts.length + 2 ≤ fuel → conjunction fuel none (s.prepend ts) = .ok r s
  | .conjuncts left, ts, r => ∀ (s : TokenStream) (fuel : Nat), rank s.head.kind ≤ 1 →
      8 * ts.length + 1 ≤ fuel → conjuncts fuel left (s.prepend ts) = .ok r s
  | .disjunction, ts, r => ∀ (s : TokenStream) (fuel : Nat), rank s.head.kind ≤ 0 →
      8 * ts.length + 3 ≤ fuel → disjunction fuel none (s.prepend ts) = .ok r s
  | .disjuncts left, ts, r => ∀ (s : TokenStream) (fuel : Nat), rank s.head.kind ≤ 0 →
      8 * ts.length + 1 ≤ fuel → disjuncts fuel left (s.prepend ts) = .ok r s
  | .continued left, ts, r => ∀ (s : TokenStream) (fuel : Nat), rank s.head.kind ≤ 0 →
      8 * ts.length + 3 ≤ fuel → disjunction fuel (some left) (s.prepend ts) = .ok r s

theorem steps_none (hr : rank s.head.kind ≤ 3) (fuel : Nat) : steps (fuel + 1) s = .ok [] s := by
  unfold steps
  cases hk : s.head.kind <;> simp [hk, rank] at hr ⊢

theorem accepts_moreSteps {step : Step} {rest : List Step} (hd : Derives .step ts step)
    (hs : Derives .steps us rest) (first : Accepts .step ts step)
    (others : Accepts .steps us rest) : Accepts .steps (ts ++ us) (step :: rest) := by
  intro s fuel hr hf
  -- the step takes a token, so that its own fuel is left for the others
  have some : 1 ≤ ts.length := by
    obtain ⟨t, u, vs, rfl⟩ := beginsStep_cons hd.begins_step
    simp
  rw [List.length_append] at hf
  obtain ⟨fuel, rfl⟩ := Nat.exists_eq_add_of_le' (show 1 ≤ fuel by omega)
  have head : (s.prepend us).head.kind ≠ .openParen := by
    refine hs.head_steps ?_
    intro hp
    simp [hp, rank] at hr
  rw [TokenStream.prepend_append, first (s.prepend us) fuel head (by omega), map_run,
    others s fuel hr (by omega)]

theorem accepts_dotName {dot : Token} {step : Step} (hd : dot.kind = .dot)
    (hn : Derives .named ts step) (name : Accepts .named ts step) :
    Accepts .step (dot :: ts) step := by
  intro s fuel hs hf
  obtain ⟨t, us, rfl, ht⟩ := hn.begins_named
  simp only [List.length_cons] at hf
  obtain ⟨fuel, rfl⟩ := Nat.exists_eq_add_of_le' (show 1 ≤ fuel by omega)
  have read := name s fuel hs (by simp only [List.length_cons]; omega)
  simp [steps, afterDot, hd, ht, read]

theorem accepts_dotGroup {dot : Token} {keys : List String} (hd : dot.kind = .dot)
    (hg : Group ts keys) : Accepts .step (dot :: ts) ⟨.multiKey keys, dot.position⟩ := by
  intro s fuel hs hf
  obtain ⟨t, u, us, rfl, ht⟩ := hg.begins
  simp only [List.length_cons] at hf
  obtain ⟨fuel, rfl⟩ := Nat.exists_eq_add_of_le' (show 1 ≤ fuel by omega)
  simp [steps, afterDot, hd, ht, keyGroup_complete hg s]

theorem accepts_dotOmission {dot bang : Token} {keys : List String} (hd : dot.kind = .dot)
    (hb : bang.kind = .bang) (hg : Group ts keys) :
    Accepts .step (dot :: bang :: ts) ⟨.omission keys, dot.position⟩ := by
  intro s fuel hs hf
  obtain ⟨t, u, us, rfl, ht⟩ := hg.begins
  simp only [List.length_cons] at hf
  obtain ⟨fuel, rfl⟩ := Nat.exists_eq_add_of_le' (show 1 ≤ fuel by omega)
  simp [steps, afterDot, omissionGroup, hd, hb, ht, TokenStream.omissionAhead,
    keyGroup_complete hg s]

theorem accepts_omission {bang : Token} {keys : List String} (hb : bang.kind = .bang)
    (hg : Group ts keys) : Accepts .step (bang :: ts) ⟨.omission keys, bang.position⟩ := by
  intro s fuel hs hf
  obtain ⟨t, u, us, rfl, ht⟩ := hg.begins
  simp [steps, omissionGroup, hb, ht, TokenStream.omissionAhead, keyGroup_complete hg s]

theorem accepts_group {opening : Token} {keys : List String} (hg : Group (opening :: ts) keys) :
    Accepts .step (opening :: ts) ⟨.multiKey keys, opening.position⟩ := by
  intro s fuel hs hf
  obtain ⟨t, u, us, he, ht⟩ := hg.begins
  cases he
  simp [steps, ht, keyGroup_complete hg s]

theorem accepts_dotString {dot t : Token} (hd : dot.kind = .dot) (ht : t.kind = .string) :
    Accepts .step [dot, t] ⟨.property t.text, dot.position⟩ := by
  intro s fuel hs hf
  obtain ⟨fuel, rfl⟩ := Nat.exists_eq_add_of_le' (show 1 ≤ fuel by simp at hf; omega)
  simp [steps, afterDot, hd, ht]

theorem accepts_dotStar {dot star : Token} (hd : dot.kind = .dot) (ht : star.kind = .star) :
    Accepts .step [dot, star] ⟨.wildcard, dot.position⟩ := by
  intro s fuel hs hf
  obtain ⟨fuel, rfl⟩ := Nat.exists_eq_add_of_le' (show 1 ≤ fuel by simp at hf; omega)
  simp [steps, afterDot, hd, ht]

theorem accepts_bracket {opening closing : Token} {node : Node} (ho : opening.kind = .openBracket)
    (hi : Inner ts node) (hl : closing.kind = .closeBracket) :
    Accepts .step (opening :: (ts ++ [closing])) ⟨node, opening.position⟩ := by
  intro s fuel hs hf
  have read := bracket_complete ho hi hl s
  rw [steps]
  simp [ho, read]

theorem accepts_name {t : Token} : Accepts .named [t] ⟨.property t.text, t.position⟩ := by
  intro s fuel hs hf
  obtain ⟨fuel, rfl⟩ := Nat.exists_eq_add_of_le' (show 1 ≤ fuel by simp at hf; omega)
  simp [namedStep, hs]

theorem accepts_emptyCall {t opening closing : Token} (ho : opening.kind = .openParen)
    (hc : closing.kind = .closeParen) :
    Accepts .named [t, opening, closing] ⟨.call t.text [], t.position⟩ := by
  intro s fuel hs hf
  obtain ⟨fuel, rfl⟩ := Nat.exists_eq_add_of_le' (show 1 ≤ fuel by simp at hf; omega)
  simp [namedStep, ho, hc]

theorem Derives.head_argument {node : Node} (h : Derives .argument us node) (s : TokenStream) :
    (s.prepend us).head.kind ≠ .closeParen := by
  cases h with
  | operandArgument ho => exact (head_of_beginsOperand ho.begins_operand s).2.1
  | @comparedArgument ts us _ _ ho _ =>
      rw [TokenStream.prepend_append]
      exact (head_of_beginsOperand ho.begins_operand _).2.1
  | conditionArgument ho _ =>
      rcases head_of_opensCondition ho s with hk | hk
      · simp [hk]
      · simp [TokenStream.head_of_negationAhead hk]

theorem Derives.head_arguments {args : List Node} (h : Derives .arguments us args)
    (s : TokenStream) : (s.prepend us).head.kind ≠ .closeParen := by
  cases h with
  | oneArgument h => exact h.head_argument s
  | moreArguments h _ _ =>
      rw [TokenStream.prepend_append]
      exact h.head_argument _

theorem accepts_call {t opening closing : Token} {args : List Node}
    (ho : opening.kind = .openParen) (hd : Derives .arguments ts args)
    (read : Accepts .arguments ts args) (hc : closing.kind = .closeParen) :
    Accepts .named (t :: opening :: (ts ++ [closing])) ⟨.call t.text args, t.position⟩ := by
  intro s fuel hs hf
  simp only [List.length_cons, List.length_append] at hf
  obtain ⟨fuel, rfl⟩ := Nat.exists_eq_add_of_le' (show 1 ≤ fuel by omega)
  have read := read s fuel closing hc (by omega)
  have first := hd.head_arguments (s.prepend [closing])
  simp [namedStep, ho, first, read]

theorem accepts_oneArgument {arg : Node} (read : Accepts .argument ts arg) :
    Accepts .arguments ts [arg] := by
  intro s fuel closing hc hf
  obtain ⟨fuel, rfl⟩ := Nat.exists_eq_add_of_le' (show 1 ≤ fuel by omega)
  have read := read (s.prepend [closing]) fuel (by simp [hc, rank]) (by omega)
  simp [arguments, read, hc]

theorem accepts_moreArguments {comma : Token} {arg : Node} {args : List Node}
    (first : Accepts .argument ts arg) (hc : comma.kind = .comma)
    (others : Accepts .arguments us args) :
    Accepts .arguments (ts ++ comma :: us) (arg :: args) := by
  intro s fuel closing hl hf
  simp only [List.length_cons, List.length_append] at hf
  obtain ⟨fuel, rfl⟩ := Nat.exists_eq_add_of_le' (show 1 ≤ fuel by omega)
  have first := first ((s.prepend [closing]).prepend (comma :: us)) fuel (by simp [hc, rank])
    (by omega)
  have others := others s fuel closing hl (by omega)
  simp [arguments, first, hc, others]

theorem accepts_operandArgument {node : Node} (hd : Derives .operand ts node)
    (read : Accepts .operand ts node) : Accepts .argument ts node := by
  intro s fuel hr hf
  obtain ⟨fuel, rfl⟩ := Nat.exists_eq_add_of_le' (show 1 ≤ fuel by omega)
  have read := read s fuel (by omega) (by omega)
  obtain ⟨noParen, -, noBang⟩ := head_of_beginsOperand hd.begins_operand s
  simp [argument, noParen, noBang, read]
  cases hk : s.head.kind <;> simp [hk, rank] at hr ⊢

theorem accepts_comparedArgument {left node : Node} (ho : Derives .operand ts left)
    (hc : Derives (.continued left) us node) (first : Accepts .operand ts left)
    (others : Accepts (.continued left) us node) : Accepts .argument (ts ++ us) node := by
  intro s fuel hr hf
  rw [List.length_append] at hf
  obtain ⟨op, t, us, rfl, ht⟩ := hc.begins_continued
  simp only [List.length_cons] at hf
  obtain ⟨fuel, rfl⟩ := Nat.exists_eq_add_of_le' (show 1 ≤ fuel by omega)
  have first := first (s.prepend (t :: us)) fuel (by simp [ht, rank]) (by omega)
  have others := others s fuel hr (by simp only [List.length_cons]; omega)
  obtain ⟨noParen, -, noBang⟩ := head_of_beginsOperand ho.begins_operand (s.prepend (t :: us))
  simp [argument, noParen, noBang, first, ht, others]

theorem accepts_conditionArgument {node : Node} (ho : opensCondition ts)
    (read : Accepts .disjunction ts node) : Accepts .argument ts node := by
  intro s fuel hr hf
  obtain ⟨fuel, rfl⟩ := Nat.exists_eq_add_of_le' (show 1 ≤ fuel by omega)
  have read := read s fuel hr (by omega)
  rcases head_of_opensCondition ho s with hk | hn
  · simp [argument, hk, read]
  · simp [argument, hn, read]

theorem accepts_number {t : Token} {n : Number} (ht : t.kind = .number)
    (hn : Number.ofText? t.text = some n) : Accepts .operand [t] (.literal (.number n)) := by
  intro s fuel hr hf
  obtain ⟨fuel, rfl⟩ := Nat.exists_eq_add_of_le' (show 1 ≤ fuel by omega)
  simp [operand, numberLiteral, ht, hn]

theorem accepts_string {t : Token} (ht : t.kind = .string) :
    Accepts .operand [t] (.literal (.string t.text)) := by
  intro s fuel hr hf
  obtain ⟨fuel, rfl⟩ := Nat.exists_eq_add_of_le' (show 1 ≤ fuel by omega)
  simp [operand, ht]

theorem accepts_keyword {t : Token} (hk : isKeyword t) :
    Accepts .operand [t] (.literal (keywordValue t.text)) := by
  intro s fuel hr hf
  obtain ⟨fuel, rfl⟩ := Nat.exists_eq_add_of_le' (show 1 ≤ fuel by omega)
  simp [operand, isKeyword_kind hk, hk]

theorem accepts_fromName {t : Token} {step : Step} {rest : List Step}
    (hk : isKeyword t = false) (hn : Derives .named (t :: ts) step) (hs : Derives .steps us rest)
    (name : Accepts .named (t :: ts) step) (others : Accepts .steps us rest) :
    Accepts .operand (t :: (ts ++ us)) (relative t.position (step :: rest)) := by
  intro s fuel hr hf
  simp only [List.length_cons, List.length_append] at hf
  obtain ⟨fuel, rfl⟩ := Nat.exists_eq_add_of_le' (show 1 ≤ fuel by omega)
  have head : (s.prepend us).head.kind ≠ .openParen := by
    refine hs.head_steps ?_
    intro hp
    simp [hp, rank] at hr
  have name := name (s.prepend us) fuel head (by simp only [List.length_cons]; omega)
  have others := others s fuel hr (by omega)
  obtain ⟨t', us', he, ht⟩ := hn.begins_named
  cases he
  rw [← TokenStream.prepend_append, List.cons_append] at name
  simp [operand, ht, hk, name, others]

theorem accepts_fromRoot {t : Token} {rest : List Step} (ht : t.kind = .root)
    (others : Accepts .steps ts rest) :
    Accepts .operand (t :: ts) (.path (⟨.root, t.position⟩ :: rest)) := by
  intro s fuel hr hf
  simp only [List.length_cons] at hf
  obtain ⟨fuel, rfl⟩ := Nat.exists_eq_add_of_le' (show 1 ≤ fuel by omega)
  have others := others s fuel hr (by omega)
  simp [operand, ht, others]

theorem accepts_fromCurrent {t : Token} {rest : List Step} (ht : t.kind = .current)
    (others : Accepts .steps ts rest) :
    Accepts .operand (t :: ts) (relative t.position rest) := by
  intro s fuel hr hf
  simp only [List.length_cons] at hf
  obtain ⟨fuel, rfl⟩ := Nat.exists_eq_add_of_le' (show 1 ≤ fuel by omega)
  have others := others s fuel hr (by omega)
  simp [operand, ht, others]

theorem accepts_fromStep {t : Token} {rest : List Step} (hs : Derives .steps (t :: ts) rest)
    (read : Accepts .steps (t :: ts) rest) :
    Accepts .operand (t :: ts) (relative t.position rest) := by
  intro s fuel hr hf
  obtain ⟨fuel, rfl⟩ := Nat.exists_eq_add_of_le' (show 1 ≤ fuel by omega)
  have read := read s fuel hr (by omega)
  rcases hs.begins_steps with ⟨hn, -⟩ | ⟨hb, -⟩
  · cases hn
  · have first := head_of_begins hb s
    rw [TokenStream.head_prepend_cons] at first
    cases hk : t.kind <;> simp [operand, hk, startsStep, TokenStream.omissionAhead, read] at first ⊢
    exact first

theorem accepts_compared {t : Token} {op : Comparator} {left right : Node}
    (ht : t.kind = .comparator op) (read : Accepts .operand ts right) :
    Accepts (.compared left) (t :: ts) (.comparison op left right) := by
  intro s fuel hr hf
  simp only [List.length_cons] at hf
  obtain ⟨fuel, rfl⟩ := Nat.exists_eq_add_of_le' (show 1 ≤ fuel by omega)
  have read := read s fuel (by omega) (by omega)
  simp [comparison, ht, read]

theorem accepts_negation {bang t : Token} {node : Node} (hb : bang.kind = .bang)
    (ht : t.kind ≠ .openBrace) (read : Accepts .unary (t :: ts) node) :
    Accepts .unary (bang :: t :: ts) (.not node) := by
  intro s fuel hr hf
  simp only [List.length_cons] at hf
  obtain ⟨fuel, rfl⟩ := Nat.exists_eq_add_of_le' (show 1 ≤ fuel by omega)
  have read := read s fuel hr (by simp only [List.length_cons]; omega)
  simp [unary, TokenStream.negationAhead, TokenStream.omissionAhead, hb, ht, read]

theorem accepts_parentheses {opening closing : Token} {node : Node}
    (ho : opening.kind = .openParen) (read : Accepts .disjunction ts node)
    (hc : closing.kind = .closeParen) : Accepts .unary (opening :: (ts ++ [closing])) node := by
  intro s fuel hr hf
  simp only [List.length_cons, List.length_append] at hf
  obtain ⟨fuel, rfl⟩ := Nat.exists_eq_add_of_le' (show 1 ≤ fuel by omega)
  have read := read (s.prepend [closing]) fuel (by simp [hc, rank]) (by omega)
  simp [unary, TokenStream.negationAhead, ho, read, hc]

theorem accepts_comparison {left node : Node} (ho : Derives .operand ts left)
    (hc : Derives (.compared left) us node) (first : Accepts .operand ts left)
    (second : Accepts (.compared left) us node) : Accepts .unary (ts ++ us) node := by
  intro s fuel hr hf
  obtain ⟨op, t, vs, rfl, ht⟩ := hc.begins_compared
  simp only [List.length_append, List.length_cons] at hf
  obtain ⟨fuel, rfl⟩ := Nat.exists_eq_add_of_le' (show 1 ≤ fuel by omega)
  have first := first (s.prepend (t :: vs)) fuel (by simp [ht, rank]) (by omega)
  have second := second s fuel hr (by simp only [List.length_cons]; omega)
  obtain ⟨noParen, -, noBang⟩ := head_of_beginsOperand ho.begins_operand (s.prepend (t :: vs))
  simp [unary, noParen, noBang, first, second]

theorem accepts_conjunction {left node : Node} (hd : Derives (.conjuncts left) us node)
    (first : Accepts .unary ts left) (others : Accepts (.conjuncts left) us node) :
    Accepts .conjunction (ts ++ us) node := by
  intro s fuel hr hf
  rw [List.length_append] at hf
  obtain ⟨fuel, rfl⟩ := Nat.exists_eq_add_of_le' (show 1 ≤ fuel by omega)
  have first := first (s.prepend us) fuel (hd.rank_conjuncts hr) (by omega)
  have others := others s fuel hr (by omega)
  simp [conjunction, first, others]

theorem accepts_noConjuncts {left : Node} : Accepts (.conjuncts left) [] left := by
  intro s fuel hr hf
  obtain ⟨fuel, rfl⟩ := Nat.exists_eq_add_of_le' (show 1 ≤ fuel by omega)
  have stop : s.head.kind ≠ .and := by
    intro hk
    simp [hk, rank] at hr
  simp [conjuncts, stop]

theorem accepts_moreConjuncts {t : Token} {left right node : Node} (ht : t.kind = .and)
    (hd : Derives (.conjuncts (.condition .and left right)) us node)
    (first : Accepts .unary ts right)
    (others : Accepts (.conjuncts (.condition .and left right)) us node) :
    Accepts (.conjuncts left) (t :: (ts ++ us)) node := by
  intro s fuel hr hf
  simp only [List.length_cons, List.length_append] at hf
  obtain ⟨fuel, rfl⟩ := Nat.exists_eq_add_of_le' (show 1 ≤ fuel by omega)
  have first := first (s.prepend us) fuel (hd.rank_conjuncts hr) (by omega)
  have others := others s fuel hr (by omega)
  simp [conjuncts, ht, first, others]

theorem accepts_disjunction {left node : Node} (hd : Derives (.disjuncts left) us node)
    (first : Accepts .conjunction ts left) (others : Accepts (.disjuncts left) us node) :
    Accepts .disjunction (ts ++ us) node := by
  intro s fuel hr hf
  rw [List.length_append] at hf
  obtain ⟨fuel, rfl⟩ := Nat.exists_eq_add_of_le' (show 1 ≤ fuel by omega)
  have first := first (s.prepend us) fuel (hd.rank_disjuncts hr) (by omega)
  have others := others s fuel hr (by omega)
  simp [disjunction, first, others]

theorem accepts_noDisjuncts {left : Node} : Accepts (.disjuncts left) [] left := by
  intro s fuel hr hf
  obtain ⟨fuel, rfl⟩ := Nat.exists_eq_add_of_le' (show 1 ≤ fuel by omega)
  have stop : s.head.kind ≠ .or := by
    intro hk
    simp [hk, rank] at hr
  simp [disjuncts, stop]

theorem accepts_moreDisjuncts {t : Token} {left right node : Node} (ht : t.kind = .or)
    (hd : Derives (.disjuncts (.condition .or left right)) us node)
    (first : Accepts .conjunction ts right)
    (others : Accepts (.disjuncts (.condition .or left right)) us node) :
    Accepts (.disjuncts left) (t :: (ts ++ us)) node := by
  intro s fuel hr hf
  simp only [List.length_cons, List.length_append] at hf
  obtain ⟨fuel, rfl⟩ := Nat.exists_eq_add_of_le' (show 1 ≤ fuel by omega)
  have first := first (s.prepend us) fuel (hd.rank_disjuncts hr) (by omega)
  have others := others s fuel hr (by omega)
  simp [disjuncts, ht, first, others]

theorem accepts_continued {vs : List Token} {left first middle node : Node}
    (hd : Derives (.conjuncts first) us middle) (he : Derives (.disjuncts middle) vs node)
    (compared : Accepts (.compared left) ts first) (joined : Accepts (.conjuncts first) us middle)
    (others : Accepts (.disjuncts middle) vs node) :
    Accepts (.continued left) (ts ++ (us ++ vs)) node := by
  intro s fuel hr hf
  simp only [List.length_append] at hf
  -- a disjunction, a conjunction and a negation are entered before the comparison is read
  obtain ⟨fuel, rfl⟩ := Nat.exists_eq_add_of_le' (show 3 ≤ fuel by omega)
  have middle := he.rank_disjuncts hr
  have compared := compared ((s.prepend vs).prepend us) fuel (hd.rank_conjuncts middle) (by omega)
  have joined := joined (s.prepend vs) (fuel + 1) middle (by omega)
  have others := others s (fuel + 2) hr (by omega)
  simp [disjunction, conjunction, unary, compared, joined, others]

/-- Completeness: the production of a phrase finds every derivation of it. -/
theorem accepts {x : Symbol} {r : x.Result} (h : Derives x ts r) : Accepts x ts r := by
  induction h with
  | noSteps =>
      intro s fuel hr hf
      obtain ⟨fuel, rfl⟩ := Nat.exists_eq_add_of_le' (show 1 ≤ fuel by omega)
      exact steps_none hr fuel
  | moreSteps hd hs first others => exact accepts_moreSteps hd hs first others
  | dotName hd hn name => exact accepts_dotName hd hn name
  | dotString hd ht => exact accepts_dotString hd ht
  | dotStar hd ht => exact accepts_dotStar hd ht
  | dotGroup hd hg => exact accepts_dotGroup hd hg
  | dotOmission hd hb hg => exact accepts_dotOmission hd hb hg
  | bracket ho hi hc => exact accepts_bracket ho hi hc
  | group hg => exact accepts_group hg
  | omission hb hg => exact accepts_omission hb hg
  | name _ => exact accepts_name
  | emptyCall _ ho hc => exact accepts_emptyCall ho hc
  | call _ ho hd hc read => exact accepts_call ho hd read hc
  | oneArgument _ read => exact accepts_oneArgument read
  | moreArguments _ hc _ first others => exact accepts_moreArguments first hc others
  | operandArgument hd read => exact accepts_operandArgument hd read
  | comparedArgument ho hc first others => exact accepts_comparedArgument ho hc first others
  | conditionArgument ho _ read => exact accepts_conditionArgument ho read
  | number ht hn => exact accepts_number ht hn
  | string ht => exact accepts_string ht
  | keyword hk => exact accepts_keyword hk
  | fromName hk hn hs name others => exact accepts_fromName hk hn hs name others
  | fromRoot ht _ others => exact accepts_fromRoot ht others
  | fromCurrent ht _ others => exact accepts_fromCurrent ht others
  | fromStep hs read => exact accepts_fromStep hs read
  | compared ht _ read => exact accepts_compared ht read
  | negation hb ht _ read => exact accepts_negation hb ht read
  | parentheses ho _ hc read => exact accepts_parentheses ho read hc
  | comparison ho hc first second => exact accepts_comparison ho hc first second
  | conjunction _ hd first others => exact accepts_conjunction hd first others
  | noConjuncts => exact accepts_noConjuncts
  | moreConjuncts ht _ hd first others => exact accepts_moreConjuncts ht hd first others
  | disjunction _ hd first others => exact accepts_disjunction hd first others
  | noDisjuncts => exact accepts_noDisjuncts
  | moreDisjuncts ht _ hd first others => exact accepts_moreDisjuncts ht hd first others
  | continued _ hd he compared joined others =>
      exact accepts_continued hd he compared joined others

/-! ### Whole queries -/

/-- A condition that stands alone begins with no step, no root and no name. -/
theorem head_of_opensAlone (ho : opensAlone us) (s : TokenStream) :
    rank (s.prepend us).head.kind = 4 ∧ startsCondition (s.prepend us).head.kind ∧
      (s.prepend us).omissionAhead = false ∧
        ((s.prepend us).head.kind = .property → isKeyword (s.prepend us).head) := by
  match us, ho with
  | t :: us, ho =>
      simp only [opensAlone, Bool.or_eq_true, beq_iff_eq] at ho
      rw [TokenStream.head_prepend_cons]
      rcases ho with (((ho | hk) | hk) | hk) | hk
      · rcases head_of_opensCondition ho s with hk | hn
        · rw [TokenStream.head_prepend_cons] at hk
          simp [hk, rank, startsCondition, TokenStream.omissionAhead]
        · have hk : t.kind = .bang := TokenStream.head_of_negationAhead hn
          simp only [TokenStream.negationAhead, Bool.and_eq_true, Bool.not_eq_true'] at hn
          simp [hk, rank, startsCondition, hn]
      · simp [hk, rank, startsCondition, TokenStream.omissionAhead]
      · simp [hk, rank, startsCondition, TokenStream.omissionAhead]
      · simp [hk, rank, startsCondition, TokenStream.omissionAhead]
      · simp [isKeyword_kind hk, hk, rank, startsCondition, TokenStream.omissionAhead]

theorem trailingCondition_complete {path : List Step} {condition : Option Node}
    (h : Trail path us condition) (hs : s.head.kind = .finish) :
    trailingCondition path.isEmpty (s.prepend us) = .ok condition s := by
  have enough : 8 * us.length + 3 ≤ fuelFor (s.prepend us) := by
    rw [fuelFor, TokenStream.length_rest_prepend]
    omega
  cases h with
  | none => simp [trailingCondition, hs, startsCondition]
  | continued hd =>
      have read := accepts hd s _ (by simp [hs, rank]) enough
      obtain ⟨op, t, vs, rfl, ht⟩ := hd.begins_continued
      simp [trailingCondition, ht, read]
  | alone hp ho hd =>
      have read := accepts hd s _ (by simp [hs, rank]) enough
      obtain ⟨hr, hc, -⟩ := head_of_opensAlone ho s
      subst hp
      cases hk : (s.prepend us).head.kind <;>
        simp [hk, rank, startsCondition] at hr hc <;>
        simp [trailingCondition, hk, startsCondition, read]

/-- What stands behind the steps of a query is no step. -/
theorem Trail.steps_none {path : List Step} {condition : Option Node}
    (h : Trail path us condition) (hs : s.head.kind = .finish) (fuel : Nat) :
    steps (fuel + 1) (s.prepend us) = .ok [] (s.prepend us) := by
  cases h with
  | none => exact Grammar.steps_none (by simp [hs, rank]) fuel
  | continued hd =>
      obtain ⟨op, t, vs, rfl, ht⟩ := hd.begins_continued
      exact Grammar.steps_none (by simp [ht, rank]) fuel
  | alone _ ho _ =>
      obtain ⟨hr, hc, hn, -⟩ := head_of_opensAlone ho s
      unfold steps
      cases hk : (s.prepend us).head.kind <;> simp [hk, rank, startsCondition] at hr hc <;>
        simp [hk, hn]

theorem steps_complete {path : List Step} {first : List Step} {condition : Option Node}
    (hd : Derives .steps ts path) (ht : Trail (first ++ path) us condition)
    (hs : s.head.kind = .finish) :
    steps (fuelFor (s.prepend (ts ++ us))) (s.prepend (ts ++ us)) = .ok path (s.prepend us) := by
  have enough : 8 * ts.length + 1 ≤ fuelFor (s.prepend (ts ++ us)) := by
    rw [fuelFor, TokenStream.length_rest_prepend, List.length_append]
    omega
  rw [TokenStream.prepend_append] at *
  rcases hd.begins_steps with ⟨rfl, rfl⟩ | ⟨-, some⟩
  · exact ht.steps_none hs _
  · refine accepts hd (s.prepend us) _ ?_ enough
    cases ht with
    | none => simp [hs, rank]
    | continued hc =>
        obtain ⟨op, t, vs, rfl, ht⟩ := hc.begins_continued
        simp [ht, rank]
    | alone hn _ _ => exact absurd (List.append_eq_nil_iff.1 hn).2 some

/-- What stands behind the name at the start of a query does not open the arguments of a call. -/
theorem head_behind_name {path first : List Step} {condition : Option Node}
    (hd : Derives .steps ts path) (ht : Trail (first ++ path) us condition) (hf : first ≠ [])
    (hs : s.head.kind = .finish) : (s.prepend (ts ++ us)).head.kind ≠ .openParen := by
  rw [TokenStream.prepend_append]
  refine hd.head_steps ?_
  cases ht with
  | none => simp [hs]
  | continued hc =>
      obtain ⟨op, t, vs, rfl, ht⟩ := hc.begins_continued
      simp [ht]
  | alone hn _ _ => exact absurd (List.append_eq_nil_iff.1 hn).1 hf

/-- Where no name is written at the start, the query goes on with neither a root nor a name. -/
theorem head_without_name {path : List Step} {condition : Option Node}
    (hd : Derives .steps ts path) (ht : Trail path us condition) (hs : s.head.kind = .finish) :
    (s.prepend (ts ++ us)).head.kind ≠ .root ∧ ((s.prepend (ts ++ us)).head.kind = .property →
      isKeyword (s.prepend (ts ++ us)).head) := by
  rw [TokenStream.prepend_append]
  rcases hd.begins_steps with ⟨rfl, -⟩ | ⟨hb, -⟩
  · rw [TokenStream.prepend_nil]
    cases ht with
    | none => simp [hs]
    | continued hc =>
        obtain ⟨op, t, vs, rfl, ht⟩ := hc.begins_continued
        simp [ht]
    | alone _ ho _ =>
        obtain ⟨-, hc, -, hk⟩ := head_of_opensAlone ho s
        refine ⟨?_, hk⟩
        intro hr
        simp [hr, startsCondition] at hc
  · rcases head_of_begins hb (s.prepend us) with hk | hk
    · refine ⟨?_, ?_⟩ <;> intro hr <;> simp [hr, startsStep] at hk
    · simp [TokenStream.head_of_omissionAhead hk]

theorem headStep_complete {head : List Token} {path first : List Step} {condition : Option Node}
    (hh : Head head first) (hd : Derives .steps ts path) (ht : Trail (first ++ path) us condition)
    (hs : s.head.kind = .finish) :
    headStep (s.prepend (head ++ (ts ++ us))) = .ok first (s.prepend (ts ++ us)) := by
  cases hh with
  | none =>
      obtain ⟨-, hk⟩ := head_without_name hd ht hs
      rw [List.nil_append]
      generalize s.prepend (ts ++ us) = m at hk
      by_cases hp : m.head.kind = .property
      · simp [headStep, hk hp]
      · simp [headStep, hp]
  | @name t vs step hk hn =>
      have enough : 8 * (t :: vs).length ≤ fuelFor (s.prepend (t :: vs ++ (ts ++ us))) := by
        rw [fuelFor, TokenStream.length_rest_prepend, List.length_append]
        omega
      have read := accepts hn _ _ (head_behind_name hd ht (by simp) hs) enough
      obtain ⟨t', vs', he, hp⟩ := hn.begins_named
      cases he
      rw [← TokenStream.prepend_append] at read
      simp only [List.cons_append] at read ⊢
      simp [headStep, hp, hk, read]

theorem head_ne_root {head : List Token} {path first : List Step} {condition : Option Node}
    (hh : Head head first) (hd : Derives .steps ts path) (ht : Trail (first ++ path) us condition)
    (hs : s.head.kind = .finish) : (s.prepend (head ++ (ts ++ us))).head.kind ≠ .root := by
  cases hh with
  | none => exact (head_without_name hd ht hs).1
  | name _ hn =>
      obtain ⟨t, vs, he, hp⟩ := hn.begins_named
      cases he
      simp [hp]

/-- Completeness of queries: a query is read up to and including the end token. -/
theorem query_complete {q : Query} (h : DerivesQuery s.head.position ts q)
    (hs : s.head.kind = .finish) : query (s.prepend ts) = .ok q s.tail := by
  cases h with
  | @mk root head path trail first steps condition hr hh hp ht =>
      have byName := headStep_complete hh hp ht hs
      have bySteps := steps_complete hp ht hs
      have last := trailingCondition_complete ht hs
      have noStep : startsStep .finish = false ∧ s.omissionAhead = false := by
        simp [hs, startsStep, TokenStream.omissionAhead]
      rw [← head_position s trail, ← head_position s (root ++ _)]
      rcases hr with rfl | ⟨t, hr, rfl⟩
      · have noRoot := head_ne_root hh hp ht hs
        rw [List.nil_append]
        generalize s.prepend (head ++ (path ++ trail)) = m₁ at *
        generalize s.prepend (path ++ trail) = m₂ at *
        generalize s.prepend trail = m₃ at *
        simp [query, noRoot, byName, bySteps, last, noStep, hs]
      · rw [List.singleton_append]
        generalize head ++ (path ++ trail) = whole at *
        generalize s.prepend (path ++ trail) = m₂ at *
        generalize s.prepend trail = m₃ at *
        simp [query, hr, byName, bySteps, last, noStep, hs]

end PathQuery.Grammar
