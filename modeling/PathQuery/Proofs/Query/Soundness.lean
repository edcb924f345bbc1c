import PathQuery.Proofs.Query.Grammar

/-!
The parser builds only trees that the grammar derives. Where a production succeeds, the tokens in
front of the place it stopped at are a phrase, and the answer is the tree of the phrase.
-/

namespace PathQuery.Grammar

open PathQuery.Parser

variable {s s' : TokenStream} {fuel : Nat}

/-- What a parser read from `s` on, up to `s'`, is something that `P` holds of. -/
def Reads (s s' : TokenStream) (P : List Token → Prop) : Prop :=
  ∃ ts, s = s'.prepend ts ∧ P ts

theorem exists_head {kind : Token.Kind} (h : s.head.kind = kind) (hk : kind ≠ .finish) :
    ∃ (t : Token) (m : TokenStream), t.kind = kind ∧ s = m.prepend [t] :=
  ⟨s.head, s.tail, h, TokenStream.eq_prepend_head (h ▸ hk)⟩

/-! ### Brackets and key groups -/

theorem groupKeys_sound {keys : List String} (h : groupKeys fuel s = .ok keys s') :
    Reads s s' (Keys isKey · keys) := by
  induction fuel generalizing s keys with
  | zero => cases h
  | succ fuel ih =>
      have key : s.head.kind = .property ∨ s.head.kind = .string := by
        cases hk : s.head.kind <;> simp [groupKeys, hk] at h ⊢
      obtain ⟨t, m, ht, rfl⟩ : ∃ (t : Token) (m : TokenStream),
          (t.kind = .property ∨ t.kind = .string) ∧ s = m.prepend [t] := by
        refine ⟨s.head, s.tail, key, TokenStream.eq_prepend_head ?_⟩
        rcases key with hk | hk <;> simp [hk]
      have run : groupKeys (fuel + 1) (m.prepend [t]) =
          if m.head.kind = .comma then ((t.text :: ·) <$> groupKeys fuel) m.tail
          else .ok [t.text] m := by
        rcases ht with hk | hk <;> simp [groupKeys, hk]
      have admitted : isKey t := by simpa [isKey] using ht
      rw [run] at h
      split at h
      · rename_i hc
        obtain ⟨comma, m, hc, rfl⟩ := exists_head hc (by simp)
        rw [map_run] at h
        split at h
        · rename_i rest m' hr
          cases h
          obtain ⟨ts, he, hk⟩ := ih hr
          rw [TokenStream.tail_prepend_cons, TokenStream.prepend_nil] at he
          exact ⟨t :: comma :: ts, by rw [he]; rfl, .more admitted hc hk⟩
        · cases h
      · cases h
        exact ⟨[t], rfl, .one admitted⟩

theorem keyGroup_sound {keys : List String} (h : keyGroup s = .ok keys s') :
    Reads s s' (Group · keys) := by
  unfold keyGroup at h
  obtain ⟨opening, m₁, first, h₁⟩ := bind_eq_ok h
  obtain ⟨ho, rfl⟩ := expect_eq_ok (by simp) first
  rw [check_bind] at h₁
  split at h₁
  · cases h₁
  rw [get_bind] at h₁
  obtain ⟨keys', m₂, second, h₂⟩ := bind_eq_ok h₁
  obtain ⟨u, m₃, third, h₃⟩ := bind_eq_ok h₂
  cases h₃
  obtain ⟨ts, rfl, hk⟩ := groupKeys_sound second
  obtain ⟨closing, hc, rfl⟩ := discard_expect_eq_ok (by simp) third
  exact ⟨opening :: (ts ++ [closing]), by simp [TokenStream.prepend], .mk ho hk hc⟩

theorem quotedKeys_sound {keys : List String} (h : quotedKeys fuel s = .ok keys s') :
    s = s' ∧ keys = [] ∨ Reads s s' fun ts => ∃ comma us,
      ts = comma :: us ∧ comma.kind = .comma ∧ Keys (fun t => t.kind == .string) us keys := by
  induction fuel generalizing s keys with
  | zero =>
      cases h
      exact .inl ⟨rfl, rfl⟩
  | succ fuel ih =>
      unfold quotedKeys at h
      rw [check_bind] at h
      split at h
      · rename_i first
        obtain ⟨comma, m, hc, rfl⟩ := exists_head (by simpa using first) (by simp)
        rw [discard_advance_bind] at h
        obtain ⟨key, m₁, second, h₁⟩ := bind_eq_ok h
        obtain ⟨rest, m₂, third, h₂⟩ := bind_eq_ok h₁
        cases h₂
        obtain ⟨hk, rfl⟩ := expect_eq_ok (by simp) second
        right
        rcases ih third with ⟨rfl, rfl⟩ | ⟨ts, rfl, comma', us, rfl, hc', hks⟩
        · exact ⟨[comma, key], rfl, comma, [key], rfl, hc, .one (by simp [hk])⟩
        · exact ⟨comma :: key :: comma' :: us, rfl, comma, _, rfl, hc,
            .more (by simp [hk]) hc' hks⟩
      · cases h
        exact .inl ⟨rfl, rfl⟩

theorem integer?_sound {i : Option Int} (h : integer? s = .ok i s') :
    Reads s s' (Bound · i) := by
  unfold integer? at h
  rw [check_bind] at h
  split at h
  · rename_i first
    obtain ⟨t, m, ht, rfl⟩ := exists_head (by simpa using first) (by simp)
    rw [advance_bind] at h
    cases hn : Number.int64OfText? t.text with
    | none =>
        rw [hn] at h
        cases h
    | some n =>
        rw [hn] at h
        cases h
        exact ⟨[t], rfl, .some ht hn⟩
  · cases h
    exact ⟨[], rfl, .none⟩

theorem sliceStep_sound {i : Option Int} (h : sliceStep s = .ok i s') :
    Reads s s' (SliceStep · i) := by
  unfold sliceStep at h
  rw [check_bind] at h
  split at h
  · rename_i first
    obtain ⟨colon, m, hc, rfl⟩ := exists_head (by simpa using first) (by simp)
    rw [discard_advance_bind] at h
    rw [peek_bind] at h
    obtain ⟨step, m₁, second, h₁⟩ := bind_eq_ok h
    split at h₁
    · cases h₁
    · rename_i hz
      cases h₁
      obtain ⟨ts, rfl, hb⟩ := integer?_sound second
      exact ⟨colon :: ts, rfl, .some hc hb hz⟩
  · cases h
    exact ⟨[], rfl, .none⟩

theorem indexOrSlice_sound {node : Node} (h : indexOrSlice s = .ok node s') :
    Reads s s' fun ts => ∃ us closing, ts = us ++ [closing] ∧ Inner us node ∧
      closing.kind = .closeBracket := by
  unfold indexOrSlice at h
  obtain ⟨start, m₁, first, h₁⟩ := bind_eq_ok h
  obtain ⟨ts, rfl, hb⟩ := integer?_sound first
  rw [check_bind] at h₁
  split at h₁
  · rename_i second
    obtain ⟨colon, m₂, hc, rfl⟩ := exists_head (by simpa using second) (by simp)
    rw [discard_advance_bind] at h₁
    obtain ⟨stop, m₃, third, h₂⟩ := bind_eq_ok h₁
    obtain ⟨step, m₄, fourth, h₃⟩ := bind_eq_ok h₂
    obtain ⟨u, m₅, fifth, h₄⟩ := bind_eq_ok h₃
    cases h₄
    obtain ⟨us, rfl, hs⟩ := integer?_sound third
    obtain ⟨vs, rfl, hd⟩ := sliceStep_sound fourth
    obtain ⟨closing, hl, rfl⟩ := discard_expect_eq_ok (by simp) fifth
    refine ⟨ts ++ colon :: (us ++ vs) ++ [closing], ?_, _, closing, rfl, .slice hb hc hs hd, hl⟩
    simp [TokenStream.prepend]
  · obtain ⟨u, m₂, second, h₂⟩ := bind_eq_ok h₁
    obtain ⟨closing, hl, rfl⟩ := discard_expect_eq_ok (by simp) second
    cases hb with
    | none => cases h₂
    | some ht hi =>
        cases h₂
        exact ⟨[_, closing], rfl, [_], closing, rfl, .index ht hi, hl⟩

theorem bracket_sound {node : Node} (h : bracket s = .ok node s') :
    Reads s s' fun ts => ∃ opening us closing, ts = opening :: (us ++ [closing]) ∧
      opening.kind = .openBracket ∧ Inner us node ∧ closing.kind = .closeBracket := by
  unfold bracket at h
  obtain ⟨opening, m₁, first, h₁⟩ := bind_eq_ok h
  obtain ⟨ho, rfl⟩ := expect_eq_ok (by simp) first
  rw [peek_bind] at h₁
  have kinds : m₁.head.kind = .star ∨ m₁.head.kind = .string ∨
      (m₁.head.kind = .number ∨ m₁.head.kind = .colon) := by
    cases hk : m₁.head.kind <;> simp [hk] at h₁ ⊢
  rcases kinds with hk | hk | hk
  · rw [hk] at h₁
    obtain ⟨star, m₂, hs, rfl⟩ := exists_head hk (by simp)
    dsimp only at h₁
    rw [discard_advance_bind] at h₁
    obtain ⟨u, m₃, second, h₂⟩ := bind_eq_ok h₁
    cases h₂
    obtain ⟨closing, hl, rfl⟩ := discard_expect_eq_ok (by simp) second
    exact ⟨[opening, star, closing], rfl, opening, [star], closing, rfl, ho, .star hs, hl⟩
  · rw [hk] at h₁
    obtain ⟨key, m₂, hs, rfl⟩ := exists_head hk (by simp)
    dsimp only at h₁
    rw [advance_bind, get_bind] at h₁
    obtain ⟨keys, m₃, second, h₂⟩ := bind_eq_ok h₁
    obtain ⟨u, m₄, third, h₃⟩ := bind_eq_ok h₂
    cases h₃
    obtain ⟨closing, hl, rfl⟩ := discard_expect_eq_ok (by simp) third
    rcases quotedKeys_sound second with ⟨rfl, rfl⟩ | ⟨ts, rfl, comma, us, rfl, hc, hks⟩
    · exact ⟨[opening, key, closing], rfl, opening, [key], closing, rfl, ho, .key hs, hl⟩
    · have several : keys.isEmpty = false := by cases hks <;> rfl
      rw [several]
      exact ⟨opening :: key :: comma :: (us ++ [closing]), by simp [TokenStream.prepend], opening,
        key :: comma :: us, closing, rfl, ho, .keys hs hc hks, hl⟩
  · have run : indexOrSlice m₁ = .ok node s' := by
      rcases hk with hk | hk <;> rw [hk] at h₁ <;> exact h₁
    obtain ⟨ts, rfl, us, closing, rfl, hi, hl⟩ := indexOrSlice_sound run
    exact ⟨opening :: (us ++ [closing]), rfl, opening, us, closing, rfl, ho, hi, hl⟩

/-! ### Phrases -/

/-- With this fuel, what each production reads is a phrase. The step behind a dot takes the dot with
it, arguments leave out the closing parenthesis. -/
structure Sound (fuel : Nat) : Prop where
  steps {s s' : TokenStream} {rest : List Step} (h : steps fuel s = .ok rest s') :
    Reads s s' (Derives .steps · rest)
  afterDot {s s' : TokenStream} {dot : Token} {step : Step} (hd : dot.kind = .dot)
    (h : afterDot fuel dot.position s = .ok step s') :
    Reads s s' fun ts => Derives .step (dot :: ts) step
  namedStep {s s' : TokenStream} {step : Step} (hp : s.head.kind = .property)
    (h : namedStep fuel s = .ok step s') : Reads s s' (Derives .named · step)
  arguments {s s' : TokenStream} {args : List Node} (h : arguments fuel s = .ok args s') :
    Reads s s' fun ts => ∃ us closing, ts = us ++ [closing] ∧ Derives .arguments us args ∧
      closing.kind = .closeParen
  argument {s s' : TokenStream} {arg : Node} (h : argument fuel s = .ok arg s') :
    Reads s s' (Derives .argument · arg)
  operand {s s' : TokenStream} {node : Node} (h : operand fuel s = .ok node s') :
    Reads s s' (Derives .operand · node)
  comparison {s s' : TokenStream} {left node : Node} (h : comparison fuel left s = .ok node s') :
    Reads s s' (Derives (.compared left) · node)
  unary {s s' : TokenStream} {node : Node} (h : unary fuel none s = .ok node s') :
    Reads s s' (Derives .unary · node)
  conjuncts {s s' : TokenStream} {left node : Node} (h : conjuncts fuel left s = .ok node s') :
    Reads s s' (Derives (.conjuncts left) · node)
  conjunction {s s' : TokenStream} {node : Node} (h : conjunction fuel none s = .ok node s') :
    Reads s s' (Derives .conjunction · node)
  disjuncts {s s' : TokenStream} {left node : Node} (h : disjuncts fuel left s = .ok node s') :
    Reads s s' (Derives (.disjuncts left) · node)
  disjunction {s s' : TokenStream} {node : Node} (h : disjunction fuel none s = .ok node s') :
    Reads s s' (Derives .disjunction · node)
  unaryBehind {s s' : TokenStream} {left node : Node}
    (h : Parser.unary fuel (some left) s = .ok node s') :
    Reads s s' (Derives (.compared left) · node)
  conjunctionBehind {s s' : TokenStream} {left node : Node}
    (h : Parser.conjunction fuel (some left) s = .ok node s') :
    Reads s s' fun ts => ∃ us vs first, ts = us ++ vs ∧ Derives (.compared left) us first ∧
      Derives (.conjuncts first) vs node
  disjunctionBehind {s s' : TokenStream} {left node : Node}
    (h : Parser.disjunction fuel (some left) s = .ok node s') :
    Reads s s' (Derives (.continued left) · node)

theorem omissionGroup_sound {bang : Token} {node : Node}
    (h : omissionGroup (s.prepend [bang]) = .ok node s') :
    Reads s s' fun ts => ∃ keys, Group ts keys ∧ node = .omission keys := by
  unfold omissionGroup at h
  rw [discard_advance_bind] at h
  obtain ⟨keys, m, first, h₁⟩ := bind_eq_ok h
  cases h₁
  obtain ⟨ts, he, hg⟩ := keyGroup_sound first
  exact ⟨ts, he, keys, hg, rfl⟩

/-- One step, read from `m` on behind what `s` has before it, and the steps behind it. -/
theorem moreSteps_sound (ih : Sound fuel) {α : Type} {p : Parser α} {f : α → Step}
    {m : TokenStream} {rest : List Step}
    (hp : ∀ a m₁, p m = .ok a m₁ → Reads s m₁ (Derives .step · (f a)))
    (h : (p >>= fun a => steps fuel >>= fun others => pure (f a :: others)) m = .ok rest s') :
    Reads s s' (Derives .steps · rest) := by
  obtain ⟨a, m₁, first, h₁⟩ := bind_eq_ok h
  obtain ⟨others, m₂, second, h₂⟩ := bind_eq_ok h₁
  cases h₂
  obtain ⟨ts, rfl, hs⟩ := hp a m₁ first
  obtain ⟨us, rfl, hr⟩ := ih.steps second
  exact ⟨ts ++ us, (TokenStream.prepend_append _ _ _).symm, .moreSteps hs hr⟩

theorem steps_sound (ih : Sound fuel) {rest : List Step} (h : steps (fuel + 1) s = .ok rest s') :
    Reads s s' (Derives .steps · rest) := by
  have kinds : s.head.kind = .dot ∨ s.head.kind = .openBracket ∨ s.head.kind = .openBrace ∨
      (s.head.kind = .bang ∧ s.omissionAhead) ∨ steps (fuel + 1) s = .ok [] s := by
    unfold steps
    rw [peek_bind]
    cases hk : s.head.kind <;> simp
    cases ho : s.omissionAhead <;> simp
  rcases kinds with hk | hk | hk | ⟨hk, ho⟩ | none
  · unfold steps at h
    rw [peek_bind, hk] at h
    dsimp only at h
    obtain ⟨dot, m, hd, rfl⟩ := exists_head hk (by simp)
    rw [discard_advance_bind] at h
    refine moreSteps_sound ih (fun step m₁ first => ?_) h
    obtain ⟨ts, rfl, hs⟩ := ih.afterDot hd first
    exact ⟨dot :: ts, rfl, hs⟩
  · unfold steps at h
    rw [peek_bind, hk] at h
    dsimp only at h
    refine moreSteps_sound ih (fun node m₁ first => ?_) h
    obtain ⟨ts, rfl, opening, us, closing, rfl, hb, hi, hc⟩ := bracket_sound first
    exact ⟨_, rfl, .bracket hb hi hc⟩
  · unfold steps at h
    rw [peek_bind, hk] at h
    dsimp only at h
    refine moreSteps_sound ih (fun keys m₁ first => ?_) h
    obtain ⟨ts, rfl, hg⟩ := keyGroup_sound first
    obtain ⟨opening, u, vs, rfl, -⟩ := hg.begins
    exact ⟨_, rfl, .group hg⟩
  · unfold steps at h
    rw [peek_bind, hk] at h
    dsimp only at h
    rw [atOmission_bind, ho] at h
    obtain ⟨bang, m, hb, rfl⟩ := exists_head hk (by simp)
    refine moreSteps_sound ih (fun node m₁ first => ?_) h
    obtain ⟨ts, rfl, keys, hg, rfl⟩ := omissionGroup_sound first
    exact ⟨bang :: ts, rfl, .omission hb hg⟩
  · rw [none] at h
    cases h
    exact ⟨[], rfl, .noSteps⟩

theorem afterDot_sound (ih : Sound fuel) {dot : Token} {step : Step} (hd : dot.kind = .dot)
    (h : afterDot (fuel + 1) dot.position s = .ok step s') :
    Reads s s' fun ts => Derives .step (dot :: ts) step := by
  have kinds : s.head.kind = .property ∨ s.head.kind = .string ∨ s.head.kind = .star ∨
      s.head.kind = .openBrace ∨ (s.head.kind = .bang ∧ s.omissionAhead) := by
    unfold afterDot at h
    rw [peek_bind] at h
    cases hk : s.head.kind <;> simp [hk] at h ⊢
    cases ho : s.omissionAhead <;> simp [ho] at h ⊢
  unfold afterDot at h
  rw [peek_bind] at h
  rcases kinds with hk | hk | hk | hk | ⟨hk, ho⟩
  · rw [hk] at h
    obtain ⟨ts, he, hn⟩ := ih.namedStep hk h
    exact ⟨ts, he, .dotName hd hn⟩
  · rw [hk] at h
    obtain ⟨t, m, ht, rfl⟩ := exists_head hk (by simp)
    cases h
    exact ⟨[t], rfl, .dotString hd ht⟩
  · rw [hk] at h
    obtain ⟨t, m, ht, rfl⟩ := exists_head hk (by simp)
    cases h
    exact ⟨[t], rfl, .dotStar hd ht⟩
  · rw [hk] at h
    obtain ⟨keys, m, first, h₁⟩ := bind_eq_ok h
    cases h₁
    obtain ⟨ts, he, hg⟩ := keyGroup_sound first
    exact ⟨ts, he, .dotGroup hd hg⟩
  · rw [hk] at h
    dsimp only at h
    rw [atOmission_bind, ho] at h
    obtain ⟨bang, m, hb, rfl⟩ := exists_head hk (by simp)
    obtain ⟨node, m₁, first, h₁⟩ := bind_eq_ok h
    cases h₁
    obtain ⟨ts, rfl, keys, hg, rfl⟩ := omissionGroup_sound first
    exact ⟨bang :: ts, rfl, .dotOmission hd hb hg⟩

theorem namedStep_sound (ih : Sound fuel) {step : Step} (hp : s.head.kind = .property)
    (h : namedStep (fuel + 1) s = .ok step s') : Reads s s' (Derives .named · step) := by
  obtain ⟨t, m, ht, rfl⟩ := exists_head hp (by simp)
  unfold namedStep at h
  rw [advance_bind, check_bind] at h
  split at h
  · rename_i first
    obtain ⟨opening, m₁, ho, rfl⟩ := exists_head (by simpa using first) (by simp)
    rw [discard_advance_bind, check_bind] at h
    split at h
    · rename_i second
      obtain ⟨closing, m₂, hc, rfl⟩ := exists_head (by simpa using second) (by simp)
      rw [discard_advance_bind] at h
      cases h
      exact ⟨[t, opening, closing], rfl, .emptyCall ht ho hc⟩
    · obtain ⟨args, m₂, second, h₁⟩ := bind_eq_ok h
      cases h₁
      obtain ⟨ts, rfl, us, closing, rfl, ha, hc⟩ := ih.arguments second
      exact ⟨t :: opening :: (us ++ [closing]), rfl, .call ht ho ha hc⟩
  · cases h
    exact ⟨[t], rfl, .name ht⟩

theorem arguments_sound (ih : Sound fuel) {args : List Node}
    (h : arguments (fuel + 1) s = .ok args s') :
    Reads s s' fun ts => ∃ us closing, ts = us ++ [closing] ∧ Derives .arguments us args ∧
      closing.kind = .closeParen := by
  unfold arguments at h
  obtain ⟨arg, m₁, first, h₁⟩ := bind_eq_ok h
  obtain ⟨ts, rfl, ha⟩ := ih.argument first
  rw [check_bind] at h₁
  split at h₁
  · rename_i second
    obtain ⟨comma, m₂, hc, rfl⟩ := exists_head (by simpa using second) (by simp)
    rw [discard_advance_bind] at h₁
    obtain ⟨rest, m₃, third, h₂⟩ := bind_eq_ok h₁
    cases h₂
    obtain ⟨us, rfl, vs, closing, rfl, hr, hl⟩ := ih.arguments third
    exact ⟨ts ++ comma :: vs ++ [closing], by simp [TokenStream.prepend], _, closing, rfl,
      .moreArguments ha hc hr, hl⟩
  · obtain ⟨u, m₂, second, h₂⟩ := bind_eq_ok h₁
    cases h₂
    obtain ⟨closing, hl, rfl⟩ := discard_expect_eq_ok (by simp) second
    exact ⟨ts ++ [closing], by simp [TokenStream.prepend], ts, closing, rfl, .oneArgument ha, hl⟩

theorem opensCondition_of_head {ts : List Token} {node : Node} (h : Derives .disjunction ts node)
    (s : TokenStream) (hk : (s.prepend ts).head.kind = .openParen ∨ (s.prepend ts).negationAhead) :
    opensCondition ts := by
  obtain ⟨t, u, us, rfl⟩ := h.begins_disjunction
  simpa [opensCondition, TokenStream.negationAhead, TokenStream.omissionAhead, and_or_left] using hk

theorem argument_sound (ih : Sound fuel) {arg : Node}
    (h : argument (fuel + 1) s = .ok arg s') : Reads s s' (Derives .argument · arg) := by
  unfold argument at h
  rw [check_bind, atNegation_bind] at h
  split at h
  · rename_i first
    obtain ⟨ts, rfl, hd⟩ := ih.disjunction h
    refine ⟨ts, rfl, .conditionArgument (opensCondition_of_head hd s' ?_) hd⟩
    simpa using first
  · obtain ⟨left, m, second, h₁⟩ := bind_eq_ok h
    obtain ⟨ts, rfl, ho⟩ := ih.operand second
    rw [peek_bind] at h₁
    have kinds : (∃ op, m.head.kind = .comparator op) ∨ (arg = left ∧ m = s') := by
      cases hk : m.head.kind <;> rw [hk] at h₁ <;> first
        | exact .inl ⟨_, rfl⟩
        | cases h₁; done
        | cases h₁; exact .inr ⟨rfl, rfl⟩
    rcases kinds with ⟨op, hk⟩ | ⟨rfl, rfl⟩
    · rw [hk] at h₁
      obtain ⟨us, rfl, hc⟩ := ih.disjunctionBehind h₁
      exact ⟨ts ++ us, by simp, .comparedArgument ho hc⟩
    · exact ⟨ts, rfl, .operandArgument ho⟩

/-- Where a step begins, at least one is read. -/
theorem steps_ne_nil {rest : List Step} (h : steps fuel s = .ok rest s')
    (hs : startsStep s.head.kind || s.omissionAhead) : rest ≠ [] := by
  cases fuel with
  | zero => cases h
  | succ fuel =>
      have kinds : s.head.kind = .dot ∨ s.head.kind = .openBracket ∨ s.head.kind = .openBrace ∨
          (s.head.kind = .bang ∧ s.omissionAhead) := by
        rcases Bool.or_eq_true_iff.1 hs with hk | ho
        · cases hk' : s.head.kind <;> simp [hk', startsStep] at hk ⊢
        · exact .inr (.inr (.inr ⟨TokenStream.head_of_omissionAhead ho, ho⟩))
      unfold steps at h
      rw [peek_bind] at h
      rcases kinds with hk | hk | hk | ⟨hk, ho⟩
      · rw [hk] at h
        obtain ⟨u, m, -, h₁⟩ := bind_eq_ok h
        obtain ⟨step, m₁, -, h₂⟩ := bind_eq_ok h₁
        obtain ⟨others, m₂, -, h₃⟩ := bind_eq_ok h₂
        cases h₃
        simp
      · rw [hk] at h
        obtain ⟨node, m, -, h₁⟩ := bind_eq_ok h
        obtain ⟨others, m₁, -, h₂⟩ := bind_eq_ok h₁
        cases h₂
        simp
      · rw [hk] at h
        obtain ⟨keys, m, -, h₁⟩ := bind_eq_ok h
        obtain ⟨others, m₁, -, h₂⟩ := bind_eq_ok h₁
        cases h₂
        simp
      · rw [hk] at h
        dsimp only at h
        rw [atOmission_bind, ho] at h
        obtain ⟨node, m, -, h₁⟩ := bind_eq_ok h
        obtain ⟨others, m₁, -, h₂⟩ := bind_eq_ok h₁
        cases h₂
        simp

/-- What an operand may begin with. Where it is a step, the operand is the path from there. -/
theorem operand_kinds {node : Node} (h : operand (fuel + 1) s = .ok node s') :
    s.head.kind = .number ∨ s.head.kind = .string ∨ s.head.kind = .property ∨
      s.head.kind = .root ∨ s.head.kind = .current ∨
        ((startsStep s.head.kind || s.omissionAhead) ∧
          operand (fuel + 1) s = (relative s.head.position <$> steps fuel) s) := by
  unfold operand at h ⊢
  rw [peek_bind] at h ⊢
  cases hk : s.head.kind <;>
    simp only [hk, startsStep, TokenStream.omissionAhead, atStep_bind] at h ⊢ <;> first
      | contradiction
      | simp; done
      | skip
  split at h
  · rename_i ho
    refine .inr (.inr (.inr (.inr (.inr ⟨ho, ?_⟩))))
    rw [if_pos ho, map_run, bind_run]
    rfl
  · cases h

theorem number_sound {node : Node} (hk : s.head.kind = .number)
    (h : operand (fuel + 1) s = .ok node s') : Reads s s' (Derives .operand · node) := by
  unfold operand at h
  rw [peek_bind, hk] at h
  dsimp only at h
  obtain ⟨t, m, ht, rfl⟩ := exists_head hk (by simp)
  rw [advance_bind] at h
  unfold numberLiteral at h
  cases hn : Number.ofText? t.text with
  | none =>
      rw [hn] at h
      cases h
  | some n =>
      rw [hn] at h
      cases h
      exact ⟨[t], rfl, .number ht hn⟩

theorem nameOperand_sound (ih : Sound fuel) {node : Node} (hk : s.head.kind = .property)
    (h : operand (fuel + 1) s = .ok node s') : Reads s s' (Derives .operand · node) := by
  unfold operand at h
  rw [peek_bind, hk] at h
  dsimp only at h
  split at h
  · rename_i hw
    obtain ⟨t, m, ht, rfl⟩ := exists_head hk (by simp)
    rw [discard_advance_bind] at h
    cases h
    exact ⟨[t], rfl, .keyword hw⟩
  · rename_i hw
    obtain ⟨step, m, first, h₁⟩ := bind_eq_ok h
    obtain ⟨rest, m₁, second, h₂⟩ := bind_eq_ok h₁
    cases h₂
    obtain ⟨ts, rfl, hn⟩ := ih.namedStep hk first
    obtain ⟨us, rfl, hs⟩ := ih.steps second
    obtain ⟨t, vs, rfl, -⟩ := hn.begins_named
    exact ⟨t :: (vs ++ us), by simp [TokenStream.prepend], .fromName (by simpa using hw) hn hs⟩

theorem operand_sound (ih : Sound fuel) {node : Node}
    (h : operand (fuel + 1) s = .ok node s') : Reads s s' (Derives .operand · node) := by
  rcases operand_kinds h with hk | hk | hk | hk | hk | ⟨hs, run⟩
  · exact number_sound hk h
  · unfold operand at h
    rw [peek_bind, hk] at h
    dsimp only at h
    obtain ⟨t, m, ht, rfl⟩ := exists_head hk (by simp)
    rw [advance_bind] at h
    cases h
    exact ⟨[t], rfl, .string ht⟩
  · exact nameOperand_sound ih hk h
  · unfold operand at h
    rw [peek_bind, hk] at h
    dsimp only at h
    obtain ⟨t, m, ht, rfl⟩ := exists_head hk (by simp)
    rw [discard_advance_bind] at h
    obtain ⟨rest, m₁, first, h₁⟩ := bind_eq_ok h
    cases h₁
    obtain ⟨ts, rfl, hs⟩ := ih.steps first
    exact ⟨t :: ts, rfl, .fromRoot ht hs⟩
  · unfold operand at h
    rw [peek_bind, hk] at h
    dsimp only at h
    obtain ⟨t, m, ht, rfl⟩ := exists_head hk (by simp)
    rw [discard_advance_bind] at h
    obtain ⟨rest, m₁, first, h₁⟩ := bind_eq_ok h
    cases h₁
    obtain ⟨ts, rfl, hs⟩ := ih.steps first
    exact ⟨t :: ts, rfl, .fromCurrent ht hs⟩
  · rw [run] at h
    obtain ⟨rest, first, rfl⟩ := map_eq_ok h
    obtain ⟨ts, he, hd⟩ := ih.steps first
    -- a path from here on has a first token, which the tree takes its position from
    rcases hd.begins_steps with ⟨-, rfl⟩ | ⟨hb, -⟩
    · exact absurd rfl (steps_ne_nil first hs)
    · obtain ⟨t, u, us, rfl⟩ := beginsStep_cons hb
      subst he
      exact ⟨t :: u :: us, rfl, .fromStep hd⟩

theorem comparison_sound (ih : Sound fuel) {left node : Node}
    (h : comparison (fuel + 1) left s = .ok node s') :
    Reads s s' (Derives (.compared left) · node) := by
  unfold comparison at h
  rw [peek_bind] at h
  obtain ⟨op, hk⟩ : ∃ op, s.head.kind = .comparator op := by
    cases hk : s.head.kind <;> rw [hk] at h <;> first
      | exact ⟨_, rfl⟩
      | cases h
  rw [hk] at h
  dsimp only at h
  obtain ⟨t, m, ht, rfl⟩ := exists_head hk (by simp)
  rw [discard_advance_bind] at h
  obtain ⟨right, m₁, first, h₁⟩ := bind_eq_ok h
  cases h₁
  obtain ⟨ts, rfl, ho⟩ := ih.operand first
  exact ⟨t :: ts, rfl, .compared ht ho⟩

theorem unary_sound (ih : Sound fuel) {node : Node}
    (h : unary (fuel + 1) none s = .ok node s') : Reads s s' (Derives .unary · node) := by
  unfold unary at h
  dsimp only at h
  rw [atNegation_bind] at h
  split at h
  · rename_i hn
    obtain ⟨bang, m, hb, rfl⟩ := exists_head (TokenStream.head_of_negationAhead hn) (by simp)
    rw [discard_advance_bind] at h
    obtain ⟨inner, m₁, first, h₁⟩ := bind_eq_ok h
    cases h₁
    obtain ⟨ts, rfl, hu⟩ := ih.unary first
    obtain ⟨t, u, us, rfl⟩ := hu.begins_unary
    -- in front of a brace the bang would begin an omission
    have noBrace : t.kind ≠ .openBrace := by
      intro ht
      simp [TokenStream.negationAhead, TokenStream.omissionAhead, hb, ht] at hn
    exact ⟨bang :: t :: u :: us, rfl, .negation hb noBrace hu⟩
  rw [check_bind] at h
  split at h
  · rename_i first
    obtain ⟨opening, m, ho, rfl⟩ := exists_head (by simpa using first) (by simp)
    rw [discard_advance_bind] at h
    obtain ⟨inner, m₁, second, h₁⟩ := bind_eq_ok h
    obtain ⟨u, m₂, third, h₂⟩ := bind_eq_ok h₁
    cases h₂
    obtain ⟨ts, rfl, hd⟩ := ih.disjunction second
    obtain ⟨closing, hc, rfl⟩ := discard_expect_eq_ok (by simp) third
    exact ⟨opening :: (ts ++ [closing]), by simp [TokenStream.prepend], .parentheses ho hd hc⟩
  · obtain ⟨left, m, first, h₁⟩ := bind_eq_ok h
    obtain ⟨ts, rfl, ho⟩ := ih.operand first
    obtain ⟨us, rfl, hc⟩ := ih.comparison h₁
    exact ⟨ts ++ us, by simp, .comparison ho hc⟩

theorem conjuncts_sound (ih : Sound fuel) {left node : Node}
    (h : conjuncts (fuel + 1) left s = .ok node s') :
    Reads s s' (Derives (.conjuncts left) · node) := by
  unfold conjuncts at h
  rw [check_bind] at h
  split at h
  · rename_i first
    obtain ⟨t, m, ht, rfl⟩ := exists_head (by simpa using first) (by simp)
    rw [discard_advance_bind] at h
    obtain ⟨right, m₁, second, h₁⟩ := bind_eq_ok h
    obtain ⟨ts, rfl, hu⟩ := ih.unary second
    obtain ⟨us, rfl, hc⟩ := ih.conjuncts h₁
    exact ⟨t :: (ts ++ us), by simp [TokenStream.prepend], .moreConjuncts ht hu hc⟩
  · cases h
    exact ⟨[], rfl, .noConjuncts⟩

theorem conjunction_sound (ih : Sound fuel) {node : Node}
    (h : conjunction (fuel + 1) none s = .ok node s') :
    Reads s s' (Derives .conjunction · node) := by
  unfold conjunction at h
  obtain ⟨left, m, first, h₁⟩ := bind_eq_ok h
  obtain ⟨ts, rfl, hu⟩ := ih.unary first
  obtain ⟨us, rfl, hc⟩ := ih.conjuncts h₁
  exact ⟨ts ++ us, by simp, .conjunction hu hc⟩

theorem disjuncts_sound (ih : Sound fuel) {left node : Node}
    (h : disjuncts (fuel + 1) left s = .ok node s') :
    Reads s s' (Derives (.disjuncts left) · node) := by
  unfold disjuncts at h
  rw [check_bind] at h
  split at h
  · rename_i first
    obtain ⟨t, m, ht, rfl⟩ := exists_head (by simpa using first) (by simp)
    rw [discard_advance_bind] at h
    obtain ⟨right, m₁, second, h₁⟩ := bind_eq_ok h
    obtain ⟨ts, rfl, hc⟩ := ih.conjunction second
    obtain ⟨us, rfl, hd⟩ := ih.disjuncts h₁
    exact ⟨t :: (ts ++ us), by simp [TokenStream.prepend], .moreDisjuncts ht hc hd⟩
  · cases h
    exact ⟨[], rfl, .noDisjuncts⟩

theorem disjunction_sound (ih : Sound fuel) {node : Node}
    (h : disjunction (fuel + 1) none s = .ok node s') :
    Reads s s' (Derives .disjunction · node) := by
  unfold disjunction at h
  obtain ⟨left, m, first, h₁⟩ := bind_eq_ok h
  obtain ⟨ts, rfl, hc⟩ := ih.conjunction first
  obtain ⟨us, rfl, hd⟩ := ih.disjuncts h₁
  exact ⟨ts ++ us, by simp, .disjunction hc hd⟩

theorem conjunctionBehind_sound (ih : Sound fuel) {left node : Node}
    (h : conjunction (fuel + 1) (some left) s = .ok node s') :
    Reads s s' fun ts => ∃ us vs first, ts = us ++ vs ∧ Derives (.compared left) us first ∧
      Derives (.conjuncts first) vs node := by
  unfold conjunction at h
  obtain ⟨middle, m, first, h₁⟩ := bind_eq_ok h
  obtain ⟨ts, rfl, hu⟩ := ih.unaryBehind first
  obtain ⟨us, rfl, hc⟩ := ih.conjuncts h₁
  exact ⟨ts ++ us, by simp, ts, us, middle, rfl, hu, hc⟩

theorem disjunctionBehind_sound (ih : Sound fuel) {left node : Node}
    (h : disjunction (fuel + 1) (some left) s = .ok node s') :
    Reads s s' (Derives (.continued left) · node) := by
  unfold disjunction at h
  obtain ⟨middle, m, first, h₁⟩ := bind_eq_ok h
  obtain ⟨ts, rfl, us, vs, start, rfl, hu, hc⟩ := ih.conjunctionBehind first
  obtain ⟨ws, rfl, hd⟩ := ih.disjuncts h₁
  exact ⟨us ++ (vs ++ ws), by simp, .continued hu hc hd⟩

theorem sound (fuel : Nat) : Sound fuel := by
  induction fuel with
  | zero => constructor <;> intros <;> contradiction
  | succ fuel ih =>
      exact {
        steps := steps_sound ih
        afterDot := afterDot_sound ih
        namedStep := namedStep_sound ih
        arguments := arguments_sound ih
        argument := argument_sound ih
        operand := operand_sound ih
        comparison := comparison_sound ih
        unary := unary_sound ih
        conjuncts := conjuncts_sound ih
        conjunction := conjunction_sound ih
        disjuncts := disjuncts_sound ih
        disjunction := disjunction_sound ih
        unaryBehind := ih.comparison
        conjunctionBehind := conjunctionBehind_sound ih
        disjunctionBehind := disjunctionBehind_sound ih }

/-! ### Whole queries -/

theorem headStep_sound {first : List Step} (h : headStep s = .ok first s') :
    Reads s s' (Head · first) ∧
      (first = [] → s = s' ∧ (s.head.kind = .property → isKeyword s.head)) := by
  unfold headStep at h
  rw [peek_bind] at h
  split at h
  · rename_i hk
    simp only [Bool.and_eq_true, beq_iff_eq, Bool.not_eq_true'] at hk
    rw [get_bind] at h
    obtain ⟨step, m, run, h₁⟩ := bind_eq_ok h
    cases h₁
    obtain ⟨ts, rfl, hn⟩ := (sound _).namedStep hk.1 run
    obtain ⟨t, us, rfl, -⟩ := hn.begins_named
    exact ⟨⟨t :: us, rfl, .name hk.2 hn⟩, by simp⟩
  · rename_i hk
    cases h
    refine ⟨⟨[], rfl, .none⟩, fun _ => ⟨rfl, ?_⟩⟩
    intro hp
    simpa [hp] using hk

theorem opensAlone_of_head {ts : List Token} {node : Node} (h : Derives .disjunction ts node)
    (hs : startsCondition (s.prepend ts).head.kind)
    (ho : (s.prepend ts).omissionAhead = false)
    (hk : (s.prepend ts).head.kind = .property → isKeyword (s.prepend ts).head) :
    opensAlone ts := by
  have condition := opensCondition_of_head h s
  obtain ⟨t, u, us, rfl⟩ := h.begins_disjunction
  rw [TokenStream.head_prepend_cons] at *
  simp only [startsCondition, Bool.or_eq_true, beq_iff_eq] at hs
  rcases hs with ((((hs | hs) | hs) | hs) | hs) | hs
  · simp [opensAlone, condition (.inl hs)]
  · have : (s.prepend (t :: u :: us)).negationAhead := by
      simp [TokenStream.negationAhead, hs, ho]
    simp [opensAlone, condition (.inr this)]
  · simp [opensAlone, hs]
  · simp [opensAlone, hs]
  · simp [opensAlone, hs]
  · simp [opensAlone, hk hs]

theorem trailingCondition_sound {path : List Step} {condition : Option Node}
    (h : trailingCondition path.isEmpty s = .ok condition s')
    (ho : path = [] → s.omissionAhead = false)
    (hk : path = [] → s.head.kind = .property → isKeyword s.head) :
    Reads s s' (Trail path · condition) := by
  unfold trailingCondition at h
  rw [get_bind, peek_bind] at h
  have kinds : (∃ op, s.head.kind = .comparator op) ∨
      (path.isEmpty && startsCondition s.head.kind) ∨ (condition = none ∧ s = s') := by
    cases hs : s.head.kind <;> rw [hs] at h <;> dsimp only at h <;> first
      | exact .inl ⟨_, rfl⟩
      | contradiction
      | skip
    all_goals
      right
      split at h
      · exact .inl ‹_›
      · cases h
        exact .inr ⟨rfl, rfl⟩
  rcases kinds with ⟨op, hs⟩ | hs | ⟨rfl, rfl⟩
  · rw [hs] at h
    obtain ⟨node, m, run, h₁⟩ := bind_eq_ok h
    cases h₁
    obtain ⟨ts, rfl, hd⟩ := (sound _).disjunctionBehind run
    exact ⟨ts, rfl, .continued hd⟩
  · have run : (some <$> disjunction (fuelFor s) none) s = .ok condition s' := by
      have hs' := (Bool.and_eq_true_iff.1 hs).2
      cases hk' : s.head.kind <;> simp [hk', startsCondition] at hs' <;> rw [hk'] at h hs <;>
        dsimp only at h <;> rw [if_pos hs] at h <;> exact h
    obtain ⟨node, read, rfl⟩ := map_eq_ok run
    obtain ⟨ts, rfl, hd⟩ := (sound _).disjunction read
    have empty : path = [] := by simpa using (Bool.and_eq_true_iff.1 hs).1
    refine ⟨ts, rfl, .alone empty ?_ hd⟩
    exact opensAlone_of_head hd (Bool.and_eq_true_iff.1 hs).2 (ho empty) (hk empty)
  · exact ⟨[], rfl, .none⟩

theorem queryBehind_sound {q : Query} {rootPosition : Nat}
    (h : queryBehind rootPosition s = .ok q s') :
    ∃ (m : TokenStream) (head path trail : List Token) (first steps : List Step)
      (condition : Option Node),
      s = m.prepend (head ++ (path ++ trail)) ∧ m.head.kind = .finish ∧ s' = m.tail ∧
        Head head first ∧ Derives .steps path steps ∧ Trail (first ++ steps) trail condition ∧
          q = ⟨⟨.root, rootPosition⟩ ::
            (first ++ steps ++ condition.toList.map (⟨·, start m.head.position trail⟩))⟩ := by
  unfold queryBehind at h
  obtain ⟨first, m₁, runHead, h₁⟩ := bind_eq_ok h
  rw [get_bind] at h₁
  obtain ⟨steps, m₂, runSteps, h₂⟩ := bind_eq_ok h₁
  dsimp only at h₂
  rw [peek_bind] at h₂
  obtain ⟨condition, m₃, runTrail, h₃⟩ := bind_eq_ok h₂
  rw [atStep_bind] at h₃
  split at h₃
  · cases h₃
  rw [check_bind] at h₃
  split at h₃
  · rename_i hf
    cases h₃
    obtain ⟨⟨head, hs₁, hh⟩, noHead⟩ := headStep_sound runHead
    obtain ⟨path, hs₂, hp⟩ := (sound _).steps runSteps
    -- a condition without a path begins where the steps would, and is none of them
    have noSteps : steps = [] → m₁ = m₂ ∧ m₁.omissionAhead = false := by
      rintro rfl
      rcases hp.begins_steps with ⟨rfl, -⟩ | ⟨-, some⟩
      · refine ⟨hs₂, ?_⟩
        cases ho : m₁.omissionAhead with
        | false => rfl
        | true => exact absurd rfl (steps_ne_nil runSteps (by simp [ho]))
      · exact absurd rfl some
    obtain ⟨trail, hs₃, ht⟩ := trailingCondition_sound runTrail
      (fun empty => by
        obtain ⟨rfl, ho⟩ := noSteps (List.append_eq_nil_iff.1 empty).2
        exact ho)
      (fun empty => by
        obtain ⟨rfl, hk⟩ := noHead (List.append_eq_nil_iff.1 empty).1
        obtain ⟨rfl, -⟩ := noSteps (List.append_eq_nil_iff.1 empty).2
        exact hk)
    subst hs₃ hs₂ hs₁
    refine ⟨m₃, head, path, trail, first, steps, condition, ?_, by simpa using hf, rfl, hh, hp, ht,
      ?_⟩
    · simp
    · rw [head_position]
  · cases h₃

/-- Soundness of queries: the tokens in front of the end token derive the query. -/
theorem query_sound {q : Query} (h : query s = .ok q s') :
    ∃ (m : TokenStream) (ts : List Token), s = m.prepend ts ∧ m.head.kind = .finish ∧
      s' = m.tail ∧ DerivesQuery m.head.position ts q := by
  rw [query_run] at h
  split at h
  · rename_i hr
    obtain ⟨root, m, hk, rfl⟩ := exists_head hr (by simp)
    obtain ⟨m', head, path, trail, first, steps, condition, he, hf, rfl, hh, hp, ht, rfl⟩ :=
      queryBehind_sound h
    have he : m = m'.prepend (head ++ (path ++ trail)) := he
    subst he
    exact ⟨m', [root] ++ (head ++ (path ++ trail)), rfl, hf, rfl,
      .mk (.inr ⟨root, hk, rfl⟩) hh hp ht⟩
  · obtain ⟨m', head, path, trail, first, steps, condition, rfl, hf, rfl, hh, hp, ht, rfl⟩ :=
      queryBehind_sound h
    refine ⟨m', [] ++ (head ++ (path ++ trail)), rfl, hf, rfl, ?_⟩
    rw [head_position]
    exact .mk (.inl rfl) hh hp ht

end PathQuery.Grammar
