import PathQuery.Proofs.Query.Lexemes

/-!
The text of a parsed tree is scanned as the tokens of the tree.
-/

namespace PathQuery

open Scanner

/-! ### Keys, brackets and literals -/

section

variable {dot : Bool} {rest : List Char}

theorem endsNumeral_cons {c : Char} {cs : List Char} (h : isIdentifierChar c = false ∧ c ≠ '.') :
    EndsNumeral (c :: cs) := by
  intro d hd
  cases hd
  exact h

theorem spells_key (key : String) (hr : EndsName rest) (dot : Bool) :
    Spells dot (keyChars key ++ rest) [keyToken key] false rest := by
  unfold keyChars keyToken
  split
  · rename_i hp
    simp only [isPlainKey, Bool.and_eq_true, List.all_eq_true] at hp
    obtain ⟨first, chars⟩ := hp
    obtain ⟨c, cs, hk⟩ : ∃ c cs, key.toList = c :: cs := by
      cases hk : key.toList with
      | nil => simp [hk] at first
      | cons c cs => exact ⟨c, cs, rfl⟩
    have text : String.ofList (c :: cs) = key := by rw [← hk, String.ofList_toList]
    rw [hk] at first chars ⊢
    have word := spells_word first chars hr dot
    rwa [text] at word
  · exact spells_string key dot rest

theorem keyListChars_cons (key next : String) (others : List String) :
    keyListChars (key :: next :: others) =
      keyChars key ++ ',' :: keyListChars (next :: others) := by
  simp [keyListChars, List.intercalate]

theorem spells_keys {keys : List String} (some : keys ≠ []) (hr : EndsName rest) (dot : Bool) :
    Spells dot (keyListChars keys ++ rest) (keyTokens keys) false rest := by
  induction keys generalizing dot with
  | nil => exact absurd rfl some
  | cons key others ih =>
      cases others with
      | nil =>
          have alone : keyListChars [key] = keyChars key := by simp [keyListChars]
          rw [alone]
          exact spells_key key hr dot
      | cons next others =>
          rw [keyListChars_cons, List.append_assoc, List.cons_append]
          have comma : EndsName (',' :: (keyListChars (next :: others) ++ rest)) :=
            (endsNumeral_cons (by decide)).endsName
          exact (spells_key key comma dot).cons
            ((spells_single "," rfl rfl _ _).cons (ih (by simp) false))

theorem spells_group {keys : List String} (some : keys ≠ []) (dot : Bool) (rest : List Char) :
    Spells dot ('\x7b' :: (keyListChars keys ++ ['\x7d']) ++ rest) (groupTokens keys) false
      rest := by
  rw [List.cons_append, List.append_assoc]
  have brace : EndsName ('\x7d' :: rest) := (endsNumeral_cons (by decide)).endsName
  have keys := (spells_keys some brace false).append (spells_single "\x7d" rfl rfl false rest)
  exact (spells_single "\x7b" rfl rfl dot _).cons keys

theorem spells_int (i : Int) (hr : EndsNumeral rest) :
    Spells false (Number.intChars i ++ rest) [intToken i] false rest := by
  rw [intToken, ← Number.chars_intNumeral]
  exact spells_numeral (Number.wellFormed_intNumeral i) hr

theorem spells_bound (i : Option Int) (hr : EndsNumeral rest) :
    Spells false (boundChars i ++ rest) (boundTokens i) false rest := by
  cases i with
  | none => exact spells_nil
  | some i => exact spells_int i hr

theorem spells_index (i : Int) (rest : List Char) :
    Spells dot ((Node.index i).chars ++ rest) (Node.index i).tokens false rest := by
  rw [Node.chars, Node.tokens, List.cons_append, List.append_assoc]
  have bracket : EndsNumeral (']' :: rest) := endsNumeral_cons (by decide)
  exact (spells_single "[" rfl rfl _ _).cons
    ((spells_int i bracket).cons (spells_single "]" rfl rfl _ _))

theorem spells_slice (s : Slice) (rest : List Char) :
    Spells dot (s.chars ++ rest) s.tokens false rest := by
  have bracket : EndsNumeral (']' :: rest) := endsNumeral_cons (by decide)
  have colon {cs : List Char} : EndsNumeral (':' :: cs) := endsNumeral_cons (by decide)
  have closing := spells_single "]" rfl rfl false rest
  have start {cs : List Char} {ts : List Token} (h : Spells false cs ts false rest) :
      Spells dot ('[' :: (boundChars s.start ++ ':' :: cs))
        (lexeme .openBracket "[" :: (boundTokens s.start ++ lexeme .colon ":" :: ts)) false rest :=
    (spells_single "[" rfl rfl _ _).cons
      ((spells_bound s.start colon).append ((spells_single ":" rfl rfl _ _).cons h))
  unfold Slice.chars Slice.tokens Slice.stepTokens
  cases s.step with
  | none =>
      simp only [List.cons_append, List.append_assoc, List.nil_append, List.append_nil]
      exact start ((spells_bound s.stop bracket).append closing)
  | some i =>
      simp only [List.cons_append, List.append_assoc, List.nil_append]
      have step : Spells false (':' :: (Number.intChars i ++ ']' :: rest))
          [lexeme .colon ":", intToken i, lexeme .closeBracket "]"] false rest :=
        (spells_single ":" rfl rfl _ _).cons ((spells_int i bracket).cons closing)
      exact start ((spells_bound s.stop colon).append step)

theorem spells_literal {value : Json} (h : value.IsLiteral) (hr : EndsNumeral rest) :
    Spells false (value.chars ++ rest) [value.token] false rest := by
  have word (c : Char) (cs : List Char) (hc : startsIdentifier c)
      (h : (c :: cs).all isIdentifierChar) (hk : wordKind (c :: cs) = .property) :
      Spells false (c :: cs ++ rest) [lexeme .property (String.ofList (c :: cs))] false rest := by
    have spelled := spells_word hc (List.all_eq_true.1 h) hr.endsName false
    rwa [hk] at spelled
  cases value with
  | null => exact word 'n' ['u', 'l', 'l'] rfl rfl rfl
  | bool b =>
      cases b with
      | true => exact word 't' ['r', 'u', 'e'] rfl rfl rfl
      | false => exact word 'f' ['a', 'l', 's', 'e'] rfl rfl rfl
  | number n =>
      cases n with
      | int i => exact spells_int i hr
      | float x =>
          have spelled := spells_numeral (Number.wellFormed_floatNumeral x) hr
          rwa [Number.chars_floatNumeral] at spelled
  | string s => exact spells_string s false rest
  | array _ => exact h.elim
  | object _ => exact h.elim

end

/-! ### Trees -/

/-- What may stand behind a node of the role. -/
def Role.Ends : Role → List Char → Prop
  | .step => EndsName
  | .operand | .condition | .argument => EndsNumeral

/-- A step goes on from no name. -/
theorem Node.Formed.step_head {named : String → Prop} {n : Node} (h : n.Formed named .step) :
    ∃ c cs, n.chars = c :: cs ∧ isIdentifierChar c = false := by
  cases h with
  | property | wildcard | call => exact ⟨'.', _, rfl, by decide⟩
  | index | slice => exact ⟨'[', _, rfl, by decide⟩
  | multiKey => exact ⟨'\x7b', _, rfl, by decide⟩
  | omission => exact ⟨'!', _, rfl, by decide⟩

theorem spells_steps {named : String → Prop} {steps : List Step}
    (hf : ∀ s ∈ steps, s.node.Formed named .step)
    (h : ∀ s ∈ steps, ∀ rest, EndsName rest →
      Spells false (s.node.chars ++ rest) s.node.tokens false rest)
    {rest : List Char} (hr : EndsName rest) :
    Spells false (Node.stepChars steps ++ rest) (Node.tokensOfSteps steps) false rest := by
  induction steps with
  | nil => exact spells_nil
  | cons s others ih =>
      obtain ⟨n, position⟩ := s
      rw [Node.stepChars, Node.tokensOfSteps, List.append_assoc]
      have behind : EndsName (Node.stepChars others ++ rest) := by
        cases others with
        | nil => exact hr
        | cons s others =>
            obtain ⟨c, cs, hs, hc⟩ := (hf s (by simp)).step_head
            obtain ⟨n, position⟩ := s
            intro d hd
            rw [Node.stepChars, hs] at hd
            cases hd
            exact hc
      have first := h ⟨n, position⟩ (by simp) _ behind
      refine first.append (ih ?_ ?_)
      · exact fun s hs => hf s (List.mem_cons_of_mem _ hs)
      · exact fun s hs => h s (List.mem_cons_of_mem _ hs)

theorem spells_arguments {args : List Node}
    (h : ∀ arg ∈ args, ∀ rest, EndsNumeral rest →
      Spells false (arg.chars ++ rest) arg.tokens false rest) (rest : List Char) :
    Spells false (Node.argumentChars args ++ ')' :: rest) (Node.tokensOfAll args) false
      (')' :: rest) := by
  induction args with
  | nil => exact spells_nil
  | cons arg others ih =>
      cases others with
      | nil => exact h arg (by simp) _ (endsNumeral_cons (by decide))
      | cons next others =>
          rw [Node.argumentChars, Node.tokensOfAll, List.append_assoc, List.cons_append,
            List.cons_append]
          · have behind := (ih fun a ha => h a (List.mem_cons_of_mem _ ha)).blank
            refine (h arg (by simp) _ (endsNumeral_cons (by decide))).append ?_
            exact (spells_single "," rfl rfl _ _).cons behind
          all_goals simp

/-- A sign between blanks joins two texts. -/
theorem spells_joined {left right sign rest : List Char} {ts us : List Token} {op : Token}
    (hl : ∀ rest, EndsNumeral rest → Spells false (left ++ rest) ts false rest)
    (ho : ∀ rest, Spells false (sign ++ ' ' :: rest) [op] false (' ' :: rest))
    (hr : Spells false (right ++ rest) us false rest) :
    Spells false (left ++ ' ' :: sign ++ ' ' :: right ++ rest) (ts ++ op :: us) false rest := by
  simp only [List.append_assoc, List.cons_append]
  exact (hl _ (endsNumeral_cons (by decide))).append ((ho _).blank.cons hr.blank)

/-- What is between parentheses may be any condition. -/
theorem spells_parentheses {inner rest : List Char} {ts : List Token} (dot : Bool)
    (h : Spells false (inner ++ ')' :: rest) ts false (')' :: rest)) :
    Spells dot ('(' :: (inner ++ [')']) ++ rest)
      (lexeme .openParen "(" :: (ts ++ [lexeme .closeParen ")"])) false rest := by
  simp only [List.append_assoc, List.cons_append, List.nil_append]
  exact (spells_single "(" rfl rfl _ _).cons (h.append (spells_single ")" rfl rfl _ _))

/-- A bang in front of a parenthesis or a brace. -/
theorem spells_bang {c : Char} {cs rest : List Char} {ts : List Token} (hc : c ≠ '=')
    (h : Spells false (c :: cs) ts false rest) :
    Spells false ('!' :: c :: cs) (lexeme .bang "!" :: ts) false rest := by
  have bang : operator? '!' ([] ++ c :: cs).head? = some (.ok (.bang, ['!'])) := by
    simp [operator?, hc]
  exact (spells_operator (c := '!') "!" false (c :: cs) bang rfl).cons h

/-- The text of a formed node is scanned as its tokens. -/
theorem Node.Formed.spells {role : Role} {n : Node}
    (h : n.Formed (fun name => IsName name.toList) role) {rest : List Char} (hr : role.Ends rest) :
    Spells false (n.chars ++ rest) n.tokens false rest := by
  have closes {cs : List Char} : EndsNumeral (')' :: cs) := endsNumeral_cons (by decide)
  induction h generalizing rest with
  | @property name =>
      exact (spells_single "." rfl rfl _ _).cons (spells_key name hr true)
  | index _ => exact spells_index _ rest
  | slice _ => exact spells_slice _ rest
  | wildcard =>
      exact (spells_single "." rfl rfl _ _).cons (spells_single "*" rfl rfl _ _)
  | multiKey some => exact spells_group some false rest
  | omission some => exact spells_bang (by decide) (spells_group some false rest)
  | @call name args hn _ ih =>
      have opens : EndsName ('(' :: (Node.argumentChars args ++ ')' :: rest)) :=
        (endsNumeral_cons (by decide)).endsName
      have word := spells_name hn opens
      have behind := spells_parentheses false
        (spells_arguments (fun arg ha rest hr => ih arg ha hr) rest)
      rw [String.ofList_toList] at word
      rw [Node.chars, Node.tokens]
      simp only [List.append_assoc, List.cons_append, List.nil_append] at behind ⊢
      exact (spells_single "." rfl rfl _ _).cons (word.cons behind)
  | literal hv => exact spells_literal hv hr
  | current => exact spells_single "@" rfl rfl _ _
  | fromRoot hs ih =>
      have behind := spells_steps hs (fun s h rest hr => ih s h hr) hr.endsName
      exact (spells_single "$" rfl rfl _ _).cons behind
  | fromCurrent _ hs ih =>
      have behind := spells_steps hs (fun s h rest hr => ih s h hr) hr.endsName
      exact (spells_single "@" rfl rfl _ _).cons behind
  | @comparison op _ _ _ _ left right =>
      exact spells_joined (fun rest hr => left hr) (spells_comparator op false) (right hr)
  | @condition op _ _ _ _ left right =>
      refine spells_parentheses false ?_
      exact spells_joined (fun rest hr => left hr)
        (fun rest => spells_connective op false (' ' :: rest)) (right closes)
  | not _ inner => exact spells_bang (by decide) (spells_parentheses false (inner closes))
  | operandArgument _ operand => exact operand hr
  | conditionArgument _ condition => exact condition hr

end PathQuery
