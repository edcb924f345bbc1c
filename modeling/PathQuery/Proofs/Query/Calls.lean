import PathQuery.Proofs.Query.Fuel

/-!
Calling one parser again and again. A call begins where the one before it stopped, with an answer or
with an error, and so reads one query after another from a list with several end tokens. What keeps
such calls apart is that no phrase of the grammar contains an end token.
-/

namespace PathQuery

/-! ### Phrases contain no end token -/

namespace Grammar

/-- None of the tokens ends a query. -/
def Unended (ts : List Token) : Prop :=
  ∀ t ∈ ts, t.kind ≠ .finish

section

variable {ts us : List Token} {t : Token}

@[simp] theorem unended_nil : Unended [] := by
  simp [Unended]

@[simp] theorem unended_cons : Unended (t :: ts) ↔ t.kind ≠ .finish ∧ Unended ts :=
  List.forall_mem_cons

@[simp] theorem unended_append : Unended (ts ++ us) ↔ Unended ts ∧ Unended us :=
  List.forall_mem_append

theorem Keys.unended {admits : Token → Bool} {keys : List String}
    (some : ∀ t, admits t → t.kind ≠ .finish) (h : Keys admits ts keys) : Unended ts := by
  induction h with
  | one ht => simp [some _ ht]
  | more ht comma _ ih => simp [some _ ht, comma, ih]

theorem Group.unended {keys : List String} (h : Group ts keys) : Unended ts := by
  obtain ⟨opening, keys, closing⟩ := h
  have keys := keys.unended fun t ht => by
    simp only [isKey, Bool.or_eq_true, beq_iff_eq] at ht
    rcases ht with ht | ht <;> simp [ht]
  simp [opening, keys, closing]

theorem Bound.unended {i : Option Int} (h : Bound ts i) : Unended ts := by
  cases h with
  | none => simp
  | some number _ => simp [number]

theorem SliceStep.unended {i : Option Int} (h : SliceStep ts i) : Unended ts := by
  cases h with
  | none => simp
  | some colon step _ => simp [colon, step.unended]

theorem Inner.unended {node : Node} (h : Inner ts node) : Unended ts := by
  cases h with
  | star ht => simp [ht]
  | key ht => simp [ht]
  | keys ht comma keys =>
      have keys := keys.unended fun t (ht : t.kind == .string) => by simp_all
      simp [ht, comma, keys]
  | index ht _ => simp [ht]
  | slice start colon stop step => simp [start.unended, colon, stop.unended, step.unended]

theorem Derives.unended {x : Symbol} {r : x.Result} (h : Derives x ts r) : Unended ts := by
  induction h with
  | noSteps => simp
  | moreSteps _ _ step rest => simp [step, rest]
  | dotName dot _ name => simp [dot, name]
  | dotString dot ht => simp [dot, ht]
  | dotStar dot star => simp [dot, star]
  | dotGroup dot group => simp [dot, group.unended]
  | dotOmission dot bang group => simp [dot, bang, group.unended]
  | bracket opening inner closing => simp [opening, inner.unended, closing]
  | group group => exact group.unended
  | omission bang group => simp [bang, group.unended]
  | name ht => simp [ht]
  | emptyCall ht opening closing => simp [ht, opening, closing]
  | call ht opening _ closing args => simp [ht, opening, args, closing]
  | oneArgument _ arg => exact arg
  | moreArguments _ comma _ arg args => simp [arg, comma, args]
  | operandArgument _ operand => exact operand
  | comparedArgument _ _ left right => simp [left, right]
  | conditionArgument _ _ condition => exact condition
  | number ht _ => simp [ht]
  | string ht => simp [ht]
  | keyword ht => simp [isKeyword_kind ht]
  | fromName _ _ _ name rest => exact unended_append.2 ⟨name, rest⟩
  | fromRoot ht _ rest => simp [ht, rest]
  | fromCurrent ht _ rest => simp [ht, rest]
  | fromStep _ steps => exact steps
  | compared ht _ right => simp [ht, right]
  | negation bang _ _ inner => simpa [bang] using inner
  | parentheses opening _ closing inner => simp [opening, inner, closing]
  | comparison _ _ left right => simp [left, right]
  | conjunction _ _ left right => simp [left, right]
  | noConjuncts => simp
  | moreConjuncts ht _ _ first rest => simp [ht, first, rest]
  | disjunction _ _ left right => simp [left, right]
  | noDisjuncts => simp
  | moreDisjuncts ht _ _ first rest => simp [ht, first, rest]
  | continued _ _ _ first conjuncts disjuncts => simp [first, conjuncts, disjuncts]

theorem Head.unended {first : List Step} (h : Head ts first) : Unended ts := by
  cases h with
  | none => simp
  | name _ named => exact named.unended

theorem Trail.unended {path : List Step} {condition : Option Node} (h : Trail path ts condition) :
    Unended ts := by
  cases h with
  | none => simp
  | continued condition => exact condition.unended
  | alone _ _ condition => exact condition.unended

theorem DerivesQuery.unended {finish : Nat} {q : Query} (h : DerivesQuery finish ts q) :
    Unended ts := by
  obtain ⟨root, head, path, trail⟩ := h
  rcases root with rfl | ⟨t, ht, rfl⟩
  · simp [head.unended, path.unended, trail.unended]
  · simp [ht, head.unended, path.unended, trail.unended]

end

end Grammar

/-! ### One call after another -/

namespace TokenStream

/-- The tokens still to be read and the end token behind them. -/
def tokens (s : TokenStream) : List Token :=
  s.rest ++ [s.endToken]

theorem tokens_prepend (s : TokenStream) (ts : List Token) :
    (s.prepend ts).tokens = ts ++ s.tokens :=
  List.append_assoc ts s.rest [s.endToken]

theorem tokens_drop {s : TokenStream} {i : Nat} (h : i ≤ s.rest.length) :
    (s.drop i).tokens = s.tokens.drop i :=
  (List.drop_append_of_le_length h).symm

theorem exists_tokens (s : TokenStream) : ∃ later, s.tokens = s.head :: later := by
  obtain ⟨rest, finish⟩ := s
  cases rest with
  | nil => exact ⟨[], rfl⟩
  | cons t ts => exact ⟨_, rfl⟩

/-- How far a stream has gone on can be told from how many tokens are left. -/
theorem drop_passed (s : TokenStream) (i : Nat) :
    s.drop i = s.drop (s.rest.length - (s.drop i).rest.length) := by
  unfold drop
  congr 1
  rw [List.length_drop]
  rcases le_total i s.rest.length with inside | behind
  · rw [Nat.sub_sub_self inside]
  · rw [List.drop_of_length_le behind, Nat.sub_eq_zero_of_le behind, Nat.sub_zero, List.drop_length]

end TokenStream

namespace Parser

open Grammar

/-- Where a parser stands after some calls. It goes on where a call failed. -/
def afterCalls : Nat → TokenStream → TokenStream
  | 0, s => s
  | n + 1, s => reached (query (afterCalls n s))

/-- How many of the tokens a parser has behind it after some calls. -/
def cursor (s : TokenStream) (n : Nat) : Nat :=
  s.rest.length - (afterCalls n s).rest.length

/-- From the place `i` a query has been read up to the next end token. The parser is at `j` then:
behind that token, or at it when no other one follows. -/
inductive ReadTo (ts : List Token) (i j : Nat) (q : Query) : Prop
  | mk {body later : List Token} {finish : Token} :
      ts.drop i = body ++ finish :: later → Unended body → finish.kind = .finish →
        j = min (i + body.length + 1) (ts.length - 1) → DerivesQuery finish.position body q →
          ReadTo ts i j q

variable {s m : TokenStream} {q : Query}

theorem length_call_le (s : TokenStream) : (reached (query s)).rest.length ≤ s.rest.length := by
  obtain ⟨i, hi⟩ := reads_query.reached_drop s
  rw [hi]
  exact s.length_drop_le i

theorem afterCalls_eq_drop (s : TokenStream) (n : Nat) : afterCalls n s = s.drop (cursor s n) := by
  have some (n : Nat) : ∃ i, afterCalls n s = s.drop i := by
    induction n with
    | zero => exact ⟨0, rfl⟩
    | succ n ih =>
        obtain ⟨i, hi⟩ := ih
        obtain ⟨j, hj⟩ := reads_query.reached_drop (afterCalls n s)
        refine ⟨i + j, hj.trans ?_⟩
        rw [hi, TokenStream.drop_drop]
  obtain ⟨i, hi⟩ := some n
  rw [cursor, hi]
  exact s.drop_passed i

theorem cursor_le (s : TokenStream) (n : Nat) : cursor s n ≤ s.rest.length :=
  Nat.sub_le _ _

theorem cursor_mono (s : TokenStream) (n : Nat) : cursor s n ≤ cursor s (n + 1) :=
  Nat.sub_le_sub_left (length_call_le _) _

theorem readTo_of_call {n : Nat} (h : query (afterCalls n s) = .ok q m) :
    ReadTo s.tokens (cursor s n) (cursor s (n + 1)) q := by
  have stands := afterCalls_eq_drop s n
  have inside := cursor_le s n
  have after : afterCalls (n + 1) s = m := by rw [afterCalls, h, reached]
  obtain ⟨at_, body, split, finish, rfl, derived⟩ := query_sound h
  obtain ⟨later, tokens⟩ := at_.exists_tokens
  have ahead : s.tokens.drop (cursor s n) = body ++ at_.head :: later := by
    rw [← TokenStream.tokens_drop inside, ← stands, split, TokenStream.tokens_prepend, tokens]
  refine .mk ahead derived.unended finish ?_ derived
  have left : s.rest.length - cursor s n = body.length + at_.rest.length := by
    rw [← TokenStream.length_rest_prepend, ← split, stands]
    simp [TokenStream.drop]
  rw [cursor, after]
  simp only [TokenStream.tokens, TokenStream.tail, List.length_tail, List.length_append,
    List.length_singleton, Nat.add_sub_cancel]
  omega

/-- However often a parser is called on any tokens, and whatever it has answered before, its loops
and its recursion come to an end wherever it stands, it never goes back and stays at one of the
tokens, and a query it answers is made of all the tokens up to the next end token. -/
theorem calls_safe (ts : List Token) (n : Nat) :
    let s := TokenStream.ofTokens ts
    (∀ i, Terminates (s.drop i)) ∧
      afterCalls n s = s.drop (cursor s n) ∧
        cursor s n ≤ cursor s (n + 1) ∧
          cursor s n < s.tokens.length ∧
            ∀ q m, query (afterCalls n s) = .ok q m →
              ReadTo s.tokens (cursor s n) (cursor s (n + 1)) q := by
  intro s
  refine ⟨fun i => terminates _, afterCalls_eq_drop s n, cursor_mono s n, ?_, ?_⟩
  · simpa [TokenStream.tokens] using Nat.lt_succ_of_le (cursor_le s n)
  · exact fun q m => readTo_of_call

/-- A call fails at a dot that nothing follows. The next one takes the end token behind the dot, and
the one after that reads a name. -/
theorem calls_safe_behind_error :
    let s := TokenStream.ofTokens
      [⟨.dot, ".", 0⟩, ⟨.finish, "", 1⟩, ⟨.property, "a", 2⟩, ⟨.finish, "", 3⟩]
    (∃ e m, query s = .error e m) ∧
      ReadTo s.tokens (cursor s 1) (cursor s 2) ⟨[⟨.root, 1⟩]⟩ ∧
        ReadTo s.tokens (cursor s 2) (cursor s 3) ⟨[⟨.root, 2⟩, ⟨.property "a", 2⟩]⟩ := by
  intro s
  refine ⟨⟨_, _, rfl⟩, ?_, ?_⟩
  · exact (calls_safe _ 1).2.2.2.2 _ _ rfl
  · exact (calls_safe _ 2).2.2.2.2 _ _ rfl

end Parser

end PathQuery
