import Mathlib
import PathQuery.Proofs.Query.Completeness
import PathQuery.Proofs.Query.PrintedText
import PathQuery.Proofs.Query.Soundness
import PathQuery.Proofs.Query.Traces

/-!
Which queries are read back, positions apart, from the text they are printed as. A key that is
spelled like a connective is in the way of any query. Beyond that paths always are, and a condition
is only where it stands alone and does not begin at the root.
-/

namespace PathQuery

open Grammar Scanner

variable {named : String → Prop}

/-! ### Reading and printing -/

theorem isPredicate_relocate (f : Nat → Nat) (q : Query) :
    (q.relocate f).isPredicate = q.isPredicate := by
  have same (n : Node) : (n.relocate f).isCondition = n.isCondition := by cases n <;> rfl
  simp only [Query.isPredicate, Query.condition?, Query.relocate, List.getLast?_map]
  cases q.steps.getLast? with
  | none => rfl
  | some s =>
      simp only [Option.map_some, Option.filter_some, Step.relocate, same]
      split <;> rfl

theorem query_iff {ts : List Token} {finish : Nat} {q : Query}
    (ht : ∀ t ∈ ts, t.kind ≠ .finish) :
    (∃ s', Parser.query ⟨ts, finish⟩ = .ok q s') ↔ DerivesQuery finish ts q := by
  constructor
  · rintro ⟨s', h⟩
    obtain ⟨m, us, hs, hm, -, hd⟩ := query_sound h
    obtain ⟨rest, finish'⟩ := m
    simp only [TokenStream.prepend, TokenStream.mk.injEq] at hs
    obtain ⟨rfl, rfl⟩ := hs
    cases rest with
    | nil => rwa [List.append_nil]
    | cons t rest => exact absurd hm (ht t (by simp))
  · intro h
    have read := query_complete (s := ⟨[], finish⟩) h rfl
    rw [TokenStream.prepend, List.append_nil] at read
    exact ⟨_, read⟩

theorem parse_of_tokenize {text : String} {ts : List Token} (h : tokenize text = .ok ts) :
    Query.parse text = Query.ofTokens ts := by
  unfold Query.parse
  rw [h]
  rfl

theorem ofTokens_eq (ts : List Token) :
    Query.ofTokens ts = match Parser.query (TokenStream.ofTokens ts) with
      | .ok q _ => .ok q
      | .error e _ => .error e := by
  unfold Query.ofTokens EStateM.run
  cases Parser.query (TokenStream.ofTokens ts) <;> rfl

/-- Queries that are parsed are formed, and their calls have names that the scanner knows. -/
theorem formed_of_parse {text : String} {q : Query} (h : Query.parse text = .ok q) :
    q.Formed (fun name => IsName name.toList) := by
  cases ht : tokenize text with
  | error e =>
      rw [Query.parse, ht] at h
      cases h
  | ok ts =>
      rw [parse_of_tokenize ht] at h
      obtain ⟨us, finish, rfl, hf, kinds⟩ := tokens_sound ht
      have stream : TokenStream.ofTokens (us ++ [finish]) = ⟨us, finish.position⟩ := by
        simp [TokenStream.ofTokens, hf]
      rw [ofTokens_eq, stream] at h
      split at h
      · rename_i read
        cases h
        have derived := (query_iff fun t ht => (kinds t ht).1).1 ⟨_, read⟩
        exact derived.formed fun t ht hp => (kinds t ht).2 hp
      · cases h

/-- A text that is scanned as tokens without positions is read as the parser reads those. -/
theorem parse_iff {text : String} {ts : List Token} {q : Query}
    (h : ∃ offset, Scans (ofString text) ts ⟨⟨[], offset⟩, false⟩) :
    (∃ q', Query.parse text = .ok q' ∧ q'.bare = q) ↔ DerivesQuery 0 ts q := by
  obtain ⟨offset, h⟩ := h
  obtain ⟨us, rfl, kinds, tokens⟩ := h.tokens
  have last : (⟨⟨[], offset⟩, false⟩ : Scanner).tokens = .ok [⟨.finish, "", offset⟩] := by
    rw [tokens_eq]
    rfl
  have stream : TokenStream.ofTokens (us ++ [⟨.finish, "", offset⟩]) = ⟨us, offset⟩ := by
    simp [TokenStream.ofTokens]
  have tokenized : tokenize text = .ok (us ++ [⟨.finish, "", offset⟩]) := by
    rw [tokenize, tokens, last, Except.map]
  have parsed : Query.parse text = match Parser.query ⟨us, offset⟩ with
      | .ok q _ => .ok q
      | .error e _ => .error e := by
    rw [parse_of_tokenize tokenized, ofTokens_eq, stream]
  have bare : ∀ t ∈ us.map (Token.relocate fun _ => 0), t.kind ≠ .finish := by
    intro t ht
    obtain ⟨u, hu, rfl⟩ := List.mem_map.1 ht
    exact kinds u hu
  -- the tokens differ in their positions alone, and the parser moves with these
  have moved := Parser.moves_query (f := fun _ => 0) ⟨us, offset⟩
  rw [← query_iff bare, parsed]
  change Parser.query ⟨us.map (Token.relocate fun _ => 0), 0⟩ = _ at moved
  rw [moved]
  cases Parser.query ⟨us, offset⟩ with
  | ok q' s' => simp
  | error e s' => simp

/-- The text of steps, one after the other. -/
theorem stepChars_formed {path : List Step} (hp : ∀ s ∈ path, s.node.Formed named .step) :
    path.flatMap (fun s => if s.node.isCondition then ' ' :: s.node.chars else s.node.chars) =
      Node.stepChars path := by
  induction path with
  | nil => rfl
  | cons s rest ih =>
      have others := ih fun r hr => hp r (List.mem_cons_of_mem _ hr)
      rw [List.flatMap_cons, others, (hp s (by simp)).isCondition.1 rfl]
      rfl

theorem text_formed {rootPosition position : Nat} {path : List Step} {condition : Option Node}
    (hp : ∀ s ∈ path, s.node.Formed named .step)
    (hc : ∀ c ∈ condition, c.Formed named .condition) :
    (Query.text ⟨⟨.root, rootPosition⟩ ::
      (path ++ condition.toList.map (⟨·, position⟩))⟩).toList =
        '$' :: (Node.stepChars path ++ condition.elim [] fun c => ' ' :: c.chars) := by
  unfold Query.text
  rw [String.toList_ofList, List.flatMap_cons, List.flatMap_append, stepChars_formed hp]
  cases condition with
  | none => rfl
  | some c =>
      have last := (hc c rfl).isCondition.2 rfl
      have root : Node.root.isCondition = false := rfl
      simp [root, Node.chars, last]

theorem tokens_formed (rootPosition position : Nat) (path : List Step) (condition : Option Node) :
    Query.tokens ⟨⟨.root, rootPosition⟩ :: (path ++ condition.toList.map (⟨·, position⟩))⟩ =
      lexeme .root "$" :: (Node.tokensOfSteps path ++ condition.elim [] Node.tokens) := by
  unfold Query.tokens
  rw [List.flatMap_cons, List.flatMap_append, Node.tokensOfSteps_eq_flatMap]
  cases condition <;> simp [Node.tokens]

/-- The text of a formed query is scanned as its tokens. -/
theorem scans_text {q : Query} (h : q.Formed (fun name => IsName name.toList)) :
    ∃ offset, Scans (ofString q.text) q.tokens ⟨⟨[], offset⟩, false⟩ := by
  cases h with
  | @mk rootPosition position path condition hp hc =>
      have steps {rest : List Char} (hr : EndsName rest) :
          Spells false ('$' :: (Node.stepChars path ++ rest))
            (lexeme .root "$" :: Node.tokensOfSteps path) false rest :=
        (spells_single "$" rfl rfl _ _).cons
          (spells_steps hp (fun s hs rest hr => (hp s hs).spells hr) hr)
      unfold ofString
      rw [text_formed hp hc, tokens_formed]
      cases condition with
      | none =>
          have path : Spells false ('$' :: (Node.stepChars path ++ []))
              (lexeme .root "$" :: Node.tokensOfSteps path) false [] := steps (by simp [EndsName])
          simpa using path 0
      | some c =>
          have ends : Role.condition.Ends [] := by simp [Role.Ends, EndsNumeral]
          have last := ((hc c rfl).spells ends).blank
          rw [List.append_nil] at last
          -- the blank in front of the condition ends the last name of the path
          have blank : EndsName (' ' :: c.chars) := (endsNumeral_cons (by decide)).endsName
          exact (steps blank).append last 0

/-! ### Texts that are read back -/

/-- The condition compares a path from the root with something. -/
def Node.comparesFromRoot : Node → Bool
  | .comparison _ (.path (⟨.root, _⟩ :: _)) _ => true
  | _ => false

/-- Nothing stands before the condition of the query but the root, and the condition does not begin
at the root once more. -/
def Query.standsAlone (q : Query) : Bool :=
  q.steps.length == 2 && !q.condition?.any Node.comparesFromRoot

theorem standsAlone_formed {rootPosition position : Nat} {path : List Step} {c : Node}
    (hp : ∀ s ∈ path, s.node.Formed named .step) (hc : c.Formed named .condition) :
    Query.standsAlone ⟨⟨.root, rootPosition⟩ :: (path ++ [⟨c, position⟩])⟩ ↔
      path = [] ∧ c.comparesFromRoot = false := by
  have formed : ∀ d ∈ some c, d.Formed named .condition := by
    intro d hd
    cases hd
    exact hc
  have last : Query.condition? ⟨⟨.root, rootPosition⟩ :: (path ++ [⟨c, position⟩])⟩ = some c :=
    condition?_formed rootPosition position hp formed
  simp [Query.standsAlone, last]

theorem opensAlone_formed {c : Node} (h : c.Formed named .condition)
    (hr : c.comparesFromRoot = false) : opensAlone c.tokens := by
  have operand {t : Token} {ts : List Token} (ht : t.kind = .number ∨ t.kind = .string ∨
      t.kind = .current ∨ Parser.isKeyword t) : opensAlone (t :: ts) := by
    rcases ht with ht | ht | ht | ht <;> simp [opensAlone, ht]
  cases h with
  | @comparison op left right hl _ =>
      rw [Node.tokens]
      cases hl with
      | @literal value hv =>
          refine operand (t := value.token) ?_
          cases value with
          | null => exact .inr (.inr (.inr rfl))
          | bool b => cases b <;> exact .inr (.inr (.inr rfl))
          | number _ => exact .inl rfl
          | string _ => exact .inr (.inl rfl)
          | array _ => exact hv.elim
          | object _ => exact hv.elim
      | current => rfl
      | fromRoot => cases hr
      | fromCurrent =>
          rw [Node.tokens, Node.tokensOfSteps, Node.tokens]
          exact operand (.inr (.inr (.inl rfl)))
  | @condition _ left _ _ _ =>
      rw [Node.tokens]
      cases left.tokens <;> rfl
  | not _ => rfl

theorem Scanner.Scans.positions {s e : Scanner} {ts : List Token} (h : Scans s ts e) :
    ∀ t ∈ ts, t.position = 0 := by
  induction h with
  | none => simp
  | more _ _ _ ih => simpa using ⟨rfl, ih⟩
  | blank _ ih => exact ih

/-- Without keys that are taken for connectives, the tokens of a path are the path, and those of a
condition that stands alone are the condition. -/
theorem derivesQuery_tokens {q : Query} (h : q.Formed (fun name => IsName name.toList))
    (hk : ∀ k ∈ q.keys, k ≠ "and" ∧ k ≠ "or") (hs : q.isPredicate → q.standsAlone) :
    DerivesQuery 0 q.tokens q.bare := by
  obtain ⟨_, scans⟩ := scans_text h
  have positions := scans.positions
  cases h with
  | @mk rootPosition position path condition hp hc =>
      rw [tokens_formed] at *
      have keys : ∀ s ∈ path, ∀ k ∈ s.node.keys, k ≠ "and" ∧ k ≠ "or" := by
        intro s hs k h
        refine hk k ?_
        simp only [Query.keys, List.mem_flatMap]
        exact ⟨s, by simp [hs], h⟩
      have steps := derives_steps fun s hs => (hp s hs).rereads (keys s hs)
      rw [← Node.tokensOfSteps_eq_flatMap] at steps
      have root : ∃ t : Token, t.kind = .root ∧ [lexeme .root "$"] = [t] :=
        ⟨lexeme .root "$", rfl, rfl⟩
      cases condition with
      | none =>
          have whole : DerivesQuery 0
              ([lexeme .root "$"] ++ ([] ++ (Node.tokensOfSteps path ++ [])))
              ⟨⟨.root, 0⟩ :: ([] ++ path.map (Step.relocate fun _ => 0) ++ [])⟩ :=
            .mk (.inr root) .none steps .none
          simpa [Query.relocate, Step.relocate, Node.relocate] using whole
      | some c =>
          have predicate : Query.isPredicate
              ⟨⟨.root, rootPosition⟩ :: (path ++ [⟨c, position⟩])⟩ := by
            have last : Query.condition? ⟨⟨.root, rootPosition⟩ :: (path ++ [⟨c, position⟩])⟩ =
                some c := condition?_formed rootPosition position hp hc
            rw [Query.isPredicate, last]
            rfl
          obtain ⟨rfl, hr⟩ := (standsAlone_formed hp (hc c rfl)).1 (hs predicate)
          have reread := (hc c rfl).rereads fun k h => hk k (by simp [Query.keys, h])
          have trail : Trail [] c.tokens (some c.bare) :=
            .alone rfl (opensAlone_formed (hc c rfl) hr) reread.1.disjunction_of_unary
          have whole : DerivesQuery 0 ([lexeme .root "$"] ++ ([] ++ ([] ++ c.tokens)))
              ⟨⟨.root, 0⟩ :: ([] ++ [] ++ [⟨c.bare, start 0 c.tokens⟩])⟩ :=
            .mk (.inr root) .none .noSteps trail
          have start : start 0 c.tokens = 0 := by
            cases ht : c.tokens with
            | nil => rfl
            | cons t ts => exact positions t (by simp [ht])
          rw [start] at whole
          simpa [Query.relocate, Step.relocate, Node.relocate, Node.tokensOfSteps] using whole

/-- The root is written once at most. -/
theorem Grammar.DerivesQuery.second_ne_root {finish : Nat} {t u : Token} {us : List Token}
    {q : Query} (h : DerivesQuery finish (t :: u :: us) q) (ht : t.kind = .root) :
    u.kind ≠ .root := by
  generalize hts : t :: u :: us = ts at h
  cases h with
  | @mk root head path trail first steps condition hr hh hp htr =>
      have noRoot := head_ne_root (s := ⟨[], 0⟩) hh hp htr rfl
      rcases hr with rfl | ⟨r, -, rfl⟩
      · rw [List.nil_append] at hts
        rw [← hts] at noRoot
        exact absurd ht noRoot
      · simp only [List.singleton_append, List.cons.injEq] at hts
        rw [← hts.2] at noRoot
        exact noRoot

/-- What is read back has no key that is taken for a connective, and a condition in it stands
alone. -/
theorem standsAlone_of_derivesQuery {q : Query} (h : q.Formed named)
    (hd : DerivesQuery 0 q.tokens q.bare) :
    (∀ k ∈ q.keys, k ≠ "and" ∧ k ≠ "or") ∧ (q.isPredicate → q.standsAlone) := by
  -- a connective among the keys, or a condition behind a path, would give the tokens more
  -- traces than the tree they are read as
  have counted := h.counted
  obtain ⟨all, strict⟩ := hd.traces_le
  refine ⟨fun k hk => ?_, fun predicate => ?_⟩
  · have none : q.keys.countP isConnectiveWord = 0 := by omega
    have plain := List.countP_eq_zero.1 none k hk
    simpa [isConnectiveWord] using plain
  have two : q.steps.length = 2 := by
    rcases strict (by rwa [isPredicate_relocate]) with h | h
    · simpa [Query.relocate] using h
    · omega
  cases h with
  | @mk rootPosition position path condition hp hc =>
      cases condition with
      | none =>
          rw [Query.isPredicate, condition?_formed _ _ hp hc] at predicate
          cases predicate
      | some c =>
          have alone : path = [] := by
            rw [← List.length_eq_zero_iff]
            simpa using two
          refine (standsAlone_formed hp (hc c rfl)).2 ⟨alone, ?_⟩
          subst alone
          rw [tokens_formed] at hd
          cases hr : c.comparesFromRoot with
          | false => rfl
          | true =>
              -- the text would begin with the root twice
              unfold Node.comparesFromRoot at hr
              split at hr
              · simp only [Option.elim_some, Node.tokensOfSteps, Node.tokens, List.nil_append,
                  List.cons_append] at hd
                exact absurd rfl (hd.second_ne_root rfl)
              · cases hr

/-- A query is read back, positions apart, from its text just when no key is taken for a
connective and a condition in it stands alone. -/
theorem reread_iff {text : String} {q : Query} (h : Query.parse text = .ok q) :
    (∃ q', Query.parse q.text = .ok q' ∧ q'.bare = q.bare) ↔
      (∀ k ∈ q.keys, k ≠ "and" ∧ k ≠ "or") ∧ (q.isPredicate → q.standsAlone) := by
  have formed := formed_of_parse h
  rw [parse_iff (scans_text formed)]
  exact ⟨standsAlone_of_derivesQuery formed, fun ⟨hk, hs⟩ => derivesQuery_tokens formed hk hs⟩

/-- Paths are read back from their text, unless a key in them is spelled like a connective. -/
theorem path_reread {text : String} {q : Query} (h : Query.parse text = .ok q)
    (hp : q.isPredicate = false) (hk : ∀ k ∈ q.keys, k ≠ "and" ∧ k ≠ "or") :
    ∃ q', Query.parse q.text = .ok q' ∧ q'.bare = q.bare :=
  (reread_iff h).2 ⟨hk, by simp [hp]⟩

theorem path_reread_argument :
    ∃ q q', Query.parse "a.f(!b > null)['c d']" = .ok q ∧ q.isPredicate = false ∧
      Query.parse q.text = .ok q' ∧ q'.bare = q.bare := by
  have parsed : Query.parse "a.f(!b > null)['c d']" = .ok
      ⟨[⟨.root, 0⟩, ⟨.property "a", 0⟩,
        ⟨.call "f" [.not (.comparison .gt (.path [⟨.current, 5⟩, ⟨.property "b", 5⟩])
          (.literal .null))], 2⟩,
        ⟨.property "c d", 14⟩]⟩ := by cbv
  obtain ⟨q', read, same⟩ := path_reread parsed rfl (by decide)
  exact ⟨_, q', parsed, rfl, read, same⟩

/-- Predicates are read back from their text just when they stand alone and no key in them is
spelled like a connective. -/
theorem predicate_reread_iff {text : String} {q : Query} (h : Query.parse text = .ok q)
    (hp : q.isPredicate) :
    (∃ q', Query.parse q.text = .ok q' ∧ q'.bare = q.bare) ↔
      q.standsAlone ∧ ∀ k ∈ q.keys, k ≠ "and" ∧ k ≠ "or" := by
  rw [reread_iff h, and_comm]
  simp [hp]

theorem predicate_reread_alone :
    ∃ q q', Query.parse "null == $.a" = .ok q ∧ q.isPredicate ∧
      Query.parse q.text = .ok q' ∧ q'.bare = q.bare := by
  have parsed : Query.parse "null == $.a" = .ok
      ⟨[⟨.root, 0⟩, ⟨.comparison .eq (.literal .null)
        (.path [⟨.root, 8⟩, ⟨.property "a", 10⟩]), 0⟩]⟩ := by cbv
  obtain ⟨q', read, same⟩ := (predicate_reread_iff parsed rfl).2 (by decide)
  exact ⟨_, q', parsed, rfl, read, same⟩

/-- The subject of a comparison behind a path is printed as `@`, where none may be written. -/
theorem comparison_behind_path :
    ∃ q, Query.parse "$.a == null" = .ok q ∧ q.isPredicate ∧
      ¬∃ q', Query.parse q.text = .ok q' ∧ q'.bare = q.bare := by
  have parsed : Query.parse "$.a == null" = .ok
      ⟨[⟨.root, 0⟩, ⟨.property "a", 2⟩,
        ⟨.comparison .eq .current (.literal .null), 4⟩]⟩ := by cbv
  refine ⟨_, parsed, rfl, fun read => ?_⟩
  have alone := ((reread_iff parsed).1 read).2 rfl
  exact absurd alone (by decide)

end PathQuery
