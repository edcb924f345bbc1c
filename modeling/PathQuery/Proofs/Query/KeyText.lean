import Mathlib
import PathQuery.Proofs.Query.RoundTrip

/-!
Keys in printed steps. A property, a key group and an omission are each read back from their text
behind the root, whatever characters the keys are made of: what cannot stand bare is quoted. The two
words that the scanner takes for connectives stand bare all the same, and with one of them among the
keys the text is no query.
-/

namespace PathQuery

open Grammar Scanner

/-! ### Steps without parentheses -/

/-- A token that opens no arguments and compares nothing. -/
def Token.Flat (t : Token) : Prop :=
  t.kind ≠ .openParen ∧ ∀ op, t.kind ≠ .comparator op

namespace Grammar

variable {ts : List Token}

/-- Connectives stand in arguments alone, and these in parentheses. -/
theorem Derives.step_no_traces {step : Step} (h : Derives .step ts step)
    (flat : ∀ t ∈ ts, t.kind ≠ .openParen) : countTraces ts = 0 := by
  cases h with
  | dotName hd hn =>
      cases hn with
      | name ht => simp [hd, ht, Token.Kind.leavesTrace]
      | emptyCall _ ho _ | call _ ho _ _ => exact absurd ho (flat _ (by simp))
  | dotString hd ht | dotStar hd ht => simp [hd, ht, Token.Kind.leavesTrace]
  | dotGroup hd hg => simp [hd, hg.no_traces, Token.Kind.leavesTrace]
  | dotOmission hd hb hg => simp [hd, hb, hg.no_traces, Token.Kind.leavesTrace]
  | bracket ho hi hc => simp [ho, hi.no_traces.1, hc, Token.Kind.leavesTrace]
  | group hg => exact hg.no_traces
  | omission hb hg => simp [hb, hg.no_traces, Token.Kind.leavesTrace]

theorem Derives.steps_no_traces {steps : List Step} (h : Derives .steps ts steps)
    (flat : ∀ t ∈ ts, t.kind ≠ .openParen) : countTraces ts = 0 := by
  induction steps generalizing ts with
  | nil =>
      cases h
      rfl
  | cons step rest ih =>
      cases h with
      | moreSteps first others =>
          rw [List.forall_mem_append] at flat
          rw [countTraces_append, first.step_no_traces flat.1, ih others flat.2]

theorem opensAlone_of_beginsStep (h : beginsStep ts) : opensAlone ts = false := by
  obtain ⟨t, u, us, rfl⟩ := beginsStep_cons h
  simp only [beginsStep, Parser.startsStep, Bool.or_eq_true, Bool.and_eq_true, beq_iff_eq] at h
  rcases h with ((h | h) | h) | ⟨h, hu⟩ <;>
    simp [opensAlone, opensCondition, Parser.isKeyword, *]

theorem kind_ne_property {t : Token} (h : beginsStep (t :: ts)) : t.kind ≠ .property := by
  intro ht
  cases ts <;> simp [beginsStep, Parser.startsStep, ht] at h

/-- A query that goes on from the root with a step, and has neither parentheses nor comparisons, has
no connectives. -/
theorem DerivesQuery.no_traces {finish : Nat} {t : Token} {q : Query}
    (h : DerivesQuery finish (t :: ts) q) (root : t.kind = .root) (begins : beginsStep ts)
    (flat : ∀ u ∈ ts, u.Flat) :
    countTraces ts = 0 := by
  generalize hus : t :: ts = us at h
  cases h with
  | @mk r head path trail first steps condition hr hh hp htr =>
      rcases hr with rfl | ⟨r, -, rfl⟩
      · have noRoot := head_ne_root (s := ⟨[], 0⟩) hh hp htr rfl
        rw [List.nil_append] at hus
        rw [← hus] at noRoot
        exact absurd root noRoot
      rw [List.singleton_append] at hus
      obtain ⟨-, rfl⟩ := List.cons.inj hus
      have behind : ∀ node, ¬ Derives (.continued .current) trail node := by
        intro node h
        obtain ⟨op, u, us, rfl, hu⟩ := h.begins_continued
        exact (flat u (by simp)).2 op hu
      cases hh with
      | name _ hn =>
          obtain ⟨u, us, he, hu⟩ := hn.begins_named
          obtain ⟨rfl, -⟩ := List.cons.inj he
          exact absurd hu (kind_ne_property begins)
      | none =>
          rw [List.nil_append] at begins flat ⊢
          cases htr with
          | none =>
              rw [List.append_nil] at flat ⊢
              exact hp.steps_no_traces fun u hu => (flat u hu).1
          | continued h => exact absurd h (behind _)
          | alone he opens _ =>
              rw [List.nil_append] at he
              subst he
              cases hp
              rw [List.nil_append] at begins
              rw [opensAlone_of_beginsStep begins] at opens
              cases opens

end Grammar

/-! ### Steps that select by keys -/

theorem keyToken_flat (key : String) : (keyToken key).Flat := by
  unfold keyToken lexeme
  split
  · rcases wordKind_cases key.toList with h | h | h <;> simp [Token.Flat, h]
  · simp [Token.Flat]

theorem keyTokens_flat (keys : List String) : ∀ t ∈ keyTokens keys, t.Flat := by
  induction keys with
  | nil => nofun
  | cons key rest ih =>
      cases rest with
      | nil => simpa [keyTokens] using keyToken_flat key
      | cons next others =>
          rw [keyTokens, List.forall_mem_cons, List.forall_mem_cons]
          · exact ⟨keyToken_flat key, by simp [Token.Flat, lexeme], ih⟩
          · simp

theorem groupTokens_flat (keys : List String) : ∀ t ∈ groupTokens keys, t.Flat := by
  rw [groupTokens, List.forall_mem_cons, List.forall_mem_append, List.forall_mem_singleton]
  exact ⟨by simp [Token.Flat, lexeme], keyTokens_flat keys, by simp [Token.Flat, lexeme]⟩

/-- The query of the root and a step. -/
def Query.ofStep (n : Node) : Query :=
  ⟨[⟨.root, 0⟩, ⟨n, 0⟩]⟩

theorem Query.keys_ofStep (n : Node) : (ofStep n).keys = n.keys := by
  simp [keys, ofStep, Node.keys]

theorem Query.tokens_ofStep (n : Node) :
    (ofStep n).tokens = lexeme .root "$" :: n.tokens := by
  simp [tokens, ofStep, Node.tokens]

/-- A step that selects by at least one key. -/
inductive Node.SelectsKeys : Node → Prop
  | property (name : String) : SelectsKeys (.property name)
  | multiKey {keys : List String} : keys ≠ [] → SelectsKeys (.multiKey keys)
  | omission {keys : List String} : keys ≠ [] → SelectsKeys (.omission keys)

namespace Node.SelectsKeys

variable {n m : Node}

theorem formed (h : n.SelectsKeys) (named : String → Prop) : n.Formed named .step := by
  cases h with
  | property name => exact .property
  | multiKey some => exact .multiKey some
  | omission some => exact .omission some

/-- No positions are in the step. -/
theorem relocate_eq_iff (h : n.SelectsKeys) (f : Nat → Nat) : m.relocate f = n ↔ m = n := by
  cases h <;> cases m <;> simp [Node.relocate]

theorem tokens_step (h : n.SelectsKeys) : beginsStep n.tokens ∧ ∀ t ∈ n.tokens, t.Flat := by
  cases h with
  | property name =>
      rw [Node.tokens, List.forall_mem_cons, List.forall_mem_singleton]
      exact ⟨rfl, by simp [Token.Flat, lexeme], keyToken_flat name⟩
  | @multiKey keys some =>
      rw [Node.tokens]
      refine ⟨?_, groupTokens_flat keys⟩
      rcases keys with _ | ⟨key, _ | ⟨next, others⟩⟩ <;> rfl
  | @omission keys some =>
      rw [Node.tokens, List.forall_mem_cons]
      exact ⟨rfl, by simp [Token.Flat, lexeme], groupTokens_flat keys⟩

theorem countTraces_tokens (h : n.SelectsKeys) :
    countTraces n.tokens = n.keys.countP isConnectiveWord := by
  have none : (n.relocate fun _ => 0).traces = 0 := by cases h <;> rfl
  have counted := (h.formed fun _ => True).counted
  rwa [Node.Counted, none, Nat.zero_add] at counted

theorem formed_ofStep (h : n.SelectsKeys) (named : String → Prop) : (Query.ofStep n).Formed named :=
  @Query.Formed.mk named 0 0 [⟨n, 0⟩] none (by simpa using h.formed named) nofun

theorem text_ofStep (h : n.SelectsKeys) : (Query.ofStep n).text = "$" ++ n.text := by
  have step : n.isCondition = false := by cases h <;> rfl
  have root : Node.root.isCondition = false := rfl
  rw [← String.toList_inj]
  simp [Query.text, Query.ofStep, Node.text, step, root, Node.chars]

theorem bare_eq_iff (h : n.SelectsKeys) {q : Query} :
    q.bare = (Query.ofStep n).bare ↔ q.steps.map Located.node = [.root, n] := by
  have root (m : Node) : m.relocate (fun _ => 0) = Node.root.relocate (fun _ => 0) ↔
      m = .root := by
    cases m <;> simp [Node.relocate]
  have same : n.relocate (fun _ => 0) = n := (h.relocate_eq_iff _).2 rfl
  obtain ⟨steps⟩ := q
  rcases steps with _ | ⟨a, _ | ⟨b, _ | ⟨c, rest⟩⟩⟩ <;>
    simp [Query.relocate, Step.relocate, Query.ofStep, root, same, h.relocate_eq_iff]

theorem isPredicate_ofStep (h : n.SelectsKeys) : (Query.ofStep n).isPredicate = false := by
  cases h <;> rfl

theorem reads_iff (h : n.SelectsKeys) (q : Query) :
    (∃ q', Query.parse ("$" ++ n.text) = .ok q' ∧ q'.bare = q) ↔
      DerivesQuery 0 (Query.ofStep n).tokens q := by
  rw [← h.text_ofStep]
  exact parse_iff (scans_text (h.formed_ofStep _))

/-- Without a connective among its keys the step is read back. -/
theorem reread_iff (h : n.SelectsKeys) :
    (∃ q, Query.parse ("$" ++ n.text) = .ok q ∧ q.steps.map Located.node = [.root, n]) ↔
      ∀ k ∈ n.keys, k ≠ "and" ∧ k ≠ "or" := by
  have formed := h.formed_ofStep fun name => IsName name.toList
  have derived := h.reads_iff (Query.ofStep n).bare
  simp only [h.bare_eq_iff] at derived
  rw [derived, ← Query.keys_ofStep n]
  refine ⟨fun hd => (standsAlone_of_derivesQuery formed hd).1, fun hk => ?_⟩
  exact derivesQuery_tokens formed hk (by simp [h.isPredicate_ofStep])

/-- With one the text is no query. -/
theorem parse_eq_error (h : n.SelectsKeys) {k : String} (hk : k ∈ n.keys)
    (word : k = "and" ∨ k = "or") : ∃ e, Query.parse ("$" ++ n.text) = .error e := by
  cases read : Query.parse ("$" ++ n.text) with
  | error e => exact ⟨e, rfl⟩
  | ok q =>
      have derived := (h.reads_iff q.bare).1 ⟨q, read, rfl⟩
      rw [Query.tokens_ofStep] at derived
      have none := derived.no_traces rfl h.tokens_step.1 h.tokens_step.2
      rw [h.countTraces_tokens, List.countP_eq_zero] at none
      exact absurd (by simpa [isConnectiveWord] using word) (none k hk)

end Node.SelectsKeys

/-- A property, and a group or an omission of any keys, is read back from its text behind the root
just when none of its keys is a connective; with one among them the text is no query. -/
theorem printed_keys_reread (name : String) {keys : List String} (some : keys ≠ []) :
    ∀ n ∈ [Node.property name, .multiKey keys, .omission keys],
      ((∃ q, Query.parse ("$" ++ n.text) = .ok q ∧ q.steps.map Located.node = [.root, n]) ↔
        ∀ k ∈ n.keys, k ≠ "and" ∧ k ≠ "or") ∧
      ((∃ k ∈ n.keys, k = "and" ∨ k = "or") →
        ∃ e, Query.parse ("$" ++ n.text) = .error e) := by
  have selects : ∀ n ∈ [Node.property name, .multiKey keys, .omission keys],
      n.SelectsKeys := by
    simp only [List.forall_mem_cons]
    exact ⟨.property name, .multiKey some, .omission some, nofun⟩
  intro n hn
  exact ⟨(selects n hn).reread_iff, fun ⟨_, hk, word⟩ => (selects n hn).parse_eq_error hk word⟩

/-- An empty key, quotes, a control character and a letter outside the basic plane. -/
theorem printed_keys_reread_quoted :
    [ "", "say \"hi\"", "tab\t", "né-𝒳", "&&"] ≠ [] ∧
      ∃ q, Query.parse ("$" ++ (Node.omission
          [ "", "say \"hi\"", "tab\t", "né-𝒳", "&&"]).text) = .ok q ∧
        q.steps.map Located.node =
          [.root, .omission [ "", "say \"hi\"", "tab\t", "né-𝒳", "&&"]] := by
  have some : [ "", "say \"hi\"", "tab\t", "né-𝒳", "&&"] ≠ [] := by decide
  obtain ⟨reread, -⟩ := printed_keys_reread "" some
    (.omission [ "", "say \"hi\"", "tab\t", "né-𝒳", "&&"]) (by simp)
  exact ⟨some, reread.2 (by decide)⟩

set_option maxRecDepth 2000 in
/-- The word `and` needs no quotes as a name, and behind a dot it is no name. -/
theorem connective_key_not_reread :
    (Node.property "and").text = ".and" ∧
      Query.parse "$.and" = .error
        ⟨.expected "property name, '*' or key group after '.'" ⟨.and, "and", 2⟩, 2⟩ ∧
      ¬∀ name : String, ∃ q, Query.parse ("$" ++ (Node.property name).text) = .ok q ∧
        q.steps.map Located.node = [.root, .property name] := by
  have printed : (Node.property "and").text = ".and" := by cbv
  have failed : Query.parse "$.and" = .error
      ⟨.expected "property name, '*' or key group after '.'" ⟨.and, "and", 2⟩, 2⟩ := by cbv
  refine ⟨printed, failed, fun reread => ?_⟩
  obtain ⟨q, read, -⟩ := reread "and"
  rw [printed, show "$" ++ ".and" = "$.and" from rfl, failed] at read
  cases read

end PathQuery
