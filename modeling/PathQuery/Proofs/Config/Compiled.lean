import PathQuery.Config.Validation
import PathQuery.Proofs.Query.Expansion
import PathQuery.Proofs.Query.RoundTrip

/-!
What a configuration is compiled into, part by part: each stage of the compilation gives a result
just when its part stands in the right relation to it. A validated configuration becomes aliases that
stand for paths from the root, and alternate queries that are such paths.
-/

namespace PathQuery.Config

/-! ### What becomes of each part -/

/-- A text that writes a query without a condition. -/
def WritesPath (text : String) (q : Query) : Prop :=
  Query.parse text = .ok q ∧ q.isPredicate = false

/-- An alias keeps its name and stands for the query that its path writes. -/
structure AliasEntry.CompiledTo (e : AliasEntry) (a : Alias) : Prop where
  name : a.name = e.name
  target : WritesPath e.path a.target

/-- Only the default strategy has a value, and it needs one. -/
inductive CompiledLast : Strategy → Option Json → LastResort → Prop
  | default (v : Json) : CompiledLast .default (some v) (.substitute v)
  | error : CompiledLast .error none .fail
  | skip : CompiledLast .skip none .skip

inductive CompiledExhausted : Option LastResortEntry → LastResort → Prop
  | absent : CompiledExhausted none .fail
  | present {strategy : Strategy} {value : Option Json} {last : LastResort} :
      CompiledLast strategy value last → CompiledExhausted (some ⟨strategy, value⟩) last

/-- Empty keys are dropped, and no others. -/
structure InferRules.CompiledTo (r : InferRules) (keys : List String) (queries : List Query)
    (last : LastResort) : Prop where
  kept : keys = r.alternateKeys.filter (· != "")
  parsed : List.Forall₂ WritesPath r.alternateQueries queries
  alternates : keys ≠ [] ∨ queries ≠ []
  exhausted : CompiledExhausted r.exhausted last

inductive FallbackEntry.CompiledTo : FallbackEntry → Fallback → Prop
  | plain {strategy : Strategy} {value : Option Json} {last : LastResort} :
      CompiledLast strategy value last → CompiledTo ⟨strategy, value, none⟩ (.plain last)
  | infer {r : InferRules} {keys : List String} {queries : List Query} {last : LastResort} :
      r.CompiledTo keys queries last →
        CompiledTo ⟨.infer, none, some r⟩ (.infer keys queries last)

structure CompiledTo (c : Config) (p : Policy) : Prop where
  aliases : List.Forall₂ AliasEntry.CompiledTo c.aliases p.aliases
  fallback : c.fallback.CompiledTo p.fallback
  fuzzy : p.fuzzy = c.fuzzy

/-! ### Results and lists of them -/

theorem Checked.eq_ok_of_bind {α β : Type} {x : Checked α} {f : α → Checked β} {b : β}
    (h : (x >>= f) = .ok b) : ∃ a, x = .ok a ∧ f a = .ok b := by
  cases x with
  | ok a => exact ⟨a, rfl, h⟩
  | error e => cases h

theorem Checked.eq_ok_of_map {α β : Type} {f : α → β} {x : Checked α} {b : β}
    (h : x.map f = .ok b) : ∃ a, x = .ok a ∧ f a = b := by
  cases x with
  | ok a => exact ⟨a, rfl, Except.ok.inj h⟩
  | error e => cases h

theorem Checked.mapM_eq_ok_iff {α β : Type} {f : α → Checked β} {xs : List α} {ys : List β} :
    xs.mapM f = .ok ys ↔ List.Forall₂ (fun x y => f x = .ok y) xs ys := by
  induction xs generalizing ys with
  | nil =>
      rw [List.forall₂_nil_left_iff, List.mapM_nil]
      exact ⟨fun h => by cases h; rfl, fun h => by rw [h]; rfl⟩
  | cons x xs ih =>
      rw [List.mapM_cons, List.forall₂_cons_left_iff]
      constructor
      · intro h
        obtain ⟨y, hy, h⟩ := Checked.eq_ok_of_bind h
        obtain ⟨rest, hr, h⟩ := Checked.eq_ok_of_bind h
        cases h
        exact ⟨y, rest, hy, ih.1 hr, rfl⟩
      · rintro ⟨y, rest, hy, hr, rfl⟩
        rw [hy, ih.2 hr]
        rfl

/-- A list stands in the relation to some list if each of its elements does to something. -/
theorem exists_forall₂ {α β : Type} {R : α → β → Prop} {xs : List α} :
    (∃ ys, List.Forall₂ R xs ys) ↔ ∀ x ∈ xs, ∃ y, R x y := by
  induction xs with
  | nil => simp
  | cons x xs ih => simp [List.forall₂_cons_left_iff, ← ih]

/-! ### Aliases -/

theorem compilePath_eq_ok_iff {owner : PathOwner} {path : String} {q : Query} :
    compilePath owner path = .ok q ↔ WritesPath path q := by
  constructor
  · intro h
    unfold compilePath at h
    split at h
    · cases h
    · rename_i parsed
      split at h
      · cases h
      · rename_i plain
        cases h
        exact ⟨parsed, by simpa using plain⟩
  · rintro ⟨parsed, plain⟩
    simp [compilePath, parsed, plain]

/-- A name with more to it than white space. -/
def AliasEntry.Named (a : AliasEntry) : Prop :=
  ∃ c ∈ a.name.toList, Unicode.isWhiteSpace c = false

theorem trim_eq_nil_iff {s : String} :
    trim s = [] ↔ ∀ c ∈ s.toList, Unicode.isWhiteSpace c := by
  have none (cs : List Char) : trimStart cs = [] ↔ ∀ c ∈ cs, Unicode.isWhiteSpace c :=
    List.dropWhile_eq_nil_iff
  unfold trim
  rw [List.reverse_eq_nil_iff, none, ← none s.toList]
  refine ⟨fun blank => ?_, fun h => by simp [h]⟩
  -- what is left begins with no white space, unless nothing is
  by_contra left
  have first : Unicode.isWhiteSpace ((trimStart s.toList).head left) = false :=
    List.head_dropWhile_not _ left
  rw [blank _ (List.mem_reverse.2 (List.head_mem left))] at first
  cases first

theorem named_iff {a : AliasEntry} : a.Named ↔ (trim a.name).isEmpty = false := by
  rw [List.isEmpty_eq_false_iff, Ne, trim_eq_nil_iff, AliasEntry.Named]
  simp

/-- Distinct keys that are not taken: one of them is not taken, and neither are the others, even
when it is. -/
theorem fresh_cons {α : Type} {taken keys : List α} {k : α} :
    ((k :: keys).Nodup ∧ taken.Disjoint (k :: keys)) ↔
      k ∉ taken ∧ keys.Nodup ∧ (k :: taken).Disjoint keys := by
  rw [List.nodup_cons, List.disjoint_cons_left, List.disjoint_cons_right]
  tauto

theorem compileAliases_cons_eq_ok_iff {names : List String} {paths : List (List Char)}
    {entry : AliasEntry} {rest : List AliasEntry} {aliases : List Alias} :
    compileAliases names paths (entry :: rest) = .ok aliases ↔
      (trim entry.name).isEmpty = false ∧ entry.name ∉ names ∧ trim entry.path ∉ paths ∧
      ∃ target others, compilePath (.aliasTarget entry.name) entry.path = .ok target ∧
        compileAliases (entry.name :: names) (trim entry.path :: paths) rest = .ok others ∧
        aliases = ⟨entry.name, target⟩ :: others := by
  constructor
  · intro h
    unfold compileAliases at h
    dsimp only at h
    split at h
    · cases h
    rename_i named
    split at h
    · cases h
    rename_i name
    split at h
    · cases h
    rename_i path
    obtain ⟨target, ht, h⟩ := Checked.eq_ok_of_bind h
    obtain ⟨others, ho, h⟩ := Checked.eq_ok_of_bind h
    cases h
    exact ⟨by simpa using named, by simpa using name, by simpa using path, target, others, ht, ho,
      rfl⟩
  · rintro ⟨named, name, path, target, others, ht, ho, rfl⟩
    simp [compileAliases, named, name, path, ht, ho]
    rfl

/-- The names and paths in front are taken. -/
theorem compileAliases_eq_ok_iff {names : List String} {paths : List (List Char)}
    {entries : List AliasEntry} {aliases : List Alias} :
    compileAliases names paths entries = .ok aliases ↔
      (∀ a ∈ entries, a.Named) ∧
      ((entries.map AliasEntry.name).Nodup ∧ names.Disjoint (entries.map AliasEntry.name)) ∧
      ((entries.map fun a => trim a.path).Nodup ∧
        paths.Disjoint (entries.map fun a => trim a.path)) ∧
      List.Forall₂ AliasEntry.CompiledTo entries aliases := by
  induction entries generalizing names paths aliases with
  | nil =>
      rw [compileAliases, List.forall₂_nil_left_iff, Except.ok.injEq]
      simp [eq_comm]
  | cons entry rest ih =>
      rw [compileAliases_cons_eq_ok_iff, List.forall_mem_cons, List.map_cons, List.map_cons,
        fresh_cons, fresh_cons, List.forall₂_cons_left_iff, named_iff]
      simp only [ih, compilePath_eq_ok_iff]
      constructor
      · rintro ⟨named, name, path, target, others, ht, ⟨others_named, names, paths, targets⟩, rfl⟩
        exact ⟨⟨named, others_named⟩, ⟨name, names⟩, ⟨path, paths⟩, _, others, ⟨rfl, ht⟩, targets,
          rfl⟩
      · rintro ⟨⟨named, others_named⟩, ⟨name, names⟩, ⟨path, paths⟩, ⟨_, target⟩, others,
          ⟨rfl, ht⟩, targets, rfl⟩
        exact ⟨named, name, path, target, others, ht, ⟨others_named, names, paths, targets⟩, rfl⟩

/-! ### The fallback -/

theorem compileLastResort_eq_ok_iff {owner : StrategyOwner} {strategy : Strategy}
    {value : Option Json} {last : LastResort} :
    compileLastResort owner strategy value = .ok last ↔ CompiledLast strategy value last := by
  constructor
  · intro h
    unfold compileLastResort at h
    split at h <;> cases h
    · exact .default _
    · exact .error
    · exact .skip
  · rintro ⟨⟩ <;> rfl

theorem compileExhausted_eq_ok_iff {exhausted : Option LastResortEntry} {last : LastResort} :
    compileExhausted exhausted = .ok last ↔ CompiledExhausted exhausted last := by
  cases exhausted with
  | none =>
      constructor
      · rintro ⟨⟩
        exact .absent
      · rintro ⟨⟩
        rfl
  | some e =>
      constructor
      · intro h
        exact .present (compileLastResort_eq_ok_iff.1 h)
      · rintro (_ | h)
        exact compileLastResort_eq_ok_iff.2 h

theorem isEmpty_and_isEmpty {α β : Type} {xs : List α} {ys : List β} :
    (xs.isEmpty && ys.isEmpty) = false ↔ xs ≠ [] ∨ ys ≠ [] := by
  cases xs <;> cases ys <;> simp

theorem compileInfer_eq_ok_iff {r : InferRules} {fallback : Fallback} :
    compileInfer r = .ok fallback ↔
      ∃ keys queries last, r.CompiledTo keys queries last ∧ fallback = .infer keys queries last := by
  have parsed {queries : List Query} : r.alternateQueries.mapM (compilePath .alternate) =
      .ok queries ↔ List.Forall₂ WritesPath r.alternateQueries queries := by
    simp only [Checked.mapM_eq_ok_iff, compilePath_eq_ok_iff]
  constructor
  · intro h
    unfold compileInfer at h
    dsimp only at h
    obtain ⟨queries, hq, h⟩ := Checked.eq_ok_of_bind h
    split at h
    · cases h
    rename_i alternates
    obtain ⟨last, hl, h⟩ := Checked.eq_ok_of_bind h
    cases h
    exact ⟨_, queries, last,
      { kept := rfl
        parsed := parsed.1 hq
        alternates := isEmpty_and_isEmpty.1 (Bool.eq_false_of_not_eq_true alternates)
        exhausted := compileExhausted_eq_ok_iff.1 hl }, rfl⟩
  · rintro ⟨keys, queries, last, ⟨rfl, hq, alternates, hl⟩, rfl⟩
    unfold compileInfer
    rw [parsed.2 hq, compileExhausted_eq_ok_iff.2 hl]
    simp only [bind, Except.bind, isEmpty_and_isEmpty.2 alternates]
    rfl

theorem CompiledLast.ne_infer {strategy : Strategy} {value : Option Json} {last : LastResort}
    (h : CompiledLast strategy value last) : strategy ≠ .infer := by
  cases h <;> decide

theorem compileFallback_eq_ok_iff {f : FallbackEntry} {fallback : Fallback} :
    compileFallback f = .ok fallback ↔ f.CompiledTo fallback := by
  obtain ⟨strategy, value, rules⟩ := f
  constructor
  · intro h
    unfold compileFallback at h
    split at h
    · rename_i strategy_eq
      dsimp only at strategy_eq h
      split at h
      · cases h
      rename_i no_value
      split at h
      · obtain ⟨keys, queries, last, compiled, rfl⟩ := compileInfer_eq_ok_iff.1 h
        obtain rfl := Option.not_isSome_iff_eq_none.1 no_value
        exact strategy_eq ▸ .infer compiled
      · cases h
    · cases h
    · rename_i no_rules _
      dsimp only at no_rules
      obtain ⟨last, compiled, rfl⟩ := Checked.eq_ok_of_map h
      subst no_rules
      exact .plain (compileLastResort_eq_ok_iff.1 compiled)
  · rintro (plain | infer)
    · rename_i last
      have compiled : compileLastResort .fallback _ _ = .ok last :=
        compileLastResort_eq_ok_iff.2 plain
      have not_infer := plain.ne_infer
      unfold compileFallback
      split
      · contradiction
      · contradiction
      · rw [compiled]
        rfl
    · exact compileInfer_eq_ok_iff.2 ⟨_, _, _, infer, rfl⟩

/-! ### Policies -/

theorem validate_eq_ok_iff {c : Config} {p : Policy} :
    c.validate = .ok p ↔ ∃ aliases fallback, compileAliases [] [] c.aliases = .ok aliases ∧
      compileFallback c.fallback = .ok fallback ∧ p = ⟨aliases, fallback, c.fuzzy⟩ := by
  constructor
  · intro h
    unfold validate at h
    obtain ⟨aliases, ha, h⟩ := Checked.eq_ok_of_bind h
    obtain ⟨fallback, hf, h⟩ := Checked.eq_ok_of_bind h
    cases h
    exact ⟨aliases, fallback, ha, hf, rfl⟩
  · rintro ⟨aliases, fallback, ha, hf, rfl⟩
    rw [validate, ha, hf]
    rfl

/-- A configuration of aliases only, with distinct names and distinct paths. -/
theorem validate_aliases {entries : List AliasEntry} {aliases : List Alias}
    (named : ∀ a ∈ entries, (trim a.name).isEmpty = false)
    (names : (entries.map AliasEntry.name).Nodup) (paths : (entries.map fun a => trim a.path).Nodup)
    (targets : List.Forall₂ AliasEntry.CompiledTo entries aliases) (fuzzy : FuzzyConfig) :
    Config.validate ⟨entries, .standard, fuzzy⟩ = .ok ⟨aliases, .error, fuzzy⟩ :=
  validate_eq_ok_iff.2 ⟨aliases, .error,
    compileAliases_eq_ok_iff.2 ⟨fun a ha => named_iff.2 (named a ha),
      ⟨names, List.disjoint_nil_left _⟩, ⟨paths, List.disjoint_nil_left _⟩, targets⟩, rfl, rfl⟩

theorem validate_compiledTo {c : Config} {p : Policy} (h : c.validate = .ok p) :
    c.CompiledTo p := by
  obtain ⟨aliases, fallback, ha, hf, rfl⟩ := validate_eq_ok_iff.1 h
  exact ⟨(compileAliases_eq_ok_iff.1 ha).2.2.2, compileFallback_eq_ok_iff.1 hf, rfl⟩

theorem WritesPath.isPath {text : String} {q : Query} (h : WritesPath text q) :
    q.IsPath (fun name => Scanner.IsName name.toList) :=
  (formed_of_parse h.1).isPath h.2

theorem CompiledTo.target {c : Config} {p : Policy} (h : c.CompiledTo p) {a : Alias}
    (ha : a ∈ p.aliases) : ∃ path, WritesPath path a.target := by
  have entries := (exists_forall₂ (R := flip AliasEntry.CompiledTo)).1 ⟨_, h.aliases.flip⟩
  obtain ⟨entry, compiled⟩ := entries a ha
  exact ⟨entry.path, compiled.target⟩

theorem FallbackEntry.CompiledTo.alternate {f : FallbackEntry} {keys : List String}
    {queries : List Query} {last : LastResort} (h : f.CompiledTo (.infer keys queries last)) :
    ∀ q ∈ queries, ∃ text, WritesPath text q := by
  cases h with
  | infer rules => exact (exists_forall₂ (R := flip WritesPath)).1 ⟨_, rules.parsed.flip⟩

theorem formed_of_validate {c : Config} {p : Policy} (h : c.validate = .ok p) :
    p.Formed (fun name => Scanner.IsName name.toList) where
  target ht := by
    obtain ⟨a, hm, rfl⟩ := Option.map_eq_some_iff.1 ht
    obtain ⟨path, written⟩ := (validate_compiledTo h).target (List.mem_of_find?_eq_some hm)
    exact written.isPath
  alternate hf hq := by
    have fallback := (validate_compiledTo h).fallback
    rw [hf] at fallback
    obtain ⟨text, written⟩ := fallback.alternate _ hq
    exact written.isPath

end PathQuery.Config
