import PathQuery.Proofs.Config.Compiled

/-!
Which configurations are accepted: those each part of which can be compiled, and whose aliases have
different names and different paths. The main statement is that validation gives a policy exactly
for these sound configurations, and which policy it is.
-/

namespace PathQuery.Config

/-- Other keys than the empty one and queries are alternates, and of these there is one. -/
structure InferRules.Sound (r : InferRules) : Prop where
  queries : ∀ text ∈ r.alternateQueries, ∃ q, WritesPath text q
  alternates : (∃ key ∈ r.alternateKeys, key ≠ "") ∨ r.alternateQueries ≠ []
  exhausted : ∀ e ∈ r.exhausted, (e.strategy = .default ∧ e.value.isSome) ∨
    ((e.strategy = .error ∨ e.strategy = .skip) ∧ e.value = none)

structure FallbackEntry.Sound (f : FallbackEntry) : Prop where
  rules_iff : f.inferRules.isSome ↔ f.strategy = .infer
  value_iff : f.value.isSome ↔ f.strategy = .default
  rules : ∀ r ∈ f.inferRules, r.Sound

/-- No two aliases have one name, and no two have one path, white space around it apart. -/
structure Sound (c : Config) : Prop where
  named : ∀ a ∈ c.aliases, a.Named
  names : (c.aliases.map AliasEntry.name).Nodup
  paths : (c.aliases.map fun a => trim a.path).Nodup
  targets : ∀ a ∈ c.aliases, ∃ q, WritesPath a.path q
  fallback : c.fallback.Sound

/-! ### What is sound becomes something -/

theorem exists_compiledLast {strategy : Strategy} {value : Option Json} :
    (∃ last, CompiledLast strategy value last) ↔ (strategy = .default ∧ value.isSome) ∨
      ((strategy = .error ∨ strategy = .skip) ∧ value = none) := by
  constructor
  · rintro ⟨last, v | _ | _⟩ <;> simp
  · rintro (⟨rfl, h⟩ | ⟨rfl | rfl, rfl⟩)
    · obtain ⟨v, rfl⟩ := Option.isSome_iff_exists.1 h
      exact ⟨_, .default v⟩
    · exact ⟨_, .error⟩
    · exact ⟨_, .skip⟩

theorem exists_compiledExhausted {exhausted : Option LastResortEntry} :
    (∃ last, CompiledExhausted exhausted last) ↔
      ∀ e ∈ exhausted, ∃ last, CompiledLast e.strategy e.value last := by
  cases exhausted with
  | none => exact ⟨fun _ _ h => (nomatch h), fun _ => ⟨_, .absent⟩⟩
  | some e =>
      constructor
      · rintro ⟨last, _ | h⟩ _ ⟨⟩
        exact ⟨last, h⟩
      · intro h
        obtain ⟨last, h⟩ := h e rfl
        exact ⟨last, .present h⟩

theorem InferRules.sound_iff {r : InferRules} :
    r.Sound ↔ ∃ keys queries last, r.CompiledTo keys queries last := by
  have queries_eq {queries : List Query} (h : List.Forall₂ WritesPath r.alternateQueries queries) :
      queries ≠ [] ↔ r.alternateQueries ≠ [] := by
    rw [← List.length_pos_iff, ← List.length_pos_iff, h.length_eq]
  have keys_ne : (r.alternateKeys.filter (· != "")) ≠ [] ↔ ∃ key ∈ r.alternateKeys, key ≠ "" := by
    simp
  constructor
  · rintro ⟨queries, alternates, exhausted⟩
    obtain ⟨qs, parsed⟩ := exists_forall₂.2 queries
    obtain ⟨last, hl⟩ := exists_compiledExhausted.2 fun e he =>
      exists_compiledLast.2 (exhausted e he)
    exact ⟨_, qs, last, {
      kept := rfl
      parsed := parsed
      alternates := alternates.imp keys_ne.2 (queries_eq parsed).2
      exhausted := hl }⟩
  · rintro ⟨_, qs, last, ⟨rfl, parsed, alternates, hl⟩⟩
    exact {
      queries := exists_forall₂.1 ⟨qs, parsed⟩
      alternates := alternates.imp keys_ne.1 (queries_eq parsed).1
      exhausted := fun e he =>
        exists_compiledLast.1 (exists_compiledExhausted.1 ⟨last, hl⟩ e he) }

theorem FallbackEntry.sound_iff {f : FallbackEntry} : f.Sound ↔ ∃ fb, f.CompiledTo fb := by
  obtain ⟨strategy, value, rules⟩ := f
  constructor
  · rintro ⟨rules_iff, value_iff, rules_sound⟩
    dsimp only at rules_iff value_iff rules_sound
    cases rules with
    | none =>
        obtain ⟨last, h⟩ : ∃ last, CompiledLast strategy value last := by
          refine exists_compiledLast.2 ?_
          cases strategy <;> simp_all
        exact ⟨_, .plain h⟩
    | some r =>
        obtain rfl := rules_iff.1 rfl
        obtain rfl : value = none := by simpa using value_iff
        obtain ⟨keys, queries, last, h⟩ := InferRules.sound_iff.1 (rules_sound r rfl)
        exact ⟨_, .infer h⟩
  · rintro ⟨_, last | rules⟩
    · exact {
        rules_iff := by cases last <;> simp
        value_iff := by cases last <;> simp
        rules := by simp }
    · exact {
        rules_iff := by simp
        value_iff := by simp
        rules := by
          rintro r ⟨⟩
          exact InferRules.sound_iff.2 ⟨_, _, _, rules⟩ }

theorem AliasEntry.exists_compiledTo {e : AliasEntry} :
    (∃ a, e.CompiledTo a) ↔ ∃ q, WritesPath e.path q :=
  ⟨fun ⟨a, h⟩ => ⟨a.target, h.target⟩, fun ⟨q, h⟩ => ⟨⟨e.name, q⟩, rfl, h⟩⟩

theorem sound_iff {c : Config} : c.Sound ↔
    (∃ aliases, compileAliases [] [] c.aliases = .ok aliases) ∧
      ∃ fallback, compileFallback c.fallback = .ok fallback := by
  simp only [compileAliases_eq_ok_iff, List.disjoint_nil_left, and_true, exists_and_left,
    exists_forall₂, AliasEntry.exists_compiledTo, compileFallback_eq_ok_iff,
    ← FallbackEntry.sound_iff]
  constructor
  · rintro ⟨named, names, paths, targets, fallback⟩
    exact ⟨⟨named, names, paths, targets⟩, fallback⟩
  · rintro ⟨⟨named, names, paths, targets⟩, fallback⟩
    exact ⟨named, names, paths, targets, fallback⟩

/-- A configuration is accepted if it is sound, and only then; what it is compiled into is
settled. -/
theorem validate_eq_ok_iff_sound (c : Config) :
    ((∃ p, c.validate = .ok p) ↔ c.Sound) ∧
      ∀ p, c.validate = .ok p ↔ c.Sound ∧ c.CompiledTo p := by
  have accepted : (∃ p, c.validate = .ok p) ↔ c.Sound := by
    simp only [validate_eq_ok_iff, sound_iff]
    constructor
    · rintro ⟨p, aliases, fallback, ha, hf, -⟩
      exact ⟨⟨aliases, ha⟩, fallback, hf⟩
    · rintro ⟨⟨aliases, ha⟩, fallback, hf⟩
      exact ⟨_, aliases, fallback, ha, hf, rfl⟩
  refine ⟨accepted, fun p => ⟨fun h => ⟨accepted.1 ⟨p, h⟩, validate_compiledTo h⟩, ?_⟩⟩
  rintro ⟨sound, aliases, fallback, fuzzy⟩
  have ha : compileAliases [] [] c.aliases = .ok p.aliases :=
    compileAliases_eq_ok_iff.2 ⟨sound.named, ⟨sound.names, List.disjoint_nil_left _⟩,
      ⟨sound.paths, List.disjoint_nil_left _⟩, aliases⟩
  exact validate_eq_ok_iff.2 ⟨_, _, ha, compileFallback_eq_ok_iff.2 fallback, by rw [← fuzzy]⟩

/-- A null value is a value. -/
example : validate ⟨[], ⟨.default, some .null, none⟩, .standard⟩ =
    .ok ⟨[], .plain (.substitute .null), .standard⟩ :=
  rfl

end PathQuery.Config
