import PathQuery.Config.Validation
import PathQuery.Config.Writer
import PathQuery.Proofs.Json.Rereading

/-!
Configurations written and read again. Of one configuration there are many texts, with records as
arrays, members left out, null or unknown; the text it is written as is one of them whenever there
is any, and so it is a normal form.
-/

namespace PathQuery.Config

open Json (Source source glyphs memberSources itemSources stringOfGlyphs?_glyphs)

/-! ### Fields of a written record -/

/-- Members of distinct names are found as in the record. -/
theorem onlyMember?_of_nodup {ms : List (String × Source)} (h : (ms.map Prod.fst).Nodup)
    (name : String) : onlyMember? name ms = some (ms.lookup name) := by
  induction ms with
  | nil => rfl
  | cons m rest ih =>
      obtain ⟨n, s⟩ := m
      rw [List.map_cons, List.nodup_cons] at h
      have found := ih h.2
      unfold onlyMember? at found ⊢
      by_cases same : n = name
      · subst same
        have others : rest.filter (fun m => m.1 == n) = [] := by
          rw [List.filter_eq_nil_iff]
          intro m hm hn
          rw [beq_iff_eq] at hn
          exact h.1 (List.mem_map.2 ⟨m, hm, hn⟩)
        simp [others]
      · simp only [List.filter_cons, beq_iff_eq, same, if_false, List.lookup_cons,
          beq_eq_false_iff_ne.2 (Ne.symm same)]
        exact found

theorem mapM_memberSources (ms : List (String × Json)) :
    (memberSources ms).mapM (fun m => (Json.stringOfGlyphs? m.1).map fun name => (name, m.2)) =
      some (ms.map fun m => (m.1, source m.2)) := by
  induction ms with
  | nil => rfl
  | cons m rest ih =>
      obtain ⟨name, x⟩ := m
      rw [memberSources, List.mapM_cons, ih, stringOfGlyphs?_glyphs]
      rfl

theorem lookup_map_source (ms : List (String × Json)) (name : String) :
    (ms.map fun m => (m.1, source m.2)).lookup name = (ms.lookup name).map source := by
  induction ms with
  | nil => rfl
  | cons m rest ih =>
      obtain ⟨n, x⟩ := m
      rw [List.map_cons, List.lookup_cons, List.lookup_cons, ih]
      cases name == n <;> rfl

/-- The fields of a record that is written as an object. -/
theorem fields?_source {ms : List (String × Json)} (h : (ms.map Prod.fst).Nodup)
    (names : List String) :
    fields? names (source (.object ms)) =
      some (names.map fun name => (ms.lookup name).map source) := by
  have distinct : ((ms.map fun m => (m.1, source m.2)).map Prod.fst).Nodup := by
    rwa [List.map_map]
  rw [source, fields?, mapM_memberSources]
  show names.mapM (fun name => onlyMember? name (ms.map fun m => (m.1, source m.2))) = _
  induction names with
  | nil => rfl
  | cons name rest ih =>
      rw [List.mapM_cons, ih, onlyMember?_of_nodup distinct, lookup_map_source]
      rfl

/-! ### Written fields are read back -/

theorem string?_source (s : String) : string? (source (.string s)) = some s :=
  stringOfGlyphs?_glyphs s

theorem list?_source {α : Type} {read : Source → Option α} {write : α → Json} {xs : List α}
    (h : ∀ x ∈ xs, read (source (write x)) = some x) :
    list? read (source (.array (xs.map write))) = some xs := by
  show (itemSources (xs.map write)).mapM read = _
  induction xs with
  | nil => rfl
  | cons x rest ih =>
      rw [List.map_cons, itemSources, List.mapM_cons, h x (by simp),
        ih fun y hy => h y (by simp [hy])]
      rfl

theorem strategy?_source (s : Strategy) : strategy? (source (.string s.name)) = some s := by
  have named : strategyOfName? s.name = some s := by
    cases s <;> decide
  show (Json.stringOfGlyphs? (glyphs s.name) >>= strategyOfName?) = _
  rw [stringOfGlyphs?_glyphs]
  exact named

theorem count?_source {n : Nat} : count? (source (count n)) = some n ↔ n < 2 ^ 64 := by
  have form : source (count n) = .number ⟨false, n, 0, 0, true⟩ := by
    rw [count, source, Number.numeral, Json.source_intNumeral]
    simp
  rw [form, count?]
  simp

theorem value?_source {levels : Nat} {v : Json} (h : Json.Readable (Json.maxDepth - levels) v) :
    value? levels (source v) = some v :=
  Json.ofSource?_source h

/-! ### Written records are read back -/

theorem aliasEntry?_source (a : AliasEntry) : aliasEntry? (source a.toJson) = some a := by
  unfold aliasEntry? AliasEntry.toJson
  rw [fields?_source (by simp)]
  simp [List.lookup, mandatory?, string?_source]

/-- The value of the entry can stand where the entry stands, inside four records. -/
def LastResortEntry.Readable (e : LastResortEntry) : Prop :=
  ∀ v ∈ e.value, Json.Readable (Json.maxDepth - 4) v

theorem lastResort?_source {e : LastResortEntry} (h : e.Readable) :
    lastResort? (source e.toJson) = some e := by
  obtain ⟨strategy, value⟩ := e
  unfold lastResort? LastResortEntry.toJson valueMember
  cases value with
  | none =>
      rw [fields?_source (by simp)]
      simp [List.lookup, mandatory?, present?, strategy?_source]
  | some v =>
      rw [fields?_source (by simp)]
      simp [List.lookup, mandatory?, present?, strategy?_source, value?_source (h v rfl)]

theorem nullable?_source {α : Type} {read : Source → Option α} (write : α → Json) {x : α}
    {members : List (String × Json)} (object : write x = .object members)
    (h : read (source (write x)) = some x) :
    nullable? read (some (source (write x))) = some (some x) := by
  rw [object, source] at h ⊢
  simp [nullable?, h]

theorem inferRules?_source {r : InferRules} (h : ∀ e ∈ r.exhausted, e.Readable) :
    inferRules? (source r.toJson) = some r := by
  obtain ⟨keys, queries, exhausted⟩ := r
  have texts (ss : List String) : list? string? (source (strings ss)) = some ss :=
    list?_source fun s _ => string?_source s
  unfold inferRules? InferRules.toJson
  cases exhausted with
  | none =>
      rw [fields?_source (by simp)]
      simp [List.lookup, withDefault?, nullable?, texts]
  | some e =>
      have read := nullable?_source LastResortEntry.toJson rfl (lastResort?_source (h e rfl))
      rw [fields?_source (by simp)]
      simp [List.lookup, withDefault?, texts, read]

/-- The values of the entry can stand where they stand, inside two records and four. -/
structure FallbackEntry.Readable (f : FallbackEntry) : Prop where
  value : ∀ v ∈ f.value, Json.Readable (Json.maxDepth - 2) v
  exhausted : ∀ r ∈ f.inferRules, ∀ e ∈ r.exhausted, e.Readable

theorem fallback?_source {f : FallbackEntry} (h : f.Readable) :
    fallback? (source f.toJson) = some f := by
  obtain ⟨strategy, value, rules⟩ := f
  have values : ∀ v ∈ value, value? 2 (source v) = some v := fun v hv =>
    value?_source (h.value v hv)
  have infers : ∀ r ∈ rules, nullable? inferRules? (some (source r.toJson)) = some (some r) :=
    fun r hr =>
      nullable?_source InferRules.toJson rfl (inferRules?_source (h.exhausted r hr))
  unfold fallback? FallbackEntry.toJson valueMember
  cases value <;> cases rules
  all_goals
    rw [fields?_source (by simp)]
    simp_all [List.lookup, withDefault?, present?, nullable?, strategy?_source]

theorem fuzzy?_source {f : FuzzyConfig} (distance : f.distance < 2 ^ 64)
    (limit : f.limit < 2 ^ 64) : fuzzy? (source (fuzzyJson f)) = some f := by
  unfold fuzzy? fuzzyJson
  rw [fields?_source (by simp)]
  simp [List.lookup, withDefault?, bool?, source, count?_source.2 distance, count?_source.2 limit]

/-- What a text can say: counts of 64 bits, and values that can stand where they stand. -/
structure Readable (c : Config) : Prop where
  fallback : c.fallback.Readable
  distance : c.fuzzy.distance < 2 ^ 64
  limit : c.fuzzy.limit < 2 ^ 64

theorem ofSource?_source {c : Config} (h : c.Readable) : ofSource? (source c.toJson) = some c := by
  have aliases : list? aliasEntry? (source (.array (c.aliases.map AliasEntry.toJson))) =
      some c.aliases := list?_source fun a _ => aliasEntry?_source a
  unfold ofSource? toJson
  rw [fields?_source (by simp)]
  simp [List.lookup, withDefault?, aliases, fallback?_source h.fallback,
    fuzzy?_source h.distance h.limit]

/-! ### What is read can be written -/

section

variable {α : Type} {read : Source → Option α} {field : Option Source}

theorem of_withDefault? {standard a : α} (h : withDefault? standard read field = some a) :
    a = standard ∨ ∃ s, read s = some a := by
  cases field with
  | none =>
      cases h
      exact .inl rfl
  | some s => exact .inr ⟨s, h⟩

theorem of_present? {r : Option α} (h : present? read field = some r) :
    ∀ a ∈ r, ∃ s, read s = some a := by
  rintro a rfl
  cases field with
  | none => cases h
  | some s =>
      obtain ⟨b, hb, same⟩ := Option.map_eq_some_iff.1 h
      cases same
      exact ⟨s, hb⟩

theorem of_nullable? {r : Option α} (h : nullable? read field = some r) :
    ∀ a ∈ r, ∃ s, read s = some a := by
  unfold nullable? at h
  split at h
  · cases h
    exact nofun
  · rename_i s _
    exact of_present? (show present? read (some s) = some r from h)
  · exact of_present? (show present? read none = some r from h)

end

theorem lt_of_count? {s : Source} {n : Nat} (h : count? s = some n) : n < 2 ^ 64 := by
  unfold count? at h
  split at h
  · split at h
    · rename_i admitted
      cases h
      simp only [Bool.and_eq_true, decide_eq_true_eq] at admitted
      exact admitted.2
    · cases h
  · cases h

theorem LastResortEntry.readable_of_lastResort? {s : Source} {e : LastResortEntry}
    (h : lastResort? s = some e) : e.Readable := by
  unfold lastResort? at h
  simp only [Option.bind_eq_bind, Option.bind_eq_some_iff] at h
  obtain ⟨fields, -, h⟩ := h
  split at h
  · simp only [Option.bind_eq_some_iff, Option.pure_def, Option.some.injEq] at h
    obtain ⟨strategy, -, value, hv, rfl⟩ := h
    intro v hm
    obtain ⟨t, ht⟩ := of_present? hv v hm
    exact Json.readable_of_ofSource? t ht
  · cases h

theorem exhausted_of_inferRules? {s : Source} {r : InferRules} (h : inferRules? s = some r) :
    ∀ e ∈ r.exhausted, e.Readable := by
  unfold inferRules? at h
  simp only [Option.bind_eq_bind, Option.bind_eq_some_iff] at h
  obtain ⟨fields, -, h⟩ := h
  split at h
  · simp only [Option.bind_eq_some_iff, Option.pure_def, Option.some.injEq] at h
    obtain ⟨keys, -, queries, -, exhausted, he, rfl⟩ := h
    intro e hm
    obtain ⟨t, ht⟩ := of_nullable? he e hm
    exact LastResortEntry.readable_of_lastResort? ht
  · cases h

theorem FallbackEntry.readable_standard : FallbackEntry.standard.Readable where
  value := by simp [standard]
  exhausted := by simp [standard]

theorem FallbackEntry.readable_of_fallback? {s : Source} {f : FallbackEntry}
    (h : fallback? s = some f) : f.Readable := by
  unfold fallback? at h
  simp only [Option.bind_eq_bind, Option.bind_eq_some_iff] at h
  obtain ⟨fields, -, h⟩ := h
  split at h
  · simp only [Option.bind_eq_some_iff, Option.pure_def, Option.some.injEq] at h
    obtain ⟨strategy, -, value, hv, rules, hr, rfl⟩ := h
    constructor
    · intro v hm
      obtain ⟨t, ht⟩ := of_present? hv v hm
      exact Json.readable_of_ofSource? t ht
    · intro r hm
      obtain ⟨t, ht⟩ := of_nullable? hr r hm
      exact exhausted_of_inferRules? ht
  · cases h

theorem counts_of_fuzzy? {s : Source} {f : FuzzyConfig} (h : fuzzy? s = some f) :
    f.distance < 2 ^ 64 ∧ f.limit < 2 ^ 64 := by
  have small {standard n : Nat} {field : Option Source} (hs : standard < 2 ^ 64)
      (hn : withDefault? standard count? field = some n) : n < 2 ^ 64 := by
    rcases of_withDefault? hn with rfl | ⟨t, ht⟩
    · exact hs
    · exact lt_of_count? ht
  unfold fuzzy? at h
  simp only [Option.bind_eq_bind, Option.bind_eq_some_iff] at h
  obtain ⟨fields, -, h⟩ := h
  split at h
  · simp only [Option.bind_eq_some_iff, Option.pure_def, Option.some.injEq] at h
    obtain ⟨enabled, -, distance, hd, limit, hl, ignoreCase, -, rfl⟩ := h
    exact ⟨small (by decide) hd, small (by decide) hl⟩
  · cases h

theorem readable_of_read? {text : String} {c : Config} (h : read? text = some c) :
    c.Readable := by
  unfold read? ofSource? at h
  simp only [Option.bind_eq_bind, Option.bind_eq_some_iff] at h
  obtain ⟨source, -, fields, -, h⟩ := h
  split at h
  · simp only [Option.bind_eq_some_iff, Option.pure_def, Option.some.injEq] at h
    obtain ⟨aliases, -, fallback, hb, fuzzy, hz, rfl⟩ := h
    have counts : fuzzy.distance < 2 ^ 64 ∧ fuzzy.limit < 2 ^ 64 := by
      rcases of_withDefault? hz with rfl | ⟨t, ht⟩
      · decide
      · exact counts_of_fuzzy? ht
    refine ⟨?_, counts.1, counts.2⟩
    rcases of_withDefault? hb with rfl | ⟨t, ht⟩
    · exact FallbackEntry.readable_standard
    · exact FallbackEntry.readable_of_fallback? ht
  · cases h

/-! ### Reloading -/

/-- A configuration that a text writes is read back from the text it is written as. -/
theorem read?_compact_iff {c : Config} : read? c.toJson.compact = some c ↔ c.Readable := by
  refine ⟨readable_of_read?, fun h => ?_⟩
  rw [read?, Json.compact, String.toList_ofList, Source.ofChars?_chars]
  exact ofSource?_source h

theorem load_eq_ok_iff {text : String} {c : Config} : load text = .ok c ↔ read? text = some c := by
  unfold load
  split
  · rename_i found
    simp [found]
  · rename_i found
    simp [found]

/-- A configuration that is loaded from any text is loaded again from the text it is written as, and
whatever that text is loaded as is written as the same text and validated with the same result. -/
theorem load_written (text : String) (c : Config) (h : load text = .ok c) :
    load c.toJson.compact = .ok c ∧ ∀ c', load c.toJson.compact = .ok c' →
      c'.toJson.compact = c.toJson.compact ∧ c'.validate = c.validate := by
  have again : load c.toJson.compact = .ok c :=
    load_eq_ok_iff.2 (read?_compact_iff.2 (readable_of_read? (load_eq_ok_iff.1 h)))
  refine ⟨again, fun c' h' => ?_⟩
  rw [again] at h'
  cases h'
  exact ⟨rfl, rfl⟩

/-- Records as arrays, a strategy as an object, an explicit null, a minus zero, and a repeated
member. -/
theorem load_written_arrays :
    ∃ c, load
      "[[],[\x7b\"skip\":null\x7d,null,[[],[],[\"error\",\x7b\"b\":1,\"a\":-0,\"b\":2\x7d]]]]"
        = .ok c ∧ load c.toJson.compact = .ok c ∧ c.fallback.value = some .null := by
  have loaded : load
      "[[],[\x7b\"skip\":null\x7d,null,[[],[],[\"error\",\x7b\"b\":1,\"a\":-0,\"b\":2\x7d]]]]"
      = .ok ⟨[], ⟨.skip, some .null, some ⟨[], [], some ⟨.error, some (.object
        [("b", .number (.int 2)),
          ("a", .number (.float ⟨true, 0, 0, by decide, by decide, .inl rfl⟩))])⟩⟩⟩,
        .standard⟩ := by
    cbv
  exact ⟨_, loaded, (load_written _ _ loaded).1, rfl⟩

end PathQuery.Config
