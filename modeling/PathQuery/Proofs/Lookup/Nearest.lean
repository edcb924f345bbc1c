import PathQuery.Proofs.Json.Equality
import PathQuery.Proofs.Lookup.Ranking

/-!
The key that a name means: the name itself, or else the first of the near names, if the limit leaves
just one. Neither the order of the members nor, when only one name is looked at, a greater distance
makes a difference to it.
-/

namespace PathQuery.Lookup

/-- How far a member name is from the one asked for. -/
def gap (config : FuzzyConfig) (name key : String) : Nat :=
  EditDistance.distance (foldCase config.ignoreCase name).toList
    (foldCase config.ignoreCase key).toList

/-- The names within the allowed distance. -/
def near (config : FuzzyConfig) (name : String) (keys : List String) : List String :=
  keys.filter fun key => gap config name key ≤ config.distance

/-- The nearest of the near names, the first in lexical order if there are several. -/
structure Nearest (config : FuzzyConfig) (name : String) (keys : List String) (key : String) :
    Prop where
  mem : key ∈ near config name keys
  first : ∀ other ∈ near config name keys, gap config name key < gap config name other ∨
    gap config name key = gap config name other ∧ key.toList ≤ other.toList

/-- The key that a name means in an object with these keys. -/
inductive Means (config : FuzzyConfig) (name : String) (keys : List String) : String → Prop
  | exact : name ∈ keys → Means config name keys name
  | nearest {key : String} : name ∉ keys → config.enabled = true →
      min config.limit (near config name keys).length = 1 → Nearest config name keys key →
      Means config name keys key

variable {config : FuzzyConfig} {name key key' : String} {keys : List String}

theorem mem_near_iff : key ∈ near config name keys ↔
    key ∈ keys ∧ gap config name key ≤ config.distance := by
  rw [near, List.mem_filter, decide_eq_true_eq]

/-! ### Ranks -/

/-- A name with its distance. -/
def scored (config : FuzzyConfig) (name key : String) : Nat × String :=
  (gap config name key, key)

theorem Nearest.unique (h : Nearest config name keys key) (h' : Nearest config name keys key') :
    key = key' := by
  have before : closer (scored config name key) (scored config name key') :=
    closer_iff.2 (h.first key' h'.mem)
  have behind : closer (scored config name key') (scored config name key) :=
    closer_iff.2 (h'.first key h.mem)
  exact congrArg Prod.snd (closer_antisymm before behind)

/-- The near names in the order of their ranks. -/
def ranked (config : FuzzyConfig) (name : String) (keys : List String) : List (Nat × String) :=
  ((near config name keys).map (scored config name)).mergeSort closer

theorem candidates_eq : candidates config name keys =
    ((ranked config name keys).take config.limit).map (·.2) := by
  unfold candidates ranked near
  dsimp only
  rw [List.filter_map]
  rfl

theorem length_ranked : (ranked config name keys).length = (near config name keys).length := by
  rw [ranked, List.length_mergeSort, List.length_map]

theorem mem_ranked {x : Nat × String} :
    x ∈ ranked config name keys ↔ ∃ key ∈ near config name keys, scored config name key = x := by
  rw [ranked, List.mem_mergeSort, List.mem_map]

theorem nearest_of_ranked {x : Nat × String} {rest : List (Nat × String)}
    (h : ranked config name keys = x :: rest) : Nearest config name keys x.2 := by
  have order : (ranked config name keys).Pairwise fun x y => closer x y := pairwise_closer _
  rw [h, List.pairwise_cons] at order
  obtain ⟨key, hk, rfl⟩ := mem_ranked.1 (h ▸ List.mem_cons_self)
  refine ⟨hk, fun other ho => ?_⟩
  have rank : closer (scored config name key) (scored config name other) := by
    have place : scored config name other ∈ scored config name key :: rest :=
      h ▸ mem_ranked.2 ⟨other, ho, rfl⟩
    rcases List.mem_cons.1 place with same | behind
    · rw [same, closer_iff]
      exact .inr ⟨rfl, le_refl _⟩
    · exact order.1 _ behind
  exact closer_iff.1 rank

theorem exists_nearest (some : near config name keys ≠ []) :
    ∃ key, Nearest config name keys key := by
  cases h : ranked config name keys with
  | nil =>
      have number : (ranked config name keys).length = (near config name keys).length :=
        length_ranked
      rw [h] at number
      exact absurd (List.length_eq_zero_iff.1 number.symm) some
  | cons x rest => exact ⟨x.2, nearest_of_ranked h⟩

/-- One candidate is left if just one name is near or looked at, and that is the nearest. -/
theorem candidates_eq_singleton_iff : candidates config name keys = [key] ↔
    min config.limit (near config name keys).length = 1 ∧ Nearest config name keys key := by
  rw [candidates_eq, ← length_ranked]
  cases h : ranked config name keys with
  | nil => simp
  | cons x rest =>
      have nearest := nearest_of_ranked h
      cases config.limit with
      | zero => simp
      | succ limit =>
          have alone : (rest.take limit).map (·.2) = [] ↔ min (limit + 1) (rest.length + 1) = 1 := by
            rw [List.map_eq_nil_iff, List.take_eq_nil_iff, ← List.length_eq_zero_iff]
            omega
          rw [List.take_succ_cons, List.map_cons, List.cons.injEq, alone, List.length_cons]
          constructor
          · rintro ⟨rfl, one⟩
            exact ⟨one, nearest⟩
          · rintro ⟨one, other⟩
            exact ⟨nearest.unique other, one⟩

/-! ### Members -/

theorem Means.unique (h : Means config name keys key) (h' : Means config name keys key') :
    key = key' := by
  cases h with
  | exact present =>
      cases h' with
      | exact _ => rfl
      | nearest absent _ _ _ => exact absurd present absent
  | nearest absent _ _ nearest =>
      cases h' with
      | exact present => exact absurd present absent
      | nearest _ _ _ nearest' => exact nearest.unique nearest'

/-- What is meant depends on the keys and not on their order. -/
theorem Means.perm {keys' : List String} (h : Means config name keys key) (hp : keys.Perm keys') :
    Means config name keys' key := by
  have same : (near config name keys).Perm (near config name keys') := hp.filter _
  cases h with
  | exact present => exact .exact (hp.mem_iff.1 present)
  | nearest absent enabled one nearest =>
      refine .nearest (mt hp.mem_iff.2 absent) enabled (same.length_eq ▸ one) ⟨?_, ?_⟩
      · exact same.mem_iff.1 nearest.mem
      · exact fun other ho => nearest.first other (same.mem_iff.2 ho)

/-- At a greater distance more names are near, none of them as near as the nearest before. -/
theorem Means.mono (h : Means config name keys key) (one : config.limit = 1) {distance : Nat}
    (farther : config.distance ≤ distance) :
    Means { config with distance } name keys key := by
  have kept {other : String} (ho : other ∈ near config name keys) :
      other ∈ near { config with distance } name keys :=
    mem_near_iff.2 ⟨(mem_near_iff.1 ho).1, (mem_near_iff.1 ho).2.trans farther⟩
  cases h with
  | exact present => exact .exact present
  | nearest absent enabled _ nearest =>
      refine .nearest absent enabled ?_ ⟨kept nearest.mem, fun other ho => ?_⟩
      · have := List.length_pos_of_mem (kept nearest.mem)
        show min config.limit _ = 1
        omega
      · show gap config name key < gap config name other ∨ _
        by_cases before : gap config name other ≤ config.distance
        · exact nearest.first other (mem_near_iff.2 ⟨(mem_near_iff.1 ho).1, before⟩)
        · have := (mem_near_iff.1 nearest.mem).2
          omega

variable {members : List (String × Json)}

theorem lookup_eq_none_iff : members.lookup name = none ↔ name ∉ members.map Prod.fst := by
  rw [List.lookup_eq_none_iff, List.mem_map]
  constructor
  · rintro h ⟨m, hm, rfl⟩
    simpa using h m hm
  · intro h m hm
    simpa using fun same => h ⟨m, hm, same.symm⟩

/-- The member of the key that is meant. -/
theorem member?_of_means (h : Means config name (members.map Prod.fst) key) :
    member? config members name = members.lookup key := by
  unfold member?
  cases h with
  | exact present =>
      cases found : members.lookup name with
      | some value => rfl
      | none => exact absurd present (lookup_eq_none_iff.1 found)
  | nearest absent enabled one nearest =>
      rw [lookup_eq_none_iff.2 absent, if_pos enabled,
        candidates_eq_singleton_iff.2 ⟨one, nearest⟩]

/-- Without a key that is meant there is no member. -/
theorem exists_means (h : (member? config members name).isSome) :
    ∃ key, Means config name (members.map Prod.fst) key := by
  unfold member? at h
  by_cases present : name ∈ members.map Prod.fst
  · exact ⟨name, .exact present⟩
  · rw [lookup_eq_none_iff.2 present] at h
    dsimp only at h
    split at h
    · rename_i enabled
      split at h
      · rename_i key alone
        obtain ⟨one, nearest⟩ := candidates_eq_singleton_iff.1 alone
        exact ⟨key, .nearest present enabled one nearest⟩
      · cases h
    · cases h

theorem Means.mem (h : Means config name keys key) : key ∈ keys := by
  cases h with
  | exact present => exact present
  | nearest _ _ _ nearest => exact (mem_near_iff.1 nearest.mem).1

theorem exists_means_iff : (∃ key, Means config name keys key) ↔
    name ∈ keys ∨ config.enabled = true ∧ min config.limit (near config name keys).length = 1 := by
  constructor
  · rintro ⟨key, means⟩
    cases means with
    | exact present => exact .inl present
    | nearest _ enabled one _ => exact .inr ⟨enabled, one⟩
  · rintro (present | ⟨enabled, one⟩)
    · exact ⟨name, .exact present⟩
    · by_cases present : name ∈ keys
      · exact ⟨name, .exact present⟩
      · have some : near config name keys ≠ [] := by
          intro none
          rw [none, List.length_nil] at one
          omega
        obtain ⟨key, nearest⟩ := exists_nearest some
        exact ⟨key, .nearest present enabled one nearest⟩

theorem member?_eq_some_iff (distinct : (members.map Prod.fst).Nodup) (value : Json) :
    member? config members name = some value ↔
      ∃ key, Means config name (members.map Prod.fst) key ∧ (key, value) ∈ members := by
  constructor
  · intro h
    obtain ⟨key, means⟩ := exists_means (Option.isSome_of_eq_some h)
    rw [member?_of_means means] at h
    exact ⟨key, means, Json.mem_of_lookup h⟩
  · rintro ⟨key, means, hm⟩
    rw [member?_of_means means]
    exact Json.lookup_of_mem distinct hm

/-- A member is found just when one key is meant, and it is the member of that key. The order of the
members does not matter, and where one name is looked at, a key that is meant at some distance is
meant at every greater one. -/
theorem member?_by_rank (config : FuzzyConfig) (name : String) {members : List (String × Json)}
    (distinct : (members.map Prod.fst).Nodup) :
    ((member? config members name).isSome ↔ name ∈ members.map Prod.fst ∨ config.enabled = true ∧
      min config.limit (near config name (members.map Prod.fst)).length = 1) ∧
    (∀ value, member? config members name = some value ↔
      ∃ key, Means config name (members.map Prod.fst) key ∧ (key, value) ∈ members) ∧
    (∀ key key', Means config name (members.map Prod.fst) key →
      Means config name (members.map Prod.fst) key' → key = key') ∧
    (∀ members', members.Perm members' →
      member? config members' name = member? config members name) ∧
    (config.limit = 1 → ∀ distance, config.distance ≤ distance → ∀ key,
      Means config name (members.map Prod.fst) key →
        Means { config with distance } name (members.map Prod.fst) key) := by
  refine ⟨?_, member?_eq_some_iff distinct, fun key key' => Means.unique, ?_, ?_⟩
  · rw [← exists_means_iff]
    constructor
    · exact exists_means
    · rintro ⟨key, means⟩
      obtain ⟨m, hm, rfl⟩ := List.mem_map.1 means.mem
      rw [member?_of_means means, Json.lookup_of_mem distinct hm, Option.isSome_some]
  · intro members' shuffled
    have names := shuffled.map Prod.fst
    apply Option.ext
    intro value
    rw [member?_eq_some_iff distinct, member?_eq_some_iff (names.nodup_iff.1 distinct)]
    constructor
    · rintro ⟨key, means, hm⟩
      exact ⟨key, means.perm names.symm, shuffled.mem_iff.2 hm⟩
    · rintro ⟨key, means, hm⟩
      exact ⟨key, means.perm names, shuffled.mem_iff.1 hm⟩
  · exact fun one distance farther key means => means.mono one farther

/-- Of two keys that are equally near the first in lexical order is meant, wherever it stands and
however many names are near. -/
theorem member?_by_rank_tie :
    let config : FuzzyConfig := ⟨true, 1, 1, false⟩
    let members : List (String × Json) :=
      [("colr", .null), ("cooler", .bool false), ("colour", .bool true)]
    (members.map Prod.fst).Nodup ∧ member? config members "color" = some (.bool true) ∧
      member? config members.reverse "color" = some (.bool true) ∧
      Means { config with distance := 2 } "color" (members.map Prod.fst) "colour" := by
  intro config members
  have distinct : (members.map Prod.fst).Nodup := by decide
  have near : near config "color" (members.map Prod.fst) = ["colr", "colour"] := by decide
  have means : Means config "color" (members.map Prod.fst) "colour" := by
    refine .nearest (by decide) rfl (by rw [near]; rfl) ⟨?_, ?_⟩ <;> rw [near]
    · decide
    · decide
  obtain ⟨-, found, -, shuffled, farther⟩ := member?_by_rank config "color" distinct
  have value := (found (.bool true)).2 ⟨"colour", means, by simp [members]⟩
  refine ⟨distinct, value, ?_, farther rfl 2 (by decide) _ means⟩
  rw [shuffled _ (List.reverse_perm members).symm, value]

end PathQuery.Lookup
