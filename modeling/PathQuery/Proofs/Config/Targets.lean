import PathQuery.Proofs.Config.Compiled
import PathQuery.Proofs.Function.Relocation
import PathQuery.Proofs.Query.Respelling

/-!
When two aliases have one target. Validation compares the texts of the paths, white space around
them apart. But a query has other spellings than the one it is printed in: where all paths are
spelled in that way the targets are different, and otherwise a target can be repeated.
-/

namespace PathQuery

/-- Two texts that write one query. -/
def SameQuery (text text' : String) : Prop :=
  ∃ q q', Query.parse text = .ok q ∧ Query.parse text' = .ok q' ∧ q.bare = q'.bare

/-- The printed text shows no positions. -/
theorem Query.text_relocate (f : Nat → Nat) (q : Query) : (q.relocate f).text = q.text := by
  refine congrArg String.ofList ?_
  rw [Query.relocate, List.flatMap_map]
  refine List.flatMap_congr fun s _ => ?_
  simp only [Step.relocate, Node.isCondition_relocate, Node.chars_relocate]

namespace Config

/-! ### A spelling that is not taken -/

/-- The blanks behind the root are inside the text, since something is behind them. -/
theorem length_trim_spreadRoot {cs : List Char} (some : cs ≠ []) (start : Scanner.StartsAtOnce cs)
    (n : Nat) : n < (trim (spreadRoot cs n)).length := by
  have front : trimStart (spreadRoot cs n).toList = '$' :: (List.replicate n ' ' ++ cs) := by
    rw [spreadRoot, String.toList_ofList]
    rfl
  -- the first character of `cs` ends the white space at the end
  have ends : (cs.reverse.dropWhile Unicode.isWhiteSpace).isEmpty = false := by
    obtain ⟨c, cs, rfl⟩ := List.exists_cons_of_ne_nil some
    rw [List.isEmpty_eq_false_iff, Ne, List.dropWhile_eq_nil_iff]
    intro blank
    have first := start c rfl
    rw [blank c (by simp)] at first
    cases first
  unfold trim
  rw [front, trimStart, List.reverse_cons, List.reverse_append, List.append_assoc,
    List.dropWhile_append, ends]
  simp

/-- A query other than the root has a spelling that is not among those taken. -/
theorem exists_respelling {text : String} {q : Query} (read : Query.parse text = .ok q)
    (more : q.bare ≠ ⟨[⟨.root, 0⟩]⟩) (taken : List (List Char)) :
    ∃ path q', trim path ∉ taken ∧ Query.parse path = .ok q' ∧ q'.bare = q.bare := by
  obtain ⟨cs, some, start, spellings⟩ := exists_spreadRoot read more
  -- with more blanks than the longest of them is long
  let n := (taken.map List.length).sum
  obtain ⟨q', read', bare⟩ := spellings n
  refine ⟨_, q', fun among => ?_, read', bare⟩
  have long := length_trim_spreadRoot some start n
  have short : (trim (spreadRoot cs n)).length ≤ n :=
    List.le_sum_of_mem (List.mem_map_of_mem among)
  omega

/-! ### Targets and the texts that write them -/

section

variable {c : Config} {p : Policy} {entries : List AliasEntry} {aliases : List Alias}

theorem sameQuery_iff {e e' : AliasEntry} {a a' : Alias} (h : e.CompiledTo a)
    (h' : e'.CompiledTo a') :
    SameQuery e.path e'.path ↔ a.target.bare = a'.target.bare := by
  constructor
  · rintro ⟨q, q', read, read', same⟩
    cases h.target.1.symm.trans read
    cases h'.target.1.symm.trans read'
    exact same
  · exact fun same => ⟨_, _, h.target.1, h'.target.1, same⟩

/-- What relates an entry to what it is compiled into relates pairs of them. -/
theorem pairwise_iff_of_forall₂ {α β : Type} {R : α → β → Prop} {S : α → α → Prop}
    {T : β → β → Prop} (same : ∀ x y x' y', R x y → R x' y' → (S x x' ↔ T y y')) {xs : List α}
    {ys : List β} (h : List.Forall₂ R xs ys) : xs.Pairwise S ↔ ys.Pairwise T := by
  have related (x : α) (y : β) (hxy : R x y) {xs : List α} {ys : List β}
      (h : List.Forall₂ R xs ys) : (∀ x' ∈ xs, S x x') ↔ ∀ y' ∈ ys, T y y' := by
    induction h with
    | nil => simp
    | cons hx _ ih => rw [List.forall_mem_cons, List.forall_mem_cons, ih, same _ _ _ _ hxy hx]
  induction h with
  | nil => simp
  | cons hx h ih =>
      rw [List.pairwise_cons, List.pairwise_cons]
      exact and_congr (related _ _ hx h) ih

theorem nodup_targets_iff (h : List.Forall₂ AliasEntry.CompiledTo entries aliases) :
    (aliases.map fun a => a.target.bare).Nodup ↔
      entries.Pairwise fun e e' => ¬SameQuery e.path e'.path := by
  rw [List.Nodup, List.pairwise_map]
  exact (pairwise_iff_of_forall₂ (R := AliasEntry.CompiledTo)
    (fun _ _ _ _ h h' => not_congr (sameQuery_iff h h')) h).symm

/-- Paths as they are printed are the same where their targets are. -/
theorem nodup_targets_of_printed
    (h : List.Forall₂ (fun e a => trim e.path = a.target.text.toList) entries aliases)
    (paths : (entries.map fun e => trim e.path).Nodup) :
    (aliases.map fun a => a.target.bare).Nodup := by
  have texts : (aliases.map fun a => a.target.text.toList).Nodup := by
    rw [List.Nodup, List.pairwise_map] at paths ⊢
    refine (pairwise_iff_of_forall₂ (fun _ _ _ _ h h' => ?_) h).1 paths
    rw [h, h']
  rw [List.Nodup, List.pairwise_map] at texts ⊢
  refine texts.imp fun {a a'} different same => different (congrArg String.toList ?_)
  calc a.target.text = a.target.bare.text := (Query.text_relocate _ _).symm
    _ = a'.target.bare.text := by rw [same]
    _ = a'.target.text := Query.text_relocate _ _

/-! ### One more alias -/

theorem paths_of_validate (h : c.validate = .ok p) :
    (c.aliases.map fun e => trim e.path).Nodup := by
  obtain ⟨aliases, fallback, ha, -, -⟩ := validate_eq_ok_iff.1 h
  exact (compileAliases_eq_ok_iff.1 ha).2.2.1.1

theorem nodup_map_append_singleton {α β : Type} {f : α → β} {xs : List α} {x : α}
    (h : (xs.map f).Nodup) (new : f x ∉ xs.map f) : ((xs ++ [x]).map f).Nodup := by
  rw [List.map_append, List.map_singleton]
  exact h.append (List.nodup_singleton _) (List.disjoint_singleton.2 new)

/-- One more alias is accepted when its name and the text of its path are new. -/
theorem validate_append (h : c.validate = .ok p) {e : AliasEntry} {a : Alias} (named : e.Named)
    (name : e.name ∉ c.aliases.map AliasEntry.name)
    (path : trim e.path ∉ c.aliases.map fun e => trim e.path) (target : e.CompiledTo a) :
    validate { c with aliases := c.aliases ++ [e] } =
      .ok { p with aliases := p.aliases ++ [a] } := by
  obtain ⟨aliases, fallback, ha, hf, rfl⟩ := validate_eq_ok_iff.1 h
  obtain ⟨othersNamed, ⟨names, -⟩, ⟨paths, -⟩, targets⟩ := compileAliases_eq_ok_iff.1 ha
  refine validate_eq_ok_iff.2 ⟨_, _, compileAliases_eq_ok_iff.2 ⟨?_, ?_, ?_, ?_⟩, hf, rfl⟩
  · exact List.forall_mem_append.2 ⟨othersNamed, List.forall_mem_singleton.2 named⟩
  · exact ⟨nodup_map_append_singleton names name, List.disjoint_nil_left _⟩
  · exact ⟨nodup_map_append_singleton paths path, List.disjoint_nil_left _⟩
  · exact List.rel_append targets (.cons target .nil)

/-- Accepted aliases have different targets if and only if no two of their paths write one query.
They do where all paths are spelled as they are printed. Otherwise the target of any alias, unless
it is the root, can be repeated under any further name. -/
theorem targets_nodup_iff (h : c.validate = .ok p) :
    ((p.aliases.map fun a => a.target.bare).Nodup ↔
        c.aliases.Pairwise fun e e' => ¬SameQuery e.path e'.path) ∧
      (List.Forall₂ (fun e a => trim e.path = a.target.text.toList) c.aliases p.aliases →
        (p.aliases.map fun a => a.target.bare).Nodup) ∧
      ∀ a ∈ p.aliases, a.target.bare ≠ ⟨[⟨.root, 0⟩]⟩ →
        ∀ name, (trim name).isEmpty = false → name ∉ c.aliases.map AliasEntry.name →
          ∃ path target, target.bare = a.target.bare ∧
            validate { c with aliases := c.aliases ++ [⟨name, path⟩] } =
              .ok { p with aliases := p.aliases ++ [⟨name, target⟩] } := by
  have compiled := validate_compiledTo h
  refine ⟨nodup_targets_iff compiled.aliases,
    fun printed => nodup_targets_of_printed printed (paths_of_validate h), ?_⟩
  intro a ha more name named new
  obtain ⟨text, read, plain⟩ := compiled.target ha
  obtain ⟨path, target, untaken, read', bare⟩ :=
    exists_respelling read more (c.aliases.map fun e => trim e.path)
  have plain' : target.isPredicate = false := by
    calc target.isPredicate = target.bare.isPredicate := (isPredicate_relocate _ _).symm
      _ = a.target.bare.isPredicate := by rw [bare]
      _ = a.target.isPredicate := isPredicate_relocate _ _
      _ = false := plain
  exact ⟨path, target, bare,
    validate_append h (named_iff.2 named) new untaken ⟨rfl, read', plain'⟩⟩

/-- Two paths as they are printed, one of them with white space around it. A third alias with the
first target is accepted. -/
theorem targets_nodup_iff_printed :
    ∃ user id, validate ⟨[⟨"u", "$.user"⟩, ⟨"w", " $.id "⟩], .standard, .standard⟩ =
        .ok ⟨[⟨"u", user⟩, ⟨"w", id⟩], .error, .standard⟩ ∧
      [user.bare, id.bare].Nodup ∧
      ∃ path target, target.bare = user.bare ∧
        validate ⟨[⟨"u", "$.user"⟩, ⟨"w", " $.id "⟩, ⟨"v", path⟩], .standard, .standard⟩ =
          .ok ⟨[⟨"u", user⟩, ⟨"w", id⟩, ⟨"v", target⟩], .error, .standard⟩ := by
  have targets : List.Forall₂ AliasEntry.CompiledTo [⟨"u", "$.user"⟩, ⟨"w", " $.id "⟩]
      [⟨"u", ⟨[⟨.root, 0⟩, ⟨.property "user", 2⟩]⟩⟩,
        ⟨"w", ⟨[⟨.root, 1⟩, ⟨.property "id", 3⟩]⟩⟩] :=
    .cons ⟨rfl, by cbv, rfl⟩ (.cons ⟨rfl, by cbv, rfl⟩ .nil)
  have accepted := validate_aliases (by decide) (by decide) (by decide) targets .standard
  obtain ⟨-, printed, repeated⟩ := targets_nodup_iff accepted
  exact ⟨_, _, accepted, printed (.cons (by decide) (.cons (by decide) .nil)),
    repeated _ List.mem_cons_self (fun same => by cases same) "v" (by decide) (by decide)⟩

/-- The target of an alias is accepted again, spelled without the root. -/
theorem repeated_target_accepted :
    ∃ p, validate ⟨[⟨"u", "$.user.name"⟩, ⟨"v", "user.name"⟩], .standard, .standard⟩ = .ok p ∧
      ¬(p.aliases.map fun a => a.target.bare).Nodup := by
  have targets : List.Forall₂ AliasEntry.CompiledTo [⟨"u", "$.user.name"⟩, ⟨"v", "user.name"⟩]
      [⟨"u", ⟨[⟨.root, 0⟩, ⟨.property "user", 2⟩, ⟨.property "name", 7⟩]⟩⟩,
        ⟨"v", ⟨[⟨.root, 0⟩, ⟨.property "user", 0⟩, ⟨.property "name", 5⟩]⟩⟩] :=
    .cons ⟨rfl, by cbv, rfl⟩ (.cons ⟨rfl, by cbv, rfl⟩ .nil)
  refine ⟨_, validate_aliases (by decide) (by decide) (by decide) targets .standard,
    fun different => ?_⟩
  exact (List.nodup_cons.1 different).1 List.mem_cons_self

end

end Config

end PathQuery
