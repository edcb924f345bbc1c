import PathQuery.Proofs.Evaluation.Approximation

/-!
Fallback and fuzzy matching are conservative: they act on misses only. An evaluation that succeeds
without either gives the same output under every fallback and every fuzzy configuration, the
aliases being the same. The reason is that an evaluation without them ends at the first miss, and
nothing in it catches an error.
-/

namespace PathQuery

/-! ### Expansion depends on the aliases alone -/

namespace Policy

variable {p p' : Policy}

theorem stepTarget?_congr (h : p.aliases = p'.aliases) (node : Node) :
    p.stepTarget? node = p'.stepTarget? node := by
  cases node <;> simp [stepTarget?, target?, h]

mutual

theorem expandNode_congr (h : p.aliases = p'.aliases) (node : Node) :
    expandNode p node = expandNode p' node := by
  match node with
  | .path steps => simp only [expandNode, expandSteps_congr h [] steps]
  | .call name args => simp only [expandNode, expandNodes_congr h args]
  | .comparison op left right =>
      simp only [expandNode, expandNode_congr h left, expandNode_congr h right]
  | .condition op left right =>
      simp only [expandNode, expandNode_congr h left, expandNode_congr h right]
  | .not inner => simp only [expandNode, expandNode_congr h inner]
  | .root | .current | .property _ | .index _ | .slice _ | .wildcard | .multiKey _ | .omission _
  | .literal _ => rfl

theorem expandNodes_congr (h : p.aliases = p'.aliases) (nodes : List Node) :
    expandNodes p nodes = expandNodes p' nodes := by
  match nodes with
  | [] => rfl
  | node :: rest =>
      unfold expandNodes
      rw [expandNode_congr h node, expandNodes_congr h rest]

theorem expandSteps_congr (h : p.aliases = p'.aliases) (before : List Step)
    (steps : List (Located Node)) : expandSteps p before steps = expandSteps p' before steps := by
  match steps with
  | [] => rfl
  | ⟨node, position⟩ :: rest =>
      unfold expandSteps
      rw [stepTarget?_congr h node]
      split
      · exact expandSteps_congr h _ rest
      · rw [expandNode_congr h node]
        exact expandSteps_congr h _ rest

end

theorem expand_congr (h : p.aliases = p'.aliases) (q : Query) : p.expand q = p'.expand q := by
  unfold expand
  rw [expandSteps_congr h]

end Policy

/-! ### Misses end an evaluation without fallback -/

/-- Under either of two conditions an evaluation fails at its first miss: it is strict, or the
policy has no other fallback. -/
theorem Scope.fallback_eq_error {s : Scope} (h : s.strict = true ∨ s.policy.fallback = .error) :
    s.fallback = .error := by
  unfold Scope.fallback
  split
  · rfl
  · rename_i plain
    exact h.resolve_left plain

theorem Scope.recover_eq_fail {s : Scope} (h : s.fallback = .error) (m : Miss) :
    s.recover m = .fail m.notFound := by
  unfold recover
  rw [h]
  rfl

/-- Without a fallback every miss is an error. -/
theorem Scope.recover_of_error {s : Scope} (h : s.policy.fallback = .error) (m : Miss) :
    s.recover m = .fail m.notFound :=
  recover_eq_fail (fallback_eq_error (.inr h)) m

/-- A fuzzy look-up finds what an exact one finds. -/
theorem Lookup.member?_of_exact {exact fuzzy : FuzzyConfig} {members : List (String × Json)}
    {name : String} {value : Json} (hx : exact.enabled = false)
    (h : member? exact members name = some value) : member? fuzzy members name = some value := by
  unfold member? at h ⊢
  cases hl : members.lookup name with
  | some v => simpa [hl] using h
  | none => simp [hl, hx] at h

theorem Scope.member_below {s t : Scope} (hs : s.policy.fallback = .error)
    (hx : s.policy.fuzzy.enabled = false) (step : Step) (name : String) (value : Json) :
    Outcome.Below (fun _ => True) (s.member step name value) (t.member step name value) := by
  unfold Scope.member
  rw [recover_of_error hs]
  cases value with
  | object members =>
      dsimp only
      -- an exact hit is a hit of any look-up, and a miss is an error, which is lost
      cases hm : Lookup.member? s.policy.fuzzy members name with
      | some v =>
          rw [Lookup.member?_of_exact hx hm]
          exact .refl _
      | none => exact .of_lost trivial _
  | _ => exact .of_lost trivial _

/-- With every error lost, an evaluation without fallback and fuzzy matching approximates each one
with the same aliases whose paths it approximates. -/
theorem Scope.Below.of_error {s t : Scope} (functions : s.functions = t.functions)
    (base : s.base = t.base) (aliases : s.policy.aliases = t.policy.aliases)
    (hs : s.policy.fallback = .error) (hx : s.policy.fuzzy.enabled = false)
    (enter : ∀ steps, Outcome.Below (fun _ => True) (s.enter s.strict steps)
      (t.enter t.strict steps)) :
    Scope.Below (fun _ => True) s t where
  functions := functions
  base := base
  target name := by simp [Policy.target?, aliases]
  member := Scope.member_below hs hx
  recover m := by
    rw [Scope.recover_of_error hs]
    exact .of_lost trivial _
  enter _ := enter _

variable {p p' : Policy} {functions : Registry}

/-- The induction is on the levels: one level below, aliases are entered as the statement says. -/
theorem enterPath_below (aliases : p.aliases = p'.aliases) (hp : p.fallback = .error)
    (hx : p.fuzzy.enabled = false) (base : Json) (level : Nat) (strict strict' : Bool)
    (steps : List Step) :
    Outcome.Below (fun _ => True) (enterPath p functions base level strict steps)
      (enterPath p' functions base level strict' steps) := by
  induction level generalizing strict strict' steps with
  | zero => exact .refl _
  | succ level ih =>
      have scopes : Scope.Below (fun _ => True)
          ⟨p, functions, base, strict, enterPath p functions base level⟩
          ⟨p', functions, base, strict', enterPath p' functions base level⟩ :=
        .of_error rfl rfl aliases hp hx fun _ => ih _ _ _
      exact scopes.evalSteps _ _

theorem Engine.scope_below (aliases : p.aliases = p'.aliases) (hp : p.fallback = .error)
    (hx : p.fuzzy.enabled = false) (strict strict' : Bool) (base : Json) :
    Scope.Below (fun _ => True) ((Engine.mk p functions strict).scope base)
      ((Engine.mk p' functions strict').scope base) := by
  -- the levels are counted from the aliases, so both evaluations have as many
  have levels : p.levels = p'.levels := by simp [Policy.levels, aliases]
  refine .of_error rfl rfl aliases hp hx fun steps => ?_
  change Outcome.Below _ (enterPath p functions base p.levels _ steps)
    (enterPath p' functions base p'.levels _ steps)
  rw [levels]
  exact enterPath_below aliases hp hx base _ _ _ _

theorem Engine.evalQuery_below (aliases : p.aliases = p'.aliases) (hp : p.fallback = .error)
    (hx : p.fuzzy.enabled = false) (strict strict' : Bool) (q : Query) (document : Json) :
    Outcome.Below (fun _ => True) ((Engine.mk p functions strict).evalQuery q document)
      ((Engine.mk p' functions strict').evalQuery q document) := by
  have scopes : Scope.Below (fun _ => True) ((Engine.mk p functions strict).scope document)
      ((Engine.mk p' functions strict').scope document) :=
    scope_below aliases hp hx strict strict' document
  unfold Engine.evalQuery
  rw [Policy.expand_congr aliases q]
  dsimp only
  refine (scopes.evalSteps _ _).bind fun set => ?_
  split
  · exact (scopes.test _ _).bind fun _ => .refl _
  · exact .refl _

/-- What a query gives without fallback and without fuzzy matching it gives under every fallback and
every fuzzy configuration. -/
theorem evalQuery_of_error_exact (aliases : List Alias) (exact : FuzzyConfig)
    (disabled : exact.enabled = false) (fallback : Fallback) (fuzzy : FuzzyConfig)
    (strict : Bool) (functions : Registry) (q : Query) (document : Json) (o : Output)
    (h : (Engine.mk ⟨aliases, .error, exact⟩ functions strict).evalQuery q document = .ok o) :
    (Engine.mk ⟨aliases, fallback, fuzzy⟩ functions strict).evalQuery q document = .ok o := by
  have below := @Engine.evalQuery_below ⟨aliases, .error, exact⟩ ⟨aliases, fallback, fuzzy⟩
    functions rfl rfl disabled strict strict q document
  exact below.eq_of_ok h

/-- A filter behind an alias, under alternates that would match everything missing. -/
theorem filter_behind_alias_under_infer :
    let aliases : List Alias := [⟨"u", ⟨[⟨.root, 0⟩, ⟨.property "a", 2⟩]⟩⟩]
    let q : Query := ⟨[⟨.root, 0⟩, ⟨.property "u", 2⟩, ⟨.call "filter"
      [.comparison .gt (.path [⟨.current, 11⟩, ⟨.property "n", 13⟩]) (.literal (.number (.int 1)))],
      4⟩]⟩
    let one : Json := .object [("n", .number (.int 1))]
    let two : Json := .object [("n", .number (.int 2))]
    let document : Json := .object [("a", .array [one, two])]
    FuzzyConfig.standard.enabled = false ∧
      (Engine.mk ⟨aliases, .error, .standard⟩ .standard false).evalQuery q document =
        .ok (.values [two]) ∧
      (Engine.mk ⟨aliases, .infer ["m"] [⟨[⟨.root, 0⟩, ⟨.wildcard, 1⟩]⟩] .skip, ⟨true, 3, 2, true⟩⟩
        .standard false).evalQuery q document = .ok (.values [two]) :=
  ⟨rfl, rfl, evalQuery_of_error_exact _ .standard rfl _ _ false .standard _ _ _ rfl⟩

end PathQuery
